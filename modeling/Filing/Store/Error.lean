import Filing.EntityId

/-!
What a store call can fail with.
-/
namespace Filing

inductive StoreError where
  | notFound (id : EntityId)
  | alreadyExists (id : EntityId)
  /-- The text of a segment that no identifier can hold, as it was given. -/
  | invalidId (segment : String)
  /-- No candidate derived from the desired name was free. -/
  | exhausted (desired : String)
  /-- The store itself failed: a connection, a query, a codec. -/
  | backend (reason : String)
  deriving DecidableEq

namespace StoreError

def message : StoreError → String
  | notFound id => "entity not found: " ++ id.display
  | alreadyExists id => "entity already exists: " ++ id.display
  | invalidId segment => "invalid identifier: " ++ Text.quote segment
  | exhausted desired => "no free identifier left for: " ++ desired
  | backend reason => "backend error: " ++ reason

/-- Only a failure of the store itself may pass by itself. -/
def retryable : StoreError → Bool
  | backend _ => true
  | _ => false

end StoreError

end Filing
