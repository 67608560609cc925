import Filing.Store.Error

/-!
Why one item of a request could not be dealt with. The request goes on with the next item and
nothing is rolled back.
-/
namespace Filing

inductive Permission where
  | edit
  | delete
  deriving DecidableEq

def Permission.text : Permission → String
  | edit => "edit"
  | delete => "delete"

inductive RequestError where
  /-- The folder would end up inside itself. -/
  | cycle (folder : EntityId)
  | permissionDenied (action : Permission) (id : EntityId)
  | destinationMissing (folder : EntityId)
  /-- Another item in `parent` has the display name. -/
  | nameCollision (name : String) (parent : EntityId)
  /-- Nobody answered whether this file may take another's place. -/
  | interrupted (file : EntityId)
  /-- The store failed, or lost an entity that had just been there. -/
  | storage (cause : Option StoreError)
  deriving DecidableEq

namespace RequestError

def message : RequestError → String
  | cycle folder => "cannot put " ++ folder.display ++ " into itself or one of its descendants"
  | permissionDenied action id => "permission denied: cannot " ++ action.text ++ " " ++ id.display
  | destinationMissing folder => "destination folder does not exist: " ++ folder.display
  | nameCollision name parent =>
    parent.display ++ " already contains an item named " ++ Text.quote name
  | interrupted file =>
    "no answer about overwriting with " ++ file.display ++ "; existing file kept"
  | storage _ => "storage operation failed"

def retryable : RequestError → Bool
  | storage _ | interrupted _ => true
  | _ => false

/-- The store's own error behind this one. -/
def cause : RequestError → Option StoreError
  | storage cause => cause
  | _ => none

end RequestError

end Filing
