import Filing.Settings.Basic

/-!
Settings as their sources give them: values of any kind, in tables by name. Later sources are laid
over earlier ones (`Value.overlay`), and what comes out has to be of the right kinds exactly
(`Settings.ofValue?`).
-/
namespace Filing

inductive Value where
  | null
  | bool (value : Bool)
  | int (value : Int)
  /-- A number with a fraction or an exponent, or too large for a word. No setting takes one. -/
  | real
  | text (value : String)
  | list (items : List Value)
  | table (fields : List (String × Value))

namespace Value

abbrev Fields := List (String × Value)

def Fields.get? (fields : Fields) (key : String) : Option Value :=
  (fields.find? (·.1 = key)).map (·.2)

/-- Gives `key` a value, instead of the one it had. -/
def Fields.set (key : String) (value : Value) : Fields → Fields
  | [] => [(key, value)]
  | field :: later => if field.1 = key then (key, value) :: later else field :: Fields.set key value later

mutual

/-- The value `later` laid over `earlier`: tables field by field, anything else as a whole. -/
def overlay (earlier : Value) : (later : Value) → Value
  | .table fields =>
    match earlier with
    | .table under => .table (overlayFields under fields)
    | _ => .table fields
  | later => later

def overlayFields (earlier : List (String × Value)) :
    (later : List (String × Value)) → List (String × Value)
  | [] => earlier
  | (key, value) :: later =>
    let merged := match Fields.get? earlier key with
      | some under => overlay under value
      | none => value
    overlayFields (Fields.set key merged earlier) later

end

/-- The value at the end of a path of keys. -/
def atPath (path : List String) (value : Value) : Value :=
  path.foldr (fun key inner => .table [(key, inner)]) value

/-- A section is a table, or a list of its fields in their order. -/
def field? (value : Value) (key : String) (position : Nat) : Option (Option Value) :=
  match value with
  | .table fields => some (Fields.get? fields key)
  | .list items => some items[position]?
  | _ => none

def asBool? : Value → Option Bool
  | .bool b => some b
  | _ => none

def asText? : Value → Option String
  | .text s => some s
  | _ => none

/-- A whole number that fits 32 bits. -/
def asWord? : Value → Option UInt32
  | .int n => if 0 ≤ n ∧ n < UInt32.size then some (UInt32.ofNat n.toNat) else none
  | _ => none

/-- A field read by `read`, or the default if it is left out. -/
def fieldOr? {α : Type} (value : Value) (key : String) (position : Nat) (read : Value → Option α)
    (default : α) : Option α := do
  match ← value.field? key position with
  | some field => read field
  | none => return default

end Value

namespace Settings

def toValue (s : Settings) : Value :=
  .table
    [("planner", .table [("interactive", .bool s.interactive)]),
     ("uniquifier", .table
       [("separator", .text s.separator), ("first_suffix", .int s.firstSuffix.toNat),
        ("max_attempts", .int s.maxAttempts.toNat)])]

/-- Unknown fields are ignored, missing ones take their defaults. -/
def ofValue? (value : Value) : Option Settings := do
  let standard : Settings := {}
  let section? (key : String) (position : Nat) : Option Value :=
    value.fieldOr? key position some (.table [])
  let planner ← section? "planner" 0
  let uniquifier ← section? "uniquifier" 1
  return {
    interactive := ← planner.fieldOr? "interactive" 0 Value.asBool? standard.interactive
    separator := ← uniquifier.fieldOr? "separator" 0 Value.asText? standard.separator
    firstSuffix := ← uniquifier.fieldOr? "first_suffix" 1 Value.asWord? standard.firstSuffix
    maxAttempts := ← uniquifier.fieldOr? "max_attempts" 2 Value.asWord? standard.maxAttempts }

end Settings

end Filing
