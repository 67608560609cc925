import Filing.Notation.Number
import Filing.Notation.Yaml.Node
import Filing.Settings.Value

/-!
Settings in YAML: blocks by indentation, sequences and mappings between marks, scalars of every
style, anchors and aliases, tags and directives. A text holds one document at most.

A text is read as tokens (`tokens?`), the tokens as nodes (`node?`), and here it is said what the
nodes stand for.
-/
namespace Filing.Notation.Yaml

/-! ## Scalars -/

/-- Leading zeros make digits a text. -/
def isPaddedDigits (cs : List Char) : Bool :=
  match (splitSign cs).2 with
  | '0' :: rest => !rest.isEmpty && rest.all isDigit
  | _ => false

def wholeOf? (base : Nat) (negative : Bool) (digits : List Char) : Option Int :=
  if digits.isEmpty || !digits.all (isDigitOf base) then none
  else
    let magnitude : Int := ofDigits base digits
    some (if negative then -magnitude else magnitude)

/-- A whole number that fits a 128-bit word, with sign or without. -/
def whole? (cs : List Char) : Option Int :=
  let whole := match splitSign cs with
    | (negative, '0' :: 'x' :: digits) => wholeOf? 16 negative digits
    | (negative, '0' :: 'o' :: digits) => wholeOf? 8 negative digits
    | (negative, '0' :: 'b' :: digits) => wholeOf? 2 negative digits
    | (negative, digits) => if isPaddedDigits cs then none else wholeOf? 10 negative digits
  whole.filter fun n => -(wordSize 127 : Int) ≤ n && n < wordSize 128

def specialReals : List String :=
  [".inf", ".Inf", ".INF", "+.inf", "+.Inf", "+.INF", "-.inf", "-.Inf", "-.INF", ".nan", ".NaN", ".NAN"]

def null? (cs : List Char) : Option Value :=
  if ["~", "null", "Null", "NULL"].contains (String.ofList cs) then some .null else none

def truth? (cs : List Char) : Option Value :=
  let text := String.ofList cs
  if ["true", "True", "TRUE"].contains text then some (.bool true)
  else if ["false", "False", "FALSE"].contains text then some (.bool false)
  else none

def int? (cs : List Char) : Option Value := (whole? cs).map .int

def real? (cs : List Char) : Option Value :=
  if specialReals.contains (String.ofList cs) || (decimal? cs).any (!·.isBeyondDoubles) then some .real
  else none

/-- What a scalar without quotes stands for. -/
def ofPlain (cs : List Char) : Value :=
  let number? := int? cs <|> if isPaddedDigits cs then none else real? cs
  if cs.isEmpty then .null
  else (null? cs <|> truth? cs <|> number?).getD (.text (String.ofList cs))

/-- A tag of the document's own, which no setting has. -/
def isOwnTag (tag : List Char) : Bool := tag.head? = some '!'

def scalarValue? (tag : Option (List Char)) (cs : List Char) (isPlain : Bool) : Option Value :=
  match tag with
  | none => some (if isPlain then ofPlain cs else .text (String.ofList cs))
  | some tag =>
    if isOwnTag tag then none
    else if tag = coreTag "null" then null? cs
    else if tag = coreTag "bool" then truth? cs
    else if tag = coreTag "int" then int? cs
    else if tag = coreTag "float" then real? cs
    else some (.text (String.ofList cs))

/-! ## Nodes -/

mutual

/-- A node and all nodes in it, in the order of the text. -/
def Node.all : Node → List Node
  | .sequence properties items => .sequence properties items :: allOfItems items
  | .mapping properties fields => .mapping properties fields :: allOfFields fields
  | .scalar properties text isPlain => [.scalar properties text isPlain]
  | .alias anchor => [.alias anchor]

def allOfItems : List Node → List Node
  | [] => []
  | item :: later => item.all ++ allOfItems later

def allOfFields : List (Node × Node) → List Node
  | [] => []
  | (key, value) :: later => key.all ++ value.all ++ allOfFields later

end

def Node.anchor? : Node → Option Nat
  | .alias _ => none
  | .scalar properties .. | .sequence properties _ | .mapping properties _ => properties.anchor

/-- The last node with each anchor counts, also for the aliases before it. -/
def Node.targets (root : Node) : List (Nat × Node) :=
  (root.all.filterMap fun node => node.anchor?.map fun anchor => (anchor, node)).reverse

def Node.isContainer : Node → Bool
  | .sequence .. | .mapping .. => true
  | .scalar .. | .alias _ => false

/-- How often aliases may be followed: a hundred times for every node, twice that for containers. -/
def Node.aliasLimit (root : Node) : Nat :=
  100 * (root.all.length + (root.all.filter Node.isContainer).length)

/-- Reading counts how often aliases may still be followed. -/
abbrev Reading := StateT Nat Option

/-- The node that an alias stands for. -/
def follow (targets : List (Nat × Node)) : Node → Reading Node
  | .alias anchor => do
    let left ← get
    if left = 0 then failure
    set (left - 1)
    liftM (targets.lookup anchor)
  | node => return node

/-- A key is the text of a scalar, whatever its tag. -/
def keyOf (targets : List (Nat × Node)) (node : Node) : Reading String := do
  match ← follow targets node with
  | .scalar _ text _ => return String.ofList text
  | _ => failure

/-- Of a key given twice the last value counts. -/
def tableOf (targets : List (Nat × Node)) (value : Node → Reading Value)
    (fields : List (Node × Node)) : Reading Value := do
  let fields ← fields.mapM fun (key, node) => return (← keyOf targets key, ← value node)
  return .table (fields.foldl (fun table (key, v) => Value.Fields.set key v table) [])

/-- The value of a node. What containers hold is read by `item?`. -/
def valueOf (targets : List (Nat × Node)) (item? : Option (Node → Reading Value)) (node : Node) :
    Reading Value := do
  match ← follow targets node, item? with
  | .scalar properties text isPlain, _ => liftM (scalarValue? properties.tag text isPlain)
  | .sequence properties items, some item =>
    if properties.tag.any isOwnTag then failure
    return .list (← items.mapM item)
  | .mapping properties fields, some item =>
    if properties.tag.any isOwnTag then failure
    tableOf targets item fields
  | _, _ => failure

/-- The value of a node whose containers nest no deeper than `nesting` levels. -/
def value (targets : List (Nat × Node)) : (nesting : Nat) → Node → Reading Value
  | 0 => valueOf targets none
  | nesting + 1 => valueOf targets (some (value targets nesting))

/-- Settings are a mapping, and so is an empty scalar. Containers nest no deeper than 128 levels. -/
def tableOfRoot (root : Node) : Reading Value :=
  match root with
  | .mapping _ fields => tableOf root.targets (value root.targets 127) fields
  | .scalar _ [] true => return .table []
  | _ => failure

/-! ## Texts -/

/-- Characters that may stand in a document at all, unescaped. -/
def isAllowed (c : Char) : Bool :=
  ['\t', '\n', '\r', '\u0085'].contains c || (0x20 ≤ c.toNat && c.toNat ≤ 0x7E) ||
    (0xA0 ≤ c.toNat && c.toNat ≠ 0xFFFE && c.toNat ≠ 0xFFFF)

/-- A text without a document is an empty table. -/
def read? (source : String) : Option Value := do
  let ((), text) ← Reader.skipByteOrderMark source.toList
  if !text.all isAllowed then none
  match ← node? (← tokens? text) with
  | none => return .table []
  | some root =>
    let (settings, _) ← tableOfRoot root root.aliasLimit
    return settings

end Filing.Notation.Yaml
