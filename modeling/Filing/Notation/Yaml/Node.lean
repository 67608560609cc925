import Filing.Notation.Yaml.Token

/-!
The nodes of a document: scalars, sequences and mappings, and aliases for nodes with an anchor.

A node may be left out before a token that cannot begin one; it is an empty scalar then.
-/
namespace Filing.Notation.Yaml

/-- The number that an anchor stands for, and a tag written out. -/
structure Properties where
  anchor : Option Nat := none
  tag : Option (List Char) := none

inductive Node where
  | alias (anchor : Nat)
  | scalar (properties : Properties) (text : List Char) (isPlain : Bool)
  | sequence (properties : Properties) (items : List Node)
  | mapping (properties : Properties) (fields : List (Node × Node))

def Node.empty : Node := .scalar {} [] true

structure Parser where
  tokens : List Token
  /-- What the tags of a handle begin with. -/
  handles : List (List Char × List Char) := []
  /-- The numbers of the anchors so far, by name. -/
  anchors : List (List Char × Nat) := []

abbrev Parse := StateT Parser Option

namespace Parse

def peek? : Parse (Option Token) := return (← get).tokens.head?

def take : Parse Unit := modify fun p => { p with tokens := p.tokens.tail }

/-- Takes the next token if it is the expected one, and says whether it was. -/
def optional (expected : Token) : Parse Bool := do
  if (← peek?) = some expected then
    take
    return true
  else return false

def expect (expected : Token) : Parse Unit := do
  if !(← optional expected) then failure

/-- Enough turns for anything that takes a token in each. -/
def turns : Parse Nat := return (← get).tokens.length + 1

def isNextAmong (tokens : List Token) : Parse Bool := return (← peek?).any tokens.contains

def nodeUnless (ends : List Token) (node : Parse Node) : Parse Node := do
  if ← isNextAmong ends then return .empty else node

/-! ## By indentation -/

def blockItems (item : Parse Node) : (turns : Nat) → Parse (List Node)
  | 0 => failure
  | turns + 1 => do
    if ← optional .dash then
      return (← nodeUnless [.dash, .blockEnd] item) :: (← blockItems item turns)
    else
      expect .blockEnd
      return []

/-- The items of a sequence at the column of the mapping that it belongs to. -/
def itemsAtKey (item : Parse Node) : (turns : Nat) → Parse (List Node)
  | 0 => failure
  | turns + 1 => do
    if ← optional .dash then
      return (← nodeUnless [.dash, .key, .value, .blockEnd] item) :: (← itemsAtKey item turns)
    else return []

def blockFields (node : Parse Node) : (turns : Nat) → Parse (List (Node × Node))
  | 0 => failure
  | turns + 1 => do
    let node? := nodeUnless [.key, .value, .blockEnd] node
    if ← optional .key then
      let key ← node?
      let value ← if ← optional .value then node? else pure .empty
      return (key, value) :: (← blockFields node turns)
    else
      expect .blockEnd
      return []

/-! ## Between marks -/

/-- An item of a sequence that is a mapping of one key. A mark in place of the key is passed over. -/
def loneField (node : Parse Node) : Parse (Node × Node) := do
  let key ←
    if ← isNextAmong [.value, .comma, .sequenceEnd] then do
      take
      pure .empty
    else node
  let value ← if ← optional .value then nodeUnless [.comma, .sequenceEnd] node else pure .empty
  return (key, value)

def markedItems (node : Parse Node) (isFirst : Bool) : (turns : Nat) → Parse (List Node)
  | 0 => failure
  | turns + 1 => do
    if ← optional .sequenceEnd then return []
    if !isFirst then expect .comma
    if ← optional .key then
      return .mapping {} [← loneField node] :: (← markedItems node false turns)
    else if ← optional .sequenceEnd then return []
    else return (← node) :: (← markedItems node false turns)

def markedFields (node : Parse Node) (isFirst : Bool) : (turns : Nat) → Parse (List (Node × Node))
  | 0 => failure
  | turns + 1 => do
    if ← optional .mappingEnd then return []
    if !isFirst then expect .comma
    if ← optional .key then
      let key ← nodeUnless [.value, .comma, .mappingEnd] node
      let value ← if ← optional .value then nodeUnless [.comma, .mappingEnd] node else pure .empty
      return (key, value) :: (← markedFields node false turns)
    else if ← optional .mappingEnd then return []
    else return (← node, .empty) :: (← markedFields node false turns)

/-! ## Nodes -/

/-- A name given again stands for the later node from then on. -/
def newAnchor (name : List Char) : Parse Nat := do
  let { anchors, .. } ← get
  let number := anchors.length
  modify ({ · with anchors := (name, number) :: anchors.filter (·.1 ≠ name) })
  return number

def tagText (tag : WrittenTag) : Parse (List Char) := do
  if tag.handle.isEmpty then return tag.suffix
  else
    let beginning ← liftM ((← get).handles.lookup tag.handle)
    return beginning ++ tag.suffix

def anchor? : Parse (Option (List Char)) := do
  match ← peek? with
  | some (.anchor name) =>
    take
    return some name
  | _ => return none

def tag? : Parse (Option (List Char)) := do
  match ← peek? with
  | some (.tag tag) =>
    take
    return some (← tagText tag)
  | _ => return none

/-- An anchor and a tag may come in either order. -/
def properties : Parse Properties := do
  let before ← anchor?
  let tag ← tag?
  let name ← if before.isSome then pure before else if tag.isSome then anchor? else pure none
  return { anchor := ← name.mapM newAnchor, tag }

/--
A node whose containers nest no deeper than `nesting` levels. Blocks stand outside marks only, and
only below a key a sequence may do without a block of its own.
-/
def node : (nesting : Nat) → (isBlock isAtKey : Bool) → Parse Node
  | 0, _, _ => failure
  | nesting + 1, isBlock, isAtKey => do
    if let some (.alias name) ← peek? then
      take
      return .alias (← liftM ((← get).anchors.lookup name))
    let properties ← properties
    let turns ← turns
    let next ← peek?
    match next, isBlock with
    | some (.scalar text isPlain), _ =>
      take
      -- An exclamation mark as a tag says nothing about a scalar.
      return .scalar { properties with tag := properties.tag.filter (· ≠ ['!']) } text isPlain
    | some .sequenceStart, _ =>
      take
      return .sequence properties (← markedItems (node nesting false false) true turns)
    | some .mappingStart, _ =>
      take
      return .mapping properties (← markedFields (node nesting false false) true turns)
    | some .blockSequence, true =>
      take
      return .sequence properties (← blockItems (node nesting true false) turns)
    | some .blockMapping, true =>
      take
      return .mapping properties (← blockFields (node nesting true true) turns)
    | _, _ =>
      if isAtKey && next = some .dash then
        return .sequence properties (← itemsAtKey (node nesting true false) turns)
      else if properties.anchor.isSome || properties.tag.isSome then return .scalar properties [] true
      else failure

/-! ## Documents -/

def directives : (turns : Nat) → Parse (List Directive)
  | 0 => failure
  | turns + 1 => do
    match ← peek? with
    | some (.directive directive) =>
      take
      return directive :: (← directives turns)
    | _ => return []

def standardHandles : List (List Char × List Char) :=
  [(['!'], ['!']), (['!', '!'], coreTag "")]

/-- What directives say about handles. None may be said twice, nor the version, which is 1.1 or 1.2. -/
def handlesOf? (directives : List Directive) : Option (List (List Char × List Char)) :=
  let versions := directives.filterMap fun
    | .version major minor => some (major, minor)
    | .handle .. => none
  let handles := directives.filterMap fun
    | .handle handle beginning => some (handle, beginning)
    | .version .. => none
  if versions.length ≤ 1 && versions.all [(1, 1), (1, 2)].contains && (handles.map (·.1)).Nodup then
    some (handles ++ standardHandles)
  else none

def skipDocumentEnds : (turns : Nat) → Parse Unit
  | 0 => failure
  | turns + 1 => do if ← optional .documentEnd then skipDocumentEnds turns

def isOutsideDocuments : Token → Bool
  | .directive _ | .documentStart | .documentEnd => true
  | _ => false

/-- The one document of a text; it may have none. -/
def document : Parse (Option Node) := do
  match ← peek? with
  | none => return none
  | some first =>
    let isExplicit := isOutsideDocuments first && first ≠ .documentEnd
    let handles ← liftM (handlesOf? (← directives (← turns)))
    modify ({ · with handles })
    if isExplicit then expect .documentStart
    let isEmpty := isExplicit && (← peek?).all isOutsideDocuments
    let root ← if isEmpty then pure .empty else node (← turns) true false
    skipDocumentEnds (← turns)
    if (← peek?).isNone then return some root else failure

end Parse

def node? (tokens : List Token) : Option (Option Node) := do
  let (root, _) ← Parse.document { tokens }
  return root

end Filing.Notation.Yaml
