import Filing.Notation.Yaml.Place

/-!
Tags, which say what kind of value a node is, and the directives at the head of a document.

A tag is a handle and a suffix (`!handle!suffix`), and a directive says which text a handle stands
for. A tag in angle brackets is complete as it is.
-/
namespace Filing.Notation.Yaml

structure WrittenTag where
  /-- Empty for a tag that is complete. -/
  handle : List Char
  suffix : List Char
  deriving DecidableEq

inductive Directive where
  | version (major minor : Nat)
  /-- The text that the tags of a handle begin with. -/
  | handle (handle beginning : List Char)
  deriving DecidableEq

/-- The tag of a kind that every document knows. -/
def coreTag (kind : String) : List Char := ("tag:yaml.org,2002:" ++ kind).toList

def isWordChar (c : Char) : Bool := (digitValue? c).isSome || c = '_' || c = '-'

/-- A byte by its number in hexadecimal, after a percent sign. -/
def escapedByte : Walk Nat := do
  Walk.char '%'
  Walk.hexNumber 2

/-- How many bytes make up a character that begins with `byte`. -/
def width? (byte : Nat) : Option Nat :=
  if byte < 0x80 then some 1
  else if byte < 0xC0 then none
  else if byte < 0xE0 then some 2
  else if byte < 0xF0 then some 3
  else if byte < 0xF8 then some 4
  else none

/-- The bytes of a character. They are kept one by one, as tags are compared byte by byte. -/
def escapedBytes : Walk (List Char) := do
  let first ← escapedByte
  let width ← liftM (width? first)
  let later ← (List.replicate (width - 1) ()).mapM fun _ => do
    let byte ← escapedByte
    if 0x80 ≤ byte ∧ byte < 0xC0 then return byte else failure
  return (first :: later).map Char.ofNat

/-- Characters of a suffix. A complete tag may hold brackets and commas as well. -/
def isTagChar (isComplete : Bool) (c : Char) : Bool :=
  isWordChar c ||
    [';', '/', '?', ':', '@', '&', '=', '+', '$', '.', '!', '~', '*', '\'', '(', ')'].contains c ||
    isComplete && [',', '[', ']'].contains c

def tagChars (isComplete : Bool) : (turns : Nat) → Walk (List Char)
  | 0 => failure
  | turns + 1 => do
    match ← Walk.peek? with
    | some '%' => return (← escapedBytes) ++ (← tagChars isComplete turns)
    | some c =>
      if isTagChar isComplete c then
        Walk.advance [c]
        return c :: (← tagChars isComplete turns)
      else return []
    | none => return []

/-- A handle without its exclamation marks, and whether there is one at its end. -/
def handle : Walk (List Char × Bool) := do
  Walk.char '!'
  let name ← Walk.many isWordChar
  return (name, ← Walk.optional '!')

def completeTag : Walk WrittenTag := do
  Walk.advance ['!', '<']
  let suffix ← tagChars true (← Walk.turns)
  Walk.char '>'
  if suffix.isEmpty then failure else return { handle := [], suffix }

/-- Without a second exclamation mark the handle is the first one, and an exclamation mark is a tag. -/
def shortTag : Walk WrittenTag := do
  let (name, isClosed) ← handle
  let rest ← tagChars false (← Walk.turns)
  if isClosed then
    if rest.isEmpty then failure else return { handle := '!' :: name ++ ['!'], suffix := rest }
  else
    let suffix := name ++ rest
    return if suffix.isEmpty then { handle := [], suffix := ['!'] } else { handle := ['!'], suffix }

def tag (inMarks : Bool) : Walk WrittenTag := do
  let tag ← if (← Walk.peekAt? 1) = some '<' then completeTag else shortTag
  let next ← Walk.peek?
  if endsWord next || inMarks && next = some ',' then return tag else failure

def versionNumber : Walk Nat := do
  let digits ← Walk.many isDigit
  if digits.isEmpty || 9 < digits.length then failure else return ofDigits 10 digits

def version : Walk Directive := do
  let major ← versionNumber
  Walk.char '.'
  return .version major (← versionNumber)

def handleDirective : Walk Directive := do
  let (name, isClosed) ← handle
  if !isClosed && !name.isEmpty then failure
  if !(← Walk.peek?).any isBlank then failure
  Walk.skip isBlank
  let beginning ← tagChars true (← Walk.turns)
  if beginning.isEmpty || !endsWord (← Walk.peek?) then failure
  return .handle ('!' :: name ++ (if isClosed then ['!'] else [])) beginning

def directive : Walk Directive := do
  Walk.char '%'
  let name ← Walk.many isWordChar
  if !endsWord (← Walk.peek?) then failure
  Walk.skip isBlank
  let directive ←
    if name = "YAML".toList then version
    else if name = "TAG".toList then handleDirective
    else failure
  Walk.restOfLine
  return directive

end Filing.Notation.Yaml
