import Filing.Notation.Number
import Filing.Settings.Value
import Filing.Text.Blank

/-!
Settings in environment variables. The name says which field is meant, and the value is read as a
list, a table, a quoted text, a truth value or a number where it is one from end to end; any other
value is a text, just as it is.
-/
namespace Filing.Notation.Variable

/-- Every name of a setting starts so, in whichever case. -/
def nameStart : List Char := "grove_".toList

/-- Two underscores in a row stand for a dot. -/
def withDots : List Char → List Char
  | '_' :: '_' :: rest => '.' :: withDots rest
  | c :: rest => c :: withDots rest
  | [] => []

def splitAtDots (cs : List Char) : List (List Char) :=
  cs.foldr (fun c parts => if c = '.' then [] :: parts else parts.modifyHead (c :: ·)) [[]]

/-- The field that a variable is about. Other variables are about none, and so is one with a gap. -/
def path? (name : String) : Option (List String) :=
  let cs := (Text.trimChars name.toList).map Char.toLower
  if cs.take nameStart.length = nameStart then
    let parts := splitAtDots (Text.trimChars (withDots (cs.drop nameStart.length)))
    if parts.any (·.isEmpty) then none else some (parts.map String.ofList)
  else none

def isBlank (c : Char) : Bool := c = ' ' || c = '\t' || c = '\n' || c = '\x0c' || c = '\r'

def endsPlainText (c : Char) : Bool := ['[', ']', ',', '\x7b', '\x7d'].contains c

def isKeyChar (c : Char) : Bool := (digitValue? c).isSome || c = '_' || c = '-'

/-- A whole number that fits a 64-bit word, with sign or without. -/
def whole? (cs : List Char) : Option Int :=
  (signed? cs).filter fun n => -(wordSize 63 : Int) ≤ n && n < wordSize 64

/-- What is neither a number with a point in it nor a whole number is a text. -/
def ofPlainText (cs : List Char) : Value :=
  let trimmed := Text.trimChars cs
  if trimmed.contains '.' && (decimal? trimmed).isSome then .real
  else match whole? trimmed with
    | some n => .int n
    | none => .text (String.ofList trimmed)

/-- The characters in the first bytes of a text. The bytes may not end within a character. -/
def firstBytes? : (bytes : Nat) → List Char → Option (List Char)
  | 0, _ => some []
  | _ + 1, [] => none
  | bytes + 1, c :: rest =>
    if c.utf8Size ≤ bytes + 1 then (firstBytes? (bytes + 1 - c.utf8Size) rest).map (c :: ·) else none

/--
A text in double quotes. If there are escapes in it, then of the characters before the first one only
as many bytes count as there are characters.
-/
def quotedText : Reader String := do
  Reader.char '"'
  let plain ← Reader.many fun c => isPlain c && c ≠ '"' && c ≠ '\\'
  let isEscaped := (← Reader.peek?) = some '\\'
  let start ← if isEscaped then liftM (firstBytes? plain.length plain) else pure plain
  return String.ofList (start ++ (← quotedRest '"' isPlain shortOrCodePoint (← Reader.turns)))

def key : Reader String := do
  match ← Reader.peek? with
  | some '"' => quotedText
  | _ => return String.ofList (← Reader.many1 isKeyChar)

def field (value : Reader Value) : Reader (String × Value) := do
  Reader.skip isBlank
  let key ← key
  Reader.skip isBlank
  Reader.char '='
  return (key, ← value)

/-- The truth value that the text begins with. -/
def truth? : Reader (Option Bool) := fun cs =>
  if "true".toList.isPrefixOf cs then some (some true, cs.drop 4)
  else if "false".toList.isPrefixOf cs then some (some false, cs.drop 5)
  else some (none, cs)

/-- Nothing but the closing mark itself makes a container empty; a comma may end the items. -/
def container {α : Type} (opening : Char) (item : Reader α) (closing : Char) : Reader (List α) :=
  delimited opening (return ()) item (Reader.char ',') closing true

/-- A value that is neither true nor false. What containers hold is read by `item?`. -/
def otherThanTruth (item? : Option (Reader Value)) : Reader Value := do
  match ← Reader.peek?, item? with
  | some '\x7b', some item =>
    let fields ← container '\x7b' (field item) '\x7d'
    return .table (fields.foldl (fun table (key, v) => Value.Fields.set key v table) [])
  | some '[', some item => return .list (← container '[' item ']')
  | some '"', _ => return .text (← quotedText)
  | some '\'', _ =>
    Reader.char '\''
    let c ← Reader.one fun _ => true
    Reader.char '\''
    return .text (String.singleton c)
  | _, _ => return ofPlainText (← Reader.many fun c => !endsPlainText c)

/-- A value with the blanks around it. -/
def valueOf (item? : Option (Reader Value)) : Reader Value := do
  Reader.skip isBlank
  let value ← match ← truth? with
    | some b => pure (.bool b)
    | none => otherThanTruth item?
  Reader.skip isBlank
  return value

/-- A value whose containers nest no deeper than `nesting` levels. -/
def value : (nesting : Nat) → Reader Value
  | 0 => valueOf none
  | nesting + 1 => valueOf (some (value nesting))

def read (source : String) : Value :=
  (Reader.readAll (value source.length) source).getD (.text source)

/-- The fields that variables set, the later ones laid over the earlier ones. -/
def layer (environment : List (String × String)) : Value :=
  environment.foldl (fun earlier (name, source) =>
    match path? name with
    | some path => earlier.overlay ((read source).atPath path)
    | none => earlier) (.table [])

end Filing.Notation.Variable
