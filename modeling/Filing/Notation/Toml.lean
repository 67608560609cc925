import Filing.Notation.Number
import Filing.Notation.Toml.Moment
import Filing.Notation.Toml.Quoted
import Filing.Notation.Toml.Table

/-!
Settings in TOML: tables and lists of tables under headers, dotted keys, inline tables, lists, texts,
whole numbers in four bases, numbers with a fraction, truth values, dates and times.

A document is read as a list of statements, and the statements are then carried out one after the
other on tables under construction (`openTable`, `assignDotted`).
-/
namespace Filing.Notation.Toml

/-! ## Statements -/

inductive Statement where
  /-- With `isElement` the header begins another table of a list. -/
  | header (isElement : Bool) (path : List String)
  | assign (path : List String) (value : Value)

/-- A comment reaches to the end of its line and holds no control characters. -/
def comment : Reader Unit := do
  Reader.skip isBlank
  if ← Reader.optional '#' then Reader.skip isPlain

def endOfLine : Reader Unit := do
  comment
  if !(← Reader.atEnd) then newline

/-- Blanks, comments and ends of lines, as they may stand between items of a list. -/
def gap : (turns : Nat) → Reader Unit
  | 0 => failure
  | turns + 1 => do
    comment
    match ← Reader.peek? with
    | some '\n' | some '\r' =>
      newline
      gap turns
    | _ => return

def isBareKeyChar (c : Char) : Bool := (digitValue? c).isSome || c = '_' || c = '-'

def key : Reader String := do
  match ← Reader.peek? with
  | some '"' => basic
  | some '\'' => literal
  | _ => return String.ofList (← Reader.many1 isBareKeyChar)

/-- Paths are shorter than this, and containers nest less deep. -/
def depthLimit : Nat := 80

def dottedKeys : (turns : Nat) → Reader (List String)
  | 0 => failure
  | turns + 1 => do
    Reader.skip isBlank
    let first ← key
    Reader.skip isBlank
    if ← Reader.optional '.' then return first :: (← dottedKeys turns) else return [first]

/-- Keys joined by dots, with blanks around each. -/
def keyPath : Reader (List String) := do
  let path ← dottedKeys (← Reader.turns)
  if path.length < depthLimit then return path else failure

/-- Digits of a base in which single underscores may stand between two digits. -/
def digits? (base : Nat) (cs : List Char) : Option (List Char) :=
  let groups := cs.splitOn '_'
  if groups.all fun group => !group.isEmpty && group.all (isDigitOf base) then some groups.flatten
  else none

def fitsWord (n : Int) : Bool := -(wordSize 63 : Int) ≤ n && n < wordSize 63

/-- A whole number that fits a signed 64-bit word. -/
def whole? (cs : List Char) : Option Int := do
  let n ← match cs with
    | '0' :: 'x' :: digits => (digits? 16 digits).map fun ds => (ofDigits 16 ds : Int)
    | '0' :: 'o' :: digits => (digits? 8 digits).map fun ds => (ofDigits 8 ds : Int)
    | '0' :: 'b' :: digits => (digits? 2 digits).map fun ds => (ofDigits 2 ds : Int)
    | _ =>
      let (negative, unsigned) := splitSign cs
      match digits? 10 unsigned with
      | some ('0' :: _ :: _) | none => none
      | some digits =>
        let magnitude : Int := ofDigits 10 digits
        some (if negative then -magnitude else magnitude)
  if fitsWord n then some n else none

/-- The power of ten after the mark of the exponent; without one it is zero. -/
def power? : List Char → Option Int
  | [] => some 0
  | e :: power =>
    let (negative, unsigned) := splitSign power
    if e = 'e' || e = 'E' then
      (digits? 10 unsigned).map fun digits =>
        let magnitude : Int := ofDigits 10 digits
        if negative then -magnitude else magnitude
    else none

/-- A number with a fraction or an exponent, as its digits give it. -/
def decimalOf? (unsigned : List Char) : Option Decimal := do
  let isPart (c : Char) : Bool := isDigit c || c = '_'
  let before ← digits? 10 (unsigned.takeWhile isPart)
  let rest := unsigned.dropWhile isPart
  let (after, exponent) ← match rest with
    | '.' :: rest => do pure (← digits? 10 (rest.takeWhile isPart), rest.dropWhile isPart)
    | rest => pure ([], rest)
  let power ← power? exponent
  if rest.isEmpty || 1 < before.length && before.head? = some '0' then none
  else some { digits := ofDigits 10 (before ++ after), power := power - after.length }

/-- Only above zero a number may not be beyond every double. -/
def isReal (cs : List Char) : Bool :=
  let (negative, unsigned) := splitSign cs
  unsigned = ['i', 'n', 'f'] || unsigned = ['n', 'a', 'n'] ||
    (decimalOf? unsigned).any fun d => negative || !d.isBeyondDoubles

def ofToken (token : List Char) : Reader Value :=
  if token = "true".toList then return .bool true
  else if token = "false".toList then return .bool false
  else match whole? token with
    | some n => return .int n
    | none => if isReal token then return .real else failure

def isTokenChar (c : Char) : Bool :=
  (digitValue? c).isSome || c = '_' || c = '-' || c = '+' || c = '.'

def field (value : Reader Value) : Reader (List String × Value) := do
  let path ← keyPath
  Reader.char '='
  Reader.skip isBlank
  let value ← value
  Reader.skip isBlank
  return (path, value)

/-- On one line, and without a comma at the end. -/
def inlineTable (value : Reader Value) : Reader Value := do
  let fields ←
    delimited '{' (Reader.skip isBlank) (field value) (Reader.char ',') '}' false
  let entries ← fields.foldlM (fun entries (path, value) => assignDotted value path entries) []
  return .table (fieldsOf entries)

def list (value : Reader Value) : Reader Value := do
  let gap : Reader Unit := do gap (← Reader.turns)
  let item : Reader Value := do
    let value ← value
    gap
    return value
  let separator : Reader Unit := do
    Reader.char ','
    gap
  return .list (← delimited '[' gap item separator ']' true)

/--
A value; what its containers hold is read by `item?`. Dates and times count as tables, as none of
their fields is a setting.
-/
def valueOf (item? : Option (Reader Value)) : Reader Value := do
  match ← Reader.peek?, item? with
  | some '"', _ => return .text (← long '"' <|> basic)
  | some '\'', _ => return .text (← long '\'' <|> literal)
  | some '[', some item => list item
  | some '{', some item => inlineTable item
  | _, _ =>
    (do moment; return .table []) <|> (do ofToken (← Reader.many1 isTokenChar))

/-- A value whose containers nest no deeper than `nesting` levels. -/
def value : (nesting : Nat) → Reader Value
  | 0 => valueOf none
  | nesting + 1 => valueOf (some (value nesting))

def statement : Reader Statement := do
  if ← Reader.optional '[' then
    let isElement ← Reader.optional '['
    let path ← keyPath
    Reader.char ']'
    if isElement then Reader.char ']'
    endOfLine
    return .header isElement path
  else
    let (path, value) ← field (value (depthLimit - 1))
    endOfLine
    return .assign path value

def statements : (turns : Nat) → Reader (List Statement)
  | 0 => failure
  | turns + 1 => do
    gap (← Reader.turns)
    if ← Reader.atEnd then return []
    return (← statement) :: (← statements turns)

/-- Carries out statements below the header that came last. -/
def build (header : List String) (entries : Entries) : List Statement → Option Entries
  | [] => some entries
  | .header isElement path :: later => do build path (← openTable isElement path entries) later
  | .assign path value :: later => do
    build header (← inside (assignDotted value path) header entries) later

def read? (source : String) : Option Value := do
  let document : Reader (List Statement) := do
    Reader.skipByteOrderMark
    statements (← Reader.turns)
  let statements ← document.readAll source
  return .table (fieldsOf (← build [] [] statements))

end Filing.Notation.Toml
