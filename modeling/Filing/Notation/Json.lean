import Filing.Notation.Number
import Filing.Settings.Value

/-!
Settings in JSON. Of a field given twice the last one counts, escapes that do not make up a character
are refused, and so are containers nested more than 127 deep and numbers beyond every double.
-/
namespace Filing.Notation.Json

def isBlank (c : Char) : Bool := c = ' ' || c = '\t' || c = '\n' || c = '\r'

/-- The second half of a surrogate pair that began with `high`. -/
def lowSurrogate (high : Nat) : Reader Char := do
  Reader.text "\\u"
  let low ← hexNumber 4
  if 0xDC00 ≤ low ∧ low ≤ 0xDFFF then
    ofCodePoint (0x10000 + (high - 0xD800) * 0x400 + (low - 0xDC00))
  else failure

def escape : Reader (List Char) := do
  match ← Reader.one fun _ => true with
  | '"' => return ['"']
  | '\\' => return ['\\']
  | '/' => return ['/']
  | 'b' => return ['\x08']
  | 'f' => return ['\x0c']
  | 'n' => return ['\n']
  | 'r' => return ['\r']
  | 't' => return ['\t']
  | 'u' =>
    let unit ← hexNumber 4
    if 0xD800 ≤ unit ∧ unit ≤ 0xDBFF then return [← lowSurrogate unit]
    else return [← ofCodePoint unit]
  | _ => failure

def text : Reader String := quoted '"' (0x20 ≤ ·.toNat) escape

def exponent : Reader (Option Int) := do
  match ← Reader.peek? with
  | some 'e' | some 'E' =>
    let _ ← Reader.one fun _ => true
    let negative ← Reader.optional '-'
    if !negative then let _ ← Reader.optional '+'
    let magnitude : Int := ofDigits 10 (← Reader.many1 isDigit)
    return some (if negative then -magnitude else magnitude)
  | _ => return none

/-- Puts digits behind a number as long as a 64-bit word can hold it; the others are left over. -/
def addDigits (n : Nat) : List Char → Nat × List Char
  | [] => (n, [])
  | c :: later =>
    let next := 10 * n + (digitValue? c).getD 0
    if next < wordSize 64 then addDigits next later else (n, c :: later)

/--
The number that digits before and after the point stand for. Digits that are left over before the
point count by their number, those after it not at all.
-/
def decimalOf (whole decimals : List Char) (power : Int) : Decimal :=
  let (start, left) := addDigits 0 whole
  let (digits, ignored) := addDigits start decimals
  { digits, power := power + left.length - (decimals.length - ignored.length) }

/-- A number counts as too large if the product of the nearest doubles to its two factors does. -/
def isTooLarge (d : Decimal) : Bool :=
  if d.digits = 0 || d.power < 0 then false
  else if d.power > 308 then true
  else nearestDouble d.digits * nearestDouble (Nat.pow 10 d.power.toNat) ≥ doubleLimit

/-- A whole number stays one if a 64-bit word can hold it. -/
def number : Reader Value := do
  let negative ← Reader.optional '-'
  let padded ← Reader.optional '0'
  let whole ← if padded then pure ['0'] else Reader.many1 isDigit
  let pointed ← Reader.optional '.'
  let decimals ← if pointed then Reader.many1 isDigit else pure []
  let power ← exponent
  if isTooLarge (decimalOf whole decimals (power.getD 0)) then failure
  let magnitude := ofDigits 10 whole
  let isWhole := decimals.isEmpty && power.isNone
  if isWhole && negative && 0 < magnitude && magnitude ≤ wordSize 63 then return .int (-magnitude)
  else if isWhole && !negative && magnitude < wordSize 64 then return .int magnitude
  else return .real

def field (value : Reader Value) : Reader (String × Value) := do
  Reader.skip isBlank
  let key ← text
  Reader.skip isBlank
  Reader.char ':'
  return (key, ← value)

/-- A container without items may hold blanks. -/
def container {α : Type} (opening : Char) (item : Reader α) (closing : Char) : Reader (List α) :=
  delimited opening (Reader.skip isBlank) item (Reader.char ',') closing false

/-- A value with the blanks around it. What its containers hold is read by `item?`. -/
def valueOf (item? : Option (Reader Value)) : Reader Value := do
  Reader.skip isBlank
  let inner ← match ← Reader.peek?, item? with
    | some '{', some item => do
      let fields ← container '{' (field item) '}'
      pure (.table (fields.foldl (fun table (key, v) => Value.Fields.set key v table) []))
    | some '[', some item => do
      let items ← container '[' item ']'
      pure (.list items)
    | some '"', _ => do pure (.text (← text))
    | some 't', _ => do
      Reader.text "true"
      pure (.bool true)
    | some 'f', _ => do
      Reader.text "false"
      pure (.bool false)
    | some 'n', _ => do
      Reader.text "null"
      pure .null
    | _, _ => number
  Reader.skip isBlank
  return inner

/-- A value whose containers nest no deeper than `nesting` levels. -/
def value : (nesting : Nat) → Reader Value
  | 0 => valueOf none
  | nesting + 1 => valueOf (some (value nesting))

def read? (source : String) : Option Value := Reader.readAll (value 127) source

end Filing.Notation.Json
