/-!
Readers of text: a reader takes characters from the front and gives a value, or refuses. A reader
that refuses leaves no trace, so an alternative starts where it started.
-/
namespace Filing.Notation

abbrev Reader := StateT (List Char) Option

namespace Reader

def peek? : Reader (Option Char) := return (← get).head?

/-- The next character, which has to satisfy `accepts`. -/
def one (accepts : Char → Bool) : Reader Char := fun
  | c :: rest => if accepts c then some (c, rest) else none
  | [] => none

def char (expected : Char) : Reader Unit := discard (one (· = expected))

def text (expected : String) : Reader Unit := expected.toList.forM char

/-- Takes the next character if it is the expected one, and says whether it was. -/
def optional (expected : Char) : Reader Bool := fun
  | c :: rest => some (if c = expected then (true, rest) else (false, c :: rest))
  | [] => some (false, [])

def many (accepts : Char → Bool) : Reader (List Char) := fun cs =>
  some (cs.takeWhile accepts, cs.dropWhile accepts)

def many1 (accepts : Char → Bool) : Reader (List Char) := do
  let first ← one accepts
  return first :: (← many accepts)

def skip (accepts : Char → Bool) : Reader Unit := discard (many accepts)

/-- Skips the mark of the byte order that a text may begin with. -/
def skipByteOrderMark : Reader Unit := discard (optional '\ufeff')

def atEnd : Reader Bool := return (← get).isEmpty

/-- Reads a whole text. -/
def readAll {α : Type} (reader : Reader α) (text : String) : Option α :=
  match reader text.toList with
  | some (value, []) => some value
  | _ => none

/-- Enough turns for any reader that takes a character in each. -/
def turns : Reader Nat := return (← get).length + 1

end Reader

def isDigit (c : Char) : Bool := '0' ≤ c && c ≤ '9'

/-- The value of a digit in bases up to 36, whichever case its letter has. -/
def digitValue? (c : Char) : Option Nat :=
  if isDigit c then some (c.toNat - '0'.toNat)
  else if 'a' ≤ c && c ≤ 'z' then some (c.toNat - 'a'.toNat + 10)
  else if 'A' ≤ c && c ≤ 'Z' then some (c.toNat - 'A'.toNat + 10)
  else none

def isDigitOf (base : Nat) (c : Char) : Bool := (digitValue? c).any (· < base)

/-- The number that digits of a base stand for. -/
def ofDigits (base : Nat) (digits : List Char) : Nat :=
  digits.foldl (fun n c => n * base + (digitValue? c).getD 0) 0

/-- The number written by exactly `count` hexadecimal digits. -/
def hexNumber (count : Nat) : Reader Nat := do
  let digits ← (List.replicate count ()).mapM fun _ => Reader.one (isDigitOf 16)
  return ofDigits 16 digits

def isSurrogate (n : Nat) : Bool := 0xD800 ≤ n && n ≤ 0xDFFF

/-- The character of a code point; a surrogate has none. -/
def charOf? (n : Nat) : Option Char :=
  if isSurrogate n || n > 0x10FFFF then none else some (Char.ofNat n)

def ofCodePoint (n : Nat) : Reader Char := liftM (charOf? n)

/--
The inside of a quoted text up to and including the closing quote. `plain` says which characters
stand for themselves, and `escape` reads what follows a backslash.
-/
def quotedRest (quote : Char) (plain : Char → Bool) (escape : Reader (List Char)) :
    (turns : Nat) → Reader (List Char)
  | 0 => failure
  | turns + 1 => do
    let c ← Reader.one fun _ => true
    if c = quote then return []
    else if c = '\\' then
      return (← escape) ++ (← quotedRest quote plain escape turns)
    else if plain c then return c :: (← quotedRest quote plain escape turns)
    else failure

def quoted (quote : Char) (plain : Char → Bool) (escape : Reader (List Char)) : Reader String := do
  Reader.char quote
  return String.ofList (← quotedRest quote plain escape (← Reader.turns))

/-- Every character but the controls stands for itself; so does a tab. -/
def isPlain (c : Char) : Bool := c = '\t' || (0x20 ≤ c.toNat && c.toNat ≠ 0x7F)

/-- A code point in four hexadecimal digits after `u` or eight after `U`, or a letter for a control. -/
def shortOrCodePoint : Reader (List Char) := do
  match ← Reader.one fun _ => true with
  | 'b' => return ['\x08']
  | 't' => return ['\t']
  | 'n' => return ['\n']
  | 'f' => return ['\x0c']
  | 'r' => return ['\r']
  | '"' => return ['"']
  | '\\' => return ['\\']
  | 'u' => return [← ofCodePoint (← hexNumber 4)]
  | 'U' => return [← ofCodePoint (← hexNumber 8)]
  | _ => failure

/-- Reads items separated by `separator` up to the closing mark, which may follow a last separator. -/
def separated {α : Type} (item : Reader α) (separator : Reader Unit) (closing : Char)
    (lastSeparator : Bool) : (turns : Nat) → Reader (List α)
  | 0 => failure
  | turns + 1 => do
    let first ← item
    if ← Reader.optional closing then return [first]
    separator
    if lastSeparator then
      if ← Reader.optional closing then return [first]
    return first :: (← separated item separator closing lastSeparator turns)

/-- Items between two marks; there may be none. `gap` skips what may stand after the opening mark. -/
def delimited {α : Type} (opening : Char) (gap : Reader Unit) (item : Reader α)
    (separator : Reader Unit) (closing : Char) (lastSeparator : Bool) : Reader (List α) := do
  Reader.char opening
  gap
  if ← Reader.optional closing then return []
  separated item separator closing lastSeparator (← Reader.turns)

end Filing.Notation
