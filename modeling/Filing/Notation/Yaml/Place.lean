import Filing.Notation.Reader

/-!
Where a reader of YAML stands in its text, and the steps it takes from there. Lines and columns are
counted from zero, and the offset counts bytes.

A line ends at a line feed, at a carriage return with or without a line feed after it, at a next-line
character, and at a line or paragraph separator.
-/
namespace Filing.Notation.Yaml

structure Place where
  rest : List Char
  offset : Nat := 0
  line : Nat := 0
  column : Nat := 0

def isBlank (c : Char) : Bool := c = ' ' || c = '\t'

/-- A line end that stays what it is; every other one counts as a line feed. -/
def isSeparator (c : Char) : Bool := c = '\u2028' || c = '\u2029'

def isBreak (c : Char) : Bool := c = '\n' || c = '\r' || c = '\u0085' || isSeparator c

/-- A blank, the end of the line or the end of the text comes next. -/
def endsWord (next : Option Char) : Bool := next.all fun c => isBlank c || isBreak c

abbrev Walk := StateT Place Option

namespace Walk

def peek? : Walk (Option Char) := return (← get).rest.head?

/-- The character after so many others. -/
def peekAt? (distance : Nat) : Walk (Option Char) := return (← get).rest[distance]?

/-- Takes these characters, which have to come next and to stand on one line. -/
def advance (taken : List Char) : Walk Unit :=
  modify fun place =>
    { place with
      rest := place.rest.drop taken.length
      offset := taken.foldl (fun offset c => offset + c.utf8Size) place.offset
      column := place.column + taken.length }

def many (accepts : Char → Bool) : Walk (List Char) := do
  let taken := (← get).rest.takeWhile accepts
  advance taken
  return taken

def skip (accepts : Char → Bool) : Walk Unit := discard (many accepts)

/-- The next character, which has to satisfy `accepts`. -/
def one (accepts : Char → Bool) : Walk Char := do
  match ← peek? with
  | some c => if accepts c then do advance [c]; return c else failure
  | none => failure

def char (expected : Char) : Walk Unit := discard (one (· = expected))

/-- Takes the next character if it is the expected one, and says whether it was. -/
def optional (expected : Char) : Walk Bool := do
  if (← peek?) = some expected then
    advance [expected]
    return true
  else return false

/-- Takes the end of a line. -/
def lineBreak : Walk Char := do
  let place ← get
  match place.rest with
  | '\r' :: '\n' :: rest =>
    set { rest, offset := place.offset + 2, line := place.line + 1, column := 0 : Place }
    return '\n'
  | c :: rest =>
    if isBreak c then
      set { rest, offset := place.offset + c.utf8Size, line := place.line + 1, column := 0 : Place }
      return if isSeparator c then c else '\n'
    else failure
  | [] => failure

/-- Blanks and a comment, up to the end of the line, which has to come then and is taken. -/
def restOfLine : Walk Unit := do
  skip isBlank
  if (← peek?) = some '#' then skip (!isBreak ·)
  if (← peek?).isSome then discard lineBreak

/-- Enough turns for anything that takes a character in each. -/
def turns : Walk Nat := return (← get).rest.length + 1

/-- A line of this mark stands here: three characters at the start of a line and the end of a word. -/
def isAtMark (mark : Char) : Walk Bool := do
  let place ← get
  return place.column = 0 && [mark, mark, mark].isPrefixOf place.rest && endsWord place.rest[3]?

/-- The number written by exactly `count` hexadecimal digits. -/
def hexNumber (count : Nat) : Walk Nat := do
  let digits ← (List.replicate count ()).mapM fun _ => one (isDigitOf 16)
  return ofDigits 16 digits

end Walk

end Filing.Notation.Yaml
