import Filing.Notation.Reader

/-!
Texts of TOML: between single or double quotes on one line, or between three quotes of either kind on
as many lines as needed. Escapes stand in double quotes only.
-/
namespace Filing.Notation.Toml

def isBlank (c : Char) : Bool := c = ' ' || c = '\t'

def newline : Reader Unit := do
  if ← Reader.optional '\r' then Reader.char '\n' else Reader.char '\n'

/-- In single quotes a backslash is a character like any other. -/
def literal : Reader String := do
  Reader.char '\''
  let cs ← Reader.many fun c => isPlain c && c ≠ '\''
  Reader.char '\''
  return String.ofList cs

def basic : Reader String := quoted '"' isPlain shortOrCodePoint

/-- Blanks and ends of lines. -/
def emptyLines : (turns : Nat) → Reader Unit
  | 0 => failure
  | turns + 1 => do
    Reader.skip isBlank
    match ← Reader.peek? with
    | some '\n' | some '\r' =>
      newline
      emptyLines turns
    | _ => return

/-- A backslash at the end of a line takes what is empty up to the next character out of the text. -/
def continuation : Reader (List Char) := do
  Reader.skip isBlank
  newline
  emptyLines (← Reader.turns)
  return []

/-- A piece of a text over several lines; a quote is none. -/
def piece (quote : Char) : Reader (List Char) := do
  match ← Reader.peek? with
  | some '\n' | some '\r' =>
    newline
    return ['\n']
  | some '\\' =>
    if quote = '"' then
      Reader.char '\\'
      continuation <|> shortOrCodePoint
    else return [← Reader.one isPlain]
  | _ => return [← Reader.one fun c => isPlain c && c ≠ quote]

/-- One or two quotes may stand in the text anywhere, and right before the three that close it. -/
def longRest (quote : Char) : (turns : Nat) → Reader (List Char)
  | 0 => failure
  | turns + 1 => do
    let quotes ← Reader.many (· = quote)
    if quotes.length < 3 then return quotes ++ (← piece quote) ++ (← longRest quote turns)
    else if quotes.length ≤ 5 then return quotes.drop 3
    else failure

/-- The end of a line right after the opening quotes is none of the text. -/
def long (quote : Char) : Reader String := do
  [quote, quote, quote].forM Reader.char
  newline <|> pure ()
  return String.ofList (← longRest quote (← Reader.turns))

end Filing.Notation.Toml
