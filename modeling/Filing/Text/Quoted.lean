import Filing.Text.Unprintable
import Filing.Text.GraphemeExtend

/-!
Text in double quotes, as error messages show it. A quote or a backslash inside gets a backslash,
and every character that would not be seen on its own is written by its code point.
-/
namespace Filing.Text

/-- A backslash, a `u` and the code point in braces: lower-case hexadecimal without padding. -/
def codePoint (c : Char) : List Char :=
  ['\\', 'u', '{'] ++ Nat.toDigits 16 c.toNat ++ ['}']

def quoteChar (c : Char) : List Char :=
  if c = '"' then ['\\', '"']
  else if c = '\\' then ['\\', '\\']
  else if c = '\x00' then ['\\', '0']
  else if c = '\t' then ['\\', 't']
  else if c = '\n' then ['\\', 'n']
  else if c = '\r' then ['\\', 'r']
  else if isGraphemeExtend c || isUnprintable c then codePoint c
  else [c]

def quote (s : String) : String :=
  String.ofList (['"'] ++ s.toList.flatMap quoteChar ++ ['"'])

end Filing.Text
