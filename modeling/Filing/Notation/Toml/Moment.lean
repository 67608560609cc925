import Filing.Notation.Reader

/-!
Dates and times of TOML. No setting takes one, so they are only checked.
-/
namespace Filing.Notation.Toml

/-- A number of so many digits between two bounds. -/
def numberWithin (count least greatest : Nat) : Reader Nat := do
  let digits ← (List.replicate count ()).mapM fun _ => Reader.one isDigit
  let n := ofDigits 10 digits
  if least ≤ n && n ≤ greatest then return n else failure

def daysIn (year month : Nat) : Nat :=
  let isLeapYear := year % 4 = 0 && (year % 100 ≠ 0 || year % 400 = 0)
  if month = 2 then (if isLeapYear then 29 else 28)
  else if [4, 6, 9, 11].contains month then 30
  else 31

def date : Reader Unit := do
  let year ← numberWithin 4 0 9999
  Reader.char '-'
  let month ← numberWithin 2 1 12
  Reader.char '-'
  discard (numberWithin 2 1 (daysIn year month))

def hourAndMinute : Reader Unit := do
  discard (numberWithin 2 0 23)
  Reader.char ':'
  discard (numberWithin 2 0 59)

/-- A minute may have a leap second. -/
def time : Reader Unit := do
  hourAndMinute
  Reader.char ':'
  discard (numberWithin 2 0 60)
  if ← Reader.optional '.' then discard (Reader.many1 isDigit)

/-- How far a time is from the one at longitude zero. -/
def zone : Reader Unit := do
  match ← Reader.one fun _ => true with
  | 'Z' | 'z' => pure ()
  | '+' | '-' => hourAndMinute
  | _ => failure

/-- A date, with or without a time behind it, or a time. -/
def moment : Reader Unit := do
  let timeOfDay : Reader Unit := do
    discard (Reader.one [' ', 'T', 't'].contains)
    time
    zone <|> pure ()
  (do date; timeOfDay <|> pure ()) <|> time

end Filing.Notation.Toml
