import Filing.Notation.Reader

/-!
Numbers as texts. Only their kind and, for whole numbers, their value matter to settings.
-/
namespace Filing.Notation

/-- A minus or plus in front, if any, and the rest: whether it was a minus comes first. -/
def splitSign : List Char → Bool × List Char
  | '-' :: rest => (true, rest)
  | '+' :: rest => (false, rest)
  | rest => (false, rest)

/-- Digits with an optional sign before them. -/
def signed? (cs : List Char) : Option Int :=
  let (negative, digits) := splitSign cs
  if digits.isEmpty || !digits.all isDigit then none
  else
    let magnitude : Int := ofDigits 10 digits
    some (if negative then -magnitude else magnitude)

/-- A number as its digits give it: `digits · 10 ^ power`. The sign does not matter. -/
structure Decimal where
  digits : Nat
  power : Int

/-- Digits, perhaps with a point among or beside them and with an exponent. -/
def decimal? (cs : List Char) : Option Decimal := do
  let (_, unsigned) := splitSign cs
  let before := unsigned.takeWhile isDigit
  let (after, exponent) := match unsigned.dropWhile isDigit with
    | '.' :: rest => (rest.takeWhile isDigit, rest.dropWhile isDigit)
    | rest => ([], rest)
  let power ← match exponent with
    | [] => some 0
    | e :: power => if e = 'e' || e = 'E' then signed? power else none
  if before.isEmpty && after.isEmpty then none
  else some { digits := ofDigits 10 (before ++ after), power := power - after.length }

/-- How many values a word of so many bits has. -/
def wordSize (bits : Nat) : Nat := Nat.pow 2 bits

/-- From here on a number is nearer to infinity than to any double. -/
def doubleLimit : Nat := Nat.pow 2 1024 - Nat.pow 2 970

/-- Whether a number is so large that no double is near it. -/
def Decimal.isBeyondDoubles (d : Decimal) : Bool :=
  if d.digits = 0 then false
  else if d.power > 400 then true
  else if d.power < 0 then
    -- Of a number below one the power of ten, which may be huge, is not worked out.
    3 * d.power.natAbs ≤ d.digits.log2 && d.digits / Nat.pow 10 d.power.natAbs ≥ doubleLimit
  else d.digits * Nat.pow 10 d.power.toNat ≥ doubleLimit

/-- The double nearest to a whole number, of two the one with an even significand. -/
def nearestDouble (n : Nat) : Nat :=
  let unit := Nat.pow 2 (n.log2 - 52)
  let (significand, rest) := (n / unit, n % unit)
  if unit < 2 * rest || 2 * rest = unit && significand % 2 = 1 then (significand + 1) * unit
  else significand * unit

end Filing.Notation
