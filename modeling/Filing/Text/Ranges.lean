/-!
Sets of characters given as ranges of code points.
-/
namespace Filing.Text

/-- Code points from the first number to the second, both included. -/
abbrev Ranges := List (Nat × Nat)

def Ranges.has (ranges : Ranges) (c : Char) : Bool :=
  ranges.any fun range => range.1 ≤ c.toNat && c.toNat ≤ range.2

end Filing.Text
