/-!
Nested progress. Each level counts the steps of one item of the level around it, so a level that is
half done contributes half a step there. A step beyond a level's total, a step without a level and
a level left twice are ignored.

`fractionBy` is the completed part of the whole in any number system; the display uses doubles.
-/
namespace Filing

structure Level where
  total : Nat
  completed : Nat
  deriving DecidableEq

/-- The levels entered and not yet left, the innermost first. -/
structure Progress where
  levels : List Level
  deriving DecidableEq

namespace Level

def step (l : Level) : Level :=
  if l.completed < l.total then { l with completed := l.completed + 1 } else l

end Level

namespace Progress

def start : Progress := ⟨[]⟩

def push (p : Progress) (total : Nat) : Progress := ⟨⟨total, 0⟩ :: p.levels⟩

def step (p : Progress) : Progress := ⟨p.levels.modifyHead Level.step⟩

def pop (p : Progress) : Progress := ⟨p.levels.tail⟩

def depth (p : Progress) : Nat := p.levels.length

section

variable {R : Type} [Add R] [Mul R] [Div R]

/--
Adds up levels from the outermost inwards. One step of the next level is worth `scale`; a level
without steps hides the levels inside it.
-/
def sumLevels (ofNat : Nat → R) (fraction scale : R) : List Level → R
  | [] => fraction
  | level :: inner =>
    if level.total = 0 then fraction
    else
      let total := ofNat level.total
      sumLevels ofNat (fraction + scale * ofNat level.completed / total) (scale / total) inner

def fractionBy (ofNat : Nat → R) (p : Progress) : R :=
  sumLevels ofNat (ofNat 0) (ofNat 1) p.levels.reverse

end

/-- Totals are 64-bit words and become the nearest double. -/
def toDouble (n : Nat) : Float := n.toUInt64.toFloat

/-- Overall completion between 0 and 1, as a double. -/
def fraction (p : Progress) : Float :=
  let sum := p.fractionBy toDouble
  if sum < 0 then 0 else if sum > 1 then 1 else sum

end Progress

end Filing
