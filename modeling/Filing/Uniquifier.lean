import Filing.Identify
import Filing.Store.Basic

/-!
Free identifiers. A suffixing uniquifier keeps the wanted name while it is free and otherwise puts
the smallest free number behind it. Nothing is reserved: the answer is free until someone takes it.
-/
namespace Filing

/-- Turns a drive and a wanted name into an identifier to use. -/
abbrev Uniquifier (σ : Type) := String → String → Call σ EntityId

structure Suffixing where
  /-- Stands between the name and the number. -/
  separator : String
  /-- The first number tried; zero counts as one. -/
  first : UInt32
  /-- How many numbers are tried. -/
  maxAttempts : UInt32
  deriving DecidableEq

namespace Suffixing

def standard : Suffixing := { separator := "-", first := 1, maxAttempts := 10000 }

/-- The first number tried. -/
def start (s : Suffixing) : Nat := max s.first.toNat 1

/-- How many numbers are tried: no more than allowed, and none beyond the largest word. -/
def attempts (s : Suffixing) : Nat := min s.maxAttempts.toNat (UInt32.size - s.start)

def suffixed (s : Suffixing) (name : String) (number : Nat) : String :=
  name ++ s.separator ++ toString number

variable {σ : Type}

/-- The first of `attempts` numbers from `number` on that gives an identifier nobody uses. -/
def firstFree (s : Suffixing) (has : EntityId → Call σ Bool) (taken : EntityId) (desired : String)
    (number : Nat) : (attempts : Nat) → Call σ EntityId
  | 0 => throw (.exhausted desired)
  | attempts + 1 => do
    let candidate ← MonadExcept.ofExcept (taken.sibling (s.suffixed taken.name.text number))
    if ← has candidate then s.firstFree has taken desired (number + 1) attempts
    else return candidate

def generate (s : Suffixing) (has : EntityId → Call σ Bool) : Uniquifier σ := fun drive desired => do
  let candidate ← MonadExcept.ofExcept (EntityId.ofTexts drive desired)
  if ← has candidate then s.firstFree has candidate desired s.start s.attempts
  else return candidate

end Suffixing

end Filing
