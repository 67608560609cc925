import Filing.Job.Question

/-!
What a running request needs from its surroundings besides the store: somewhere to report progress,
someone to ask, and a way to be told to stop.
-/
namespace Filing

structure Job (σ : Type) where
  /-- Enters a level made of so many steps. -/
  push : Nat → StateM σ Unit
  /-- One step of the innermost level is done. -/
  step : StateM σ Unit
  /-- Leaves the innermost level. -/
  pop : StateM σ Unit
  /-- No decision means that none will come. -/
  ask : Question → StateM σ (Option Decision)
  isCancelled : StateM σ Bool

end Filing
