import Filing.Proofs.Cabinet
import Filing.Proofs.Looking

/-!
# Where calls lead

What a call makes of a cabinet, whatever it answers. A relation between cabinets that goes from call
to call (`Cabinet.Link`) holds over everything that is put together from calls (`Call.Leads`): over the
search for a free identifier, and over the look that sorts a request.
-/
namespace Filing

variable {τ α β : Type} {K : Cabinet τ → Cabinet τ → Prop}

structure Cabinet.Link (K : Cabinet τ → Cabinet τ → Prop) : Prop where
  refl : ∀ cabinet, K cabinet cabinet
  trans : ∀ {first second third}, K first second → K second third → K first third

namespace Call

/-- Whatever the call answers, it leads from each cabinet to one that is related to it. -/
def Leads (K : Cabinet τ → Cabinet τ → Prop) (c : Call (Cabinet τ) α) : Prop :=
  ∀ cabinet, K cabinet (c.run cabinet).2

namespace Leads

theorem ofExcept (link : Cabinet.Link K) (result : Except StoreError α) :
    Leads K (MonadExcept.ofExcept result : Call (Cabinet τ) α) := by
  cases result with
  | ok a => exact link.refl
  | error e => exact link.refl

theorem bind (link : Cabinet.Link K) {c : Call (Cabinet τ) α} {next : α → Call (Cabinet τ) β}
    (first : Leads K c) (rest : ∀ a, Leads K (next a)) : Leads K (c >>= next) := by
  intro cabinet
  have led := first cabinet
  rw [run_bind]
  split
  next a later ran =>
    rw [ran] at led
    exact link.trans led (rest a later)
  next error later ran =>
    rw [ran] at led
    exact led

variable {setup : Setup τ}

theorem firstFree (link : Cabinet.Link K)
    (has : ∀ id, Leads K ((Cabinet.asStore setup.faults).has id)) (taken : EntityId)
    (desired : String) (number attempts : Nat) :
    Leads K (setup.suffixing.firstFree (Cabinet.asStore setup.faults).has taken desired number
      attempts) := by
  induction attempts generalizing number with
  | zero => exact link.refl
  | succ attempts ih =>
    refine .bind link (.ofExcept link _) fun candidate => .bind link (has candidate) fun used => ?_
    split
    · exact ih (number + 1)
    · exact link.refl

theorem uniquifier (link : Cabinet.Link K)
    (has : ∀ id, Leads K ((Cabinet.asStore setup.faults).has id)) (drive desired : String) :
    Leads K (setup.host.uniquifier drive desired) := by
  refine .bind link (.ofExcept link _) fun candidate => .bind link (has candidate) fun used => ?_
  split
  · exact firstFree link has candidate desired _ _
  · exact link.refl

theorem classify (link : Cabinet.Link K) (folder : ∀ id, Leads K (setup.host.store.folder id))
    (request : Request) : Leads K (request.classify setup.host) := by
  unfold Request.classify
  split
  · exact .bind link (folder _) fun found => link.refl
  · exact link.refl
  · exact link.refl

end Leads

end Call

end Filing
