import Mathlib.Logic.Relation
import Filing.Request.Run
import Filing.Scenario.World

/-!
# Cabinets

A cabinet is a memory store with surroundings of any kind. A call either fails, as the surroundings
decide, and leaves what is stored as it is, or is the memory store's own call. Every call is logged
with what is stored after it. The job sees the surroundings only.
-/
namespace Filing

open Scenario (Method)

/-- Decides whether a call fails, and with what. -/
abbrev Faults (τ : Type) := Method → EntityId → τ → Option StoreError × τ

namespace Faults

/-- No call fails but for the memory store's own reasons. -/
def never {τ : Type} : Faults τ := fun _ _ around => (none, around)

def CanFail {τ : Type} (faults : Faults τ) : Prop :=
  ∃ method id around, (faults method id around).1 ≠ none

theorem not_canFail_never {τ : Type} : ¬ (never (τ := τ)).CanFail :=
  fun ⟨_, _, _, fails⟩ => fails rfl

/-- Deciding about calls, any number of times, gets the surroundings from one state to the other. -/
def Drift {τ : Type} (faults : Faults τ) : τ → τ → Prop :=
  Relation.ReflTransGen fun around later => ∃ method id, (faults method id around).2 = later

/-- What deciding about a call leaves alone stays as it is. -/
theorem Drift.eq_of_kept {τ X : Type} {faults : Faults τ} {observe : τ → X}
    (kept : ∀ method id around, observe (faults method id around).2 = observe around)
    {around later : τ} (drift : faults.Drift around later) : observe later = observe around := by
  induction drift with
  | refl => rfl
  | tail _ decided ih =>
    obtain ⟨method, id, rfl⟩ := decided
    exact (kept method id _).trans ih

end Faults

/-- A call that was made. -/
structure Entry where
  method : Method
  failed : Bool
  /-- What is stored after the call. -/
  contents : Contents
  deriving DecidableEq

structure Cabinet (τ : Type) where
  store : MemoryStore
  around : τ
  log : List Entry

namespace Cabinet

variable {τ : Type} (faults : Faults τ)

/-- Makes the memory store's call, unless it is to fail. -/
def attempt {α : Type} (method : Method) (id : EntityId) (c : Call MemoryStore α) :
    Call (Cabinet τ) α := fun cabinet =>
  match faults method id cabinet.around with
  | (some error, around) =>
    let entry := { method, failed := true, contents := cabinet.store.contents }
    (.error error, { cabinet with around, log := cabinet.log ++ [entry] })
  | (none, around) =>
    match c.run cabinet.store with
    | (answer, store) =>
      let entry := { method, failed := !answer.isOk, contents := store.contents }
      (answer, { store, around, log := cabinet.log ++ [entry] })

def asStore : Store (Cabinet τ) where
  has id := attempt faults .has id (MemoryStore.asStore.has id)
  folder id := attempt faults .folder id (MemoryStore.asStore.folder id)
  file id := attempt faults .file id (MemoryStore.asStore.file id)
  save entity := attempt faults .save entity.id (MemoryStore.asStore.save entity)
  delete id := attempt faults .delete id (MemoryStore.asStore.delete id)
  rename source target := attempt faults .rename source (MemoryStore.asStore.rename source target)
  canEdit id := attempt faults .canEdit id (MemoryStore.asStore.canEdit id)
  canDelete id := attempt faults .canDelete id (MemoryStore.asStore.canDelete id)

/-- Lets a job see to the surroundings. -/
def aside {α : Type} (action : StateM τ α) : StateM (Cabinet τ) α := fun cabinet =>
  let (answer, around) := action.run cabinet.around
  (answer, { cabinet with around })

def asJob (job : Job τ) : Job (Cabinet τ) where
  push total := aside (job.push total)
  step := aside job.step
  pop := aside job.pop
  ask question := aside (job.ask question)
  isCancelled := aside job.isCancelled

end Cabinet

/-- The circumstances of a request on a cabinet whose new identifiers get suffixes. -/
structure Setup (τ : Type) where
  faults : Faults τ
  suffixing : Suffixing
  job : Job τ

namespace Setup

def host {τ : Type} (setup : Setup τ) : Host (Cabinet τ) where
  store := Cabinet.asStore setup.faults
  uniquifier := setup.suffixing.generate (Cabinet.asStore setup.faults).has
  job := Cabinet.asJob setup.job

/-- The store does what is asked of it. -/
def Reliable {τ : Type} (setup : Setup τ) : Prop := ¬ setup.faults.CanFail

/-- Nothing fails, nobody answers and nothing is cancelled. -/
def quiet : Setup Unit where
  faults := .never
  suffixing := .standard
  job :=
    { push := fun _ => pure ()
      step := pure ()
      pop := pure ()
      ask := fun _ => pure none
      isCancelled := pure false }

theorem quiet_reliable : quiet.Reliable := Faults.not_canFail_never

end Setup

end Filing
