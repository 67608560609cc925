import Filing.Proofs.Cabinet
import Filing.Proofs.Outcome

/-!
# Actions that only look

Most of what an action does is looking things up. `Looks` says of such an action that it leaves
everything but the log and the surroundings as it is, and what it answers; `Peeks` says the same of a
call. Exactly what was looked up in between, and how the surroundings got from one state to the other,
is `Desk.Glanced`. Where calls can fail, the answer may be a failure of the store instead (`Faulted`).
-/
namespace Filing

variable {τ α β : Type}

/-- Between the two desks only calls were made that changed nothing. `extra` are their entries. -/
structure Desk.Looked (before after : Desk (Cabinet τ)) (extra : List Entry) : Prop where
  store : after.world.store = before.world.store
  interactive : after.interactive = before.interactive
  remembered : after.remembered = before.remembered
  report : after.report = before.report
  log : after.world.log = before.world.log ++ extra
  same : ∀ entry ∈ extra, entry.contents = before.world.store.contents

namespace Desk.Looked

variable {first second third : Desk (Cabinet τ)} {extra later : List Entry}

theorem refl (desk : Desk (Cabinet τ)) : desk.Looked desk [] :=
  ⟨rfl, rfl, rfl, rfl, by simp, by simp⟩

theorem trans (looked : first.Looked second extra) (looked' : second.Looked third later) :
    first.Looked third (extra ++ later) where
  store := looked'.store.trans looked.store
  interactive := looked'.interactive.trans looked.interactive
  remembered := looked'.remembered.trans looked.remembered
  report := looked'.report.trans looked.report
  log := by rw [looked'.log, looked.log, List.append_assoc]
  same entry member := by
    rcases List.mem_append.mp member with early | late
    · exact looked.same entry early
    · rw [looked'.same entry late, looked.store]

end Desk.Looked

/-- Besides, only calls have touched the surroundings. -/
structure Desk.Glanced (faults : Faults τ) (before after : Desk (Cabinet τ)) (extra : List Entry) :
    Prop extends before.Looked after extra where
  drift : faults.Drift before.world.around after.world.around

namespace Desk.Glanced

variable {faults : Faults τ} {first second third : Desk (Cabinet τ)} {extra later : List Entry}

theorem refl (desk : Desk (Cabinet τ)) : desk.Glanced faults desk [] := ⟨.refl desk, .refl⟩

theorem trans (glanced : first.Glanced faults second extra)
    (glanced' : second.Glanced faults third later) : first.Glanced faults third (extra ++ later) :=
  ⟨glanced.toLooked.trans glanced'.toLooked, glanced.drift.trans glanced'.drift⟩

end Desk.Glanced

/-- `extra` has a failed call in it, and `error` is what came of it. -/
structure Faulted (faults : Faults τ) (extra : List Entry) (error : RequestError) : Prop where
  canFail : faults.CanFail
  logged : ∃ entry ∈ extra, entry.failed = true
  storage : ∃ cause, error = .storage (some cause)

theorem Faulted.later {faults : Faults τ} {extra : List Entry} {error : RequestError}
    (faulted : Faulted faults extra error) (before : List Entry) :
    Faulted faults (before ++ extra) error where
  canFail := faulted.canFail
  logged := by
    obtain ⟨entry, member, failed⟩ := faulted.logged
    exact ⟨entry, List.mem_append_right _ member, failed⟩
  storage := faulted.storage

/-! ## Calls -/

theorem Call.run_bind {σ : Type} (c : Call σ α) (next : α → Call σ β) (world : σ) :
    (c >>= next).run world = match c.run world with
      | (.ok a, later) => (next a).run later
      | (.error error, later) => (.error error, later) := by
  change (ExceptT.bindCont next (c.run world).1 : StateM σ _) (c.run world).2 = _
  cases c.run world with
  | mk result later => cases result <;> rfl

/-- The call leaves the store as it is and answers like this, unless it fails. -/
def Call.Peeks (faults : Faults τ) (store : MemoryStore) (c : Call (Cabinet τ) α)
    (answer : Except StoreError α → Prop) : Prop :=
  ∀ cabinet : Cabinet τ, cabinet.store = store → ∃ result around extra,
    c.run cabinet = (result, { store, around, log := cabinet.log ++ extra }) ∧
    faults.Drift cabinet.around around ∧ (∀ entry ∈ extra, entry.contents = store.contents) ∧
    (answer result ∨ ∃ error, result = .error error ∧ faults.CanFail ∧
      ∃ entry ∈ extra, entry.failed = true)

namespace Call.Peeks

variable {faults : Faults τ} {store : MemoryStore}
  {answer : Except StoreError α → Prop} {answer' : Except StoreError β → Prop}

theorem pure {a : α} (holds : answer (.ok a)) :
    Peeks faults store (Pure.pure a : Call (Cabinet τ) α) answer := by
  rintro cabinet rfl
  exact ⟨.ok a, cabinet.around, [], by simp; rfl, .refl, by simp, .inl holds⟩

theorem throw {error : StoreError} (holds : answer (.error error)) :
    Peeks faults store (MonadExcept.throw error : Call (Cabinet τ) α) answer := by
  rintro cabinet rfl
  exact ⟨.error error, cabinet.around, [], by simp; rfl, .refl, by simp, .inl holds⟩

theorem ofExcept {result : Except StoreError α} (holds : answer result) :
    Peeks faults store (MonadExcept.ofExcept result : Call (Cabinet τ) α) answer := by
  cases result with
  | ok a => exact pure holds
  | error e => exact throw holds

theorem ofExcept_eq (result : Except StoreError α) :
    Peeks faults store (MonadExcept.ofExcept result : Call (Cabinet τ) α) (· = result) :=
  ofExcept rfl

theorem bind {c : Call (Cabinet τ) α} {next : α → Call (Cabinet τ) β}
    (first : Peeks faults store c answer)
    (ok : ∀ a, answer (.ok a) → Peeks faults store (next a) answer')
    (error : ∀ error, answer (.error error) → answer' (.error error)) :
    Peeks faults store (c >>= next) answer' := by
  intro cabinet here
  obtain ⟨result, around, extra, ran, drift, same, ended⟩ := first cabinet here
  -- A failure is passed on as it is. Otherwise both entries in the log and changes around add up.
  cases result with
  | error e =>
    refine ⟨.error e, around, extra, by rw [run_bind, ran], drift, same, ?_⟩
    rcases ended with holds | ⟨_, rest⟩
    · exact .inl (error e holds)
    · exact .inr ⟨e, rfl, rest.2⟩
  | ok a =>
    have holds : answer (.ok a) := by simpa using ended
    obtain ⟨result, around', later, ran', drift', same', ended'⟩ :=
      ok a holds { store, around, log := cabinet.log ++ extra } rfl
    refine ⟨result, around', extra ++ later, ?_, drift.trans drift', ?_, ?_⟩
    · rw [run_bind, ran]
      simpa using ran'
    · intro entry member
      rcases List.mem_append.mp member with early | late
      · exact same entry early
      · exact same' entry late
    · refine ended'.imp_right ?_
      rintro ⟨e, failed, canFail, entry, member, logged⟩
      exact ⟨e, failed, canFail, entry, List.mem_append_right _ member, logged⟩

theorem read {method : Scenario.Method} {id : EntityId} {view : MemoryStore → α}
    (holds : answer (.ok (view store))) :
    Peeks faults store (Cabinet.attempt faults method id (Call.read view)) answer := by
  rintro cabinet rfl
  cases decided : faults method id cabinet.around with
  | mk fault around =>
    have drift : faults.Drift cabinet.around around := .single ⟨method, id, by rw [decided]⟩
    cases fault with
    | none =>
      refine ⟨.ok (view cabinet.store), around, [⟨method, false, cabinet.store.contents⟩], ?_,
        drift, by simp, .inl holds⟩
      change Cabinet.attempt faults method id (Call.read view) cabinet = _
      rw [Cabinet.attempt, decided]
      rfl
    | some error =>
      refine ⟨.error error, around, [⟨method, true, cabinet.store.contents⟩], ?_, drift, by simp,
        .inr ⟨error, rfl, ⟨method, id, cabinet.around, by simp [decided]⟩, by simp⟩⟩
      change Cabinet.attempt faults method id (Call.read view) cabinet = _
      rw [Cabinet.attempt, decided]

end Call.Peeks

/-! ## Actions -/

namespace Action

theorem meets_aside {desk : Desk (Cabinet τ)} (action : StateM τ α) :
    (turn (Cabinet.aside action)).Meets desk fun result after =>
      ∃ a around, action.run desk.world.around = (a, around) ∧ result = .ok a ∧
        after = { desk with world := { desk.world with around } } := by
  rintro result after ⟨⟩
  exact ⟨_, _, rfl, rfl, rfl⟩

/-- The job's doings do not touch the store. -/
theorem meets_turn {desk : Desk (Cabinet τ)} (action : StateM τ α) :
    (turn (Cabinet.aside action)).Meets desk fun result after =>
      (∃ a, result = .ok a) ∧ desk.Looked after [] := by
  refine (meets_aside action).mono ?_
  rintro _ _ ⟨a, around, _, rfl, rfl⟩
  exact ⟨⟨a, rfl⟩, rfl, rfl, rfl, rfl, (List.append_nil _).symm, by simp⟩

/-- Whenever `action` ends on a desk with this store, it has only looked and answers like this. -/
def Looks (faults : Faults τ) (store : MemoryStore) (action : Action (Cabinet τ) α)
    (answer : Except RequestError α → Prop) : Prop :=
  ∀ desk : Desk (Cabinet τ), desk.world.store = store → action.Meets desk fun result after =>
    ∃ extra, desk.Glanced faults after extra ∧
      (answer result ∨ ∃ error, result = .error error ∧ Faulted faults extra error)

namespace Looks

variable {faults : Faults τ} {store : MemoryStore}
  {answer : Except RequestError α → Prop} {answer' : Except RequestError β → Prop}

theorem mono {weaker : Except RequestError α → Prop} {action : Action (Cabinet τ) α}
    (looks : Looks faults store action answer)
    (implies : ∀ result, answer result → weaker result) : Looks faults store action weaker := by
  intro desk here
  refine (looks desk here).mono ?_
  rintro result after ⟨extra, looked, ended⟩
  exact ⟨extra, looked, ended.imp_left (implies result)⟩

theorem pure {a : α} (holds : answer (.ok a)) : Looks faults store (Pure.pure a) answer :=
  fun desk _ => .pure ⟨[], .refl desk, .inl holds⟩

theorem throw {error : RequestError} (holds : answer (.error error)) :
    Looks faults store (MonadExcept.throw error) answer :=
  fun desk _ => .throw ⟨[], .refl desk, .inl holds⟩

theorem tooDeep : Looks faults store Action.tooDeep answer := fun _ _ => .tooDeep

theorem bind {action : Action (Cabinet τ) α} {next : α → Action (Cabinet τ) β}
    (first : Looks faults store action answer)
    (ok : ∀ a, answer (.ok a) → Looks faults store (next a) answer')
    (error : ∀ error, answer (.error error) → answer' (.error error)) :
    Looks faults store (action >>= next) answer' := by
  intro desk here
  refine (first desk here).bind ?_ ?_
  · rintro a between ⟨extra, looked, ended⟩
    have holds : answer (.ok a) := by simpa using ended
    refine (ok a holds between (looked.store.trans here)).mono ?_
    rintro result after ⟨later, looked', ended'⟩
    refine ⟨extra ++ later, looked.trans looked', ended'.imp_right ?_⟩
    rintro ⟨e, failed, faulted⟩
    exact ⟨e, failed, faulted.later extra⟩
  · rintro e after ⟨extra, looked, ended⟩
    refine ⟨extra, looked, ?_⟩
    rcases ended with holds | ⟨_, ⟨⟩, faulted⟩
    · exact .inl (error e holds)
    · exact .inr ⟨e, rfl, faulted⟩

/-- After something that is known to be answered. -/
theorem bind_ok {action : Action (Cabinet τ) α} {next : α → Action (Cabinet τ) β} {a : α}
    (first : Looks faults store action (· = .ok a)) (rest : Looks faults store (next a) answer') :
    Looks faults store (action >>= next) answer' := by
  refine first.bind ?_ ?_
  · rintro _ ⟨⟩
    exact rest
  · rintro _ ⟨⟩

theorem call {c : Call (Cabinet τ) α} {told : Except StoreError α → Prop}
    (peeks : c.Peeks faults store told) (ok : ∀ a, told (.ok a) → answer (.ok a))
    (error : ∀ cause, told (.error cause) → answer (.error (.storage (some cause)))) :
    Looks faults store (Action.call c) answer := by
  rintro desk rfl result after ran
  obtain ⟨told', around, extra, went, drift, same, ended⟩ := peeks desk.world rfl
  simp only [Action.call, went] at ran
  cases told' with
  | ok a =>
    obtain ⟨rfl, rfl⟩ : .ok a = result ∧ _ = after := by simpa using ran
    refine ⟨extra, ⟨⟨rfl, rfl, rfl, rfl, rfl, same⟩, drift⟩, ?_⟩
    rcases ended with holds | ⟨_, ⟨⟩, _⟩
    exact .inl (ok a holds)
  | error e =>
    obtain ⟨rfl, rfl⟩ : .error (.storage (some e)) = result ∧ _ = after := by simpa using ran
    refine ⟨extra, ⟨⟨rfl, rfl, rfl, rfl, rfl, same⟩, drift⟩, ?_⟩
    rcases ended with holds | ⟨_, ⟨⟩, canFail, logged⟩
    · exact .inl (error e holds)
    · exact .inr ⟨_, rfl, canFail, logged, e, rfl⟩

theorem call_read (method : Scenario.Method) (id : EntityId) (view : MemoryStore → α) :
    Looks faults store (Action.call (Cabinet.attempt faults method id (Call.read view)))
      (· = .ok (view store)) := by
  have peeks : Call.Peeks faults store (Cabinet.attempt faults method id (Call.read view))
      (· = .ok (view store)) := .read rfl
  refine call peeks ?_ ?_
  · rintro _ ⟨⟩
    rfl
  · rintro _ ⟨⟩

end Looks

end Action

end Filing
