import Filing.Proofs.Lookup

/-!
# Keeping and changing

Between two changes an action only looks, asks and warns: everything that matters is kept (`Kept`).
From there it goes on looking (`Meets.look`), fails (`Failed`) or changes the store (`Wrote`,
`Changed`). Where it matters that nothing but calls was made in between, the desk has only been
`Glanced` at, and what comes next is `Missed` or `Altered`. The rules below go on from a desk that
has kept what the first one had, so that a proof about an action speaks of the desk it started on all
the way.
-/
namespace Filing

variable {τ α β : Type}

/-- Nothing changed but what is remembered and warned of, and that only if collisions are asked about. -/
structure Desk.Kept (before after : Desk (Cabinet τ)) (extra : List Entry) : Prop where
  store : after.world.store = before.world.store
  interactive : after.interactive = before.interactive
  report : ∃ warnings, after.report = { before.report with warnings }
  log : after.world.log = before.world.log ++ extra
  same : ∀ entry ∈ extra, entry.contents = before.world.store.contents
  quiet : before.interactive = false →
    after.remembered = before.remembered ∧ after.report = before.report

/-- A call of the method has changed the store, and `change` was counted. -/
structure Desk.Wrote (before after : Desk (Cabinet τ)) (method : Scenario.Method)
    (store : MemoryStore) (change : Tally → Tally) : Prop where
  interactive : after.interactive = before.interactive
  remembered : after.remembered = before.remembered
  report : after.report = { before.report with tally := change before.report.tally }
  log : after.world.log = before.world.log ++ [⟨method, false, store.contents⟩]
  store : after.world.store = store

/-- A call has changed the store, and everything was kept before. -/
def Desk.Changed (before after : Desk (Cabinet τ)) (store : MemoryStore)
    (change : Tally → Tally) : Prop :=
  ∃ between extra method, before.Kept between extra ∧ between.Wrote after method store change

/-- The desk after `change` was counted. -/
def Desk.tallied (desk : Desk (Cabinet τ)) (change : Tally → Tally) : Desk (Cabinet τ) :=
  { desk with report := { desk.report with tally := change desk.report.tally } }

/-- The action failed and kept everything. It had its reason, or else a call failed. -/
def Desk.Failed (faults : Faults τ) (desk : Desk (Cabinet τ)) (reason : RequestError → Prop)
    (error : RequestError) (after : Desk (Cabinet τ)) : Prop :=
  ∃ extra, desk.Kept after extra ∧ (reason error ∨ Faulted faults extra error)

/-- A call has changed the store after nothing but looking. -/
def Desk.Altered (faults : Faults τ) (before after : Desk (Cabinet τ)) (store : MemoryStore)
    (change : Tally → Tally) : Prop :=
  ∃ between extra method, before.Glanced faults between extra ∧
    between.Wrote after method store change ∧
    faults.Drift between.world.around after.world.around

/-- The action failed after nothing but looking. It had its reason, or else a call failed. -/
def Desk.Missed (faults : Faults τ) (desk : Desk (Cabinet τ)) (reason : RequestError → Prop)
    (error : RequestError) (after : Desk (Cabinet τ)) : Prop :=
  ∃ extra, desk.Glanced faults after extra ∧ (reason error ∨ Faulted faults extra error)

/-- The permission was asked for and is denied. -/
def Denied (store : MemoryStore) (permission : Permission) (id : EntityId) (error : RequestError) :
    Prop :=
  store.allows permission id = false ∧ error = .permissionDenied permission id

/-- Something is forbidden that the item needs. -/
def Refused (store : MemoryStore) (error : RequestError) : Prop :=
  ∃ permission id, Denied store permission id error

namespace Desk

variable {first second third : Desk (Cabinet τ)} {extra later : List Entry}
  {method : Scenario.Method} {store : MemoryStore} {change : Tally → Tally}

theorem Looked.kept (looked : first.Looked second extra) : first.Kept second extra where
  store := looked.store
  interactive := looked.interactive
  report := ⟨first.report.warnings, looked.report⟩
  log := looked.log
  same := looked.same
  quiet _ := ⟨looked.remembered, looked.report⟩

namespace Kept

theorem refl (desk : Desk (Cabinet τ)) : desk.Kept desk [] := (Looked.refl desk).kept

theorem trans (kept : first.Kept second extra) (kept' : second.Kept third later) :
    first.Kept third (extra ++ later) where
  store := kept'.store.trans kept.store
  interactive := kept'.interactive.trans kept.interactive
  report := by
    obtain ⟨_, report⟩ := kept.report
    obtain ⟨warnings, report'⟩ := kept'.report
    exact ⟨warnings, by rw [report', report]⟩
  log := by rw [kept'.log, kept.log, List.append_assoc]
  same entry member := by
    rcases List.mem_append.mp member with early | late
    · exact kept.same entry early
    · rw [kept'.same entry late, kept.store]
  quiet here := by
    have before := kept.quiet here
    have after := kept'.quiet (kept.interactive.trans here)
    exact ⟨after.1.trans before.1, after.2.trans before.2⟩

theorem tally (kept : first.Kept second extra) : second.report.tally = first.report.tally := by
  obtain ⟨_, report⟩ := kept.report
  rw [report]

theorem failures (kept : first.Kept second extra) :
    second.report.failures = first.report.failures := by
  obtain ⟨_, report⟩ := kept.report
  rw [report]

end Kept

/-- Counting right after a change is part of it. -/
theorem Wrote.counted (wrote : first.Wrote second method store id) (change : Tally → Tally) :
    first.Wrote (second.tallied change) method store change where
  store := wrote.store
  interactive := wrote.interactive
  remembered := wrote.remembered
  report := by simp [tallied, wrote.report]
  log := wrote.log

namespace Changed

theorem store_eq (changed : first.Changed second store change) : second.world.store = store := by
  obtain ⟨_, _, _, _, wrote⟩ := changed
  exact wrote.store

theorem tally (changed : first.Changed second store change) :
    second.report.tally = change first.report.tally := by
  obtain ⟨_, _, _, kept, wrote⟩ := changed
  rw [wrote.report, kept.tally]

theorem failures (changed : first.Changed second store change) :
    second.report.failures = first.report.failures := by
  obtain ⟨_, _, _, kept, wrote⟩ := changed
  rw [wrote.report, kept.failures]

end Changed

theorem Failed.mono {faults : Faults τ} {reason weaker : RequestError → Prop} {error : RequestError}
    (failed : first.Failed faults reason error second)
    (implies : ∀ error, reason error → weaker error) : first.Failed faults weaker error second := by
  obtain ⟨extra, kept, ended⟩ := failed
  exact ⟨extra, kept, ended.imp_left (implies error)⟩

/-- A store that does what is asked of it leaves no reason to fail but the item's own. -/
theorem Failed.reason_of_reliable {setup : Setup τ} {reason : RequestError → Prop}
    {error : RequestError} (failed : first.Failed setup.faults reason error second)
    (reliable : setup.Reliable) : reason error := by
  obtain ⟨_, _, own | faulted⟩ := failed
  · exact own
  · exact absurd faulted.canFail reliable

theorem Altered.changed {faults : Faults τ} (altered : first.Altered faults second store change) :
    first.Changed second store change := by
  obtain ⟨between, extra, method, glanced, wrote, _⟩ := altered
  exact ⟨between, extra, method, glanced.kept, wrote⟩

namespace Missed

variable {faults : Faults τ} {reason weaker : RequestError → Prop} {error : RequestError}

theorem failed (missed : first.Missed faults reason error second) :
    first.Failed faults reason error second := by
  obtain ⟨extra, glanced, ended⟩ := missed
  exact ⟨extra, glanced.kept, ended⟩

theorem mono (missed : first.Missed faults reason error second)
    (implies : ∀ error, reason error → weaker error) : first.Missed faults weaker error second := by
  obtain ⟨extra, glanced, ended⟩ := missed
  exact ⟨extra, glanced, ended.imp_left (implies error)⟩

theorem reason_of_reliable {setup : Setup τ} (missed : first.Missed setup.faults reason error second)
    (reliable : setup.Reliable) : reason error :=
  missed.failed.reason_of_reliable reliable

end Missed

theorem Failed.after_keeping {faults : Faults τ} {reason : RequestError → Prop}
    {error : RequestError} (failed : second.Failed faults reason error third)
    (kept : first.Kept second extra) : first.Failed faults reason error third := by
  obtain ⟨later, kept', ended⟩ := failed
  exact ⟨_, kept.trans kept', ended.imp_right (·.later extra)⟩

end Desk

/-- The memory store changes nothing when it fails. -/
theorem Call.run_change {σ : Type} (action : σ → Except StoreError σ) (world : σ) :
    (Call.change action).run world = match action world with
      | .ok later => (.ok (), later)
      | .error error => (.error error, world) := by
  unfold Call.change
  rw [Call.run_bind]
  have read : (get : Call σ σ).run world = (.ok world, world) := rfl
  rw [read]
  dsimp only
  cases action world with
  | ok later => rfl
  | error error => rfl

namespace Action

variable {setup : Setup τ} {first desk : Desk (Cabinet τ)} {extra : List Entry}

/-- The call has changed the store, or it has failed and changed nothing. -/
def WriteEnds (faults : Faults τ) (desk : Desk (Cabinet τ)) (method : Scenario.Method)
    (store : MemoryStore) (result : Except RequestError Unit) (after : Desk (Cabinet τ)) : Prop :=
  (result = .ok () ∧ desk.Wrote after method store id ∧
    faults.Drift desk.world.around after.world.around) ∨
  ∃ error extra, result = .error error ∧ desk.Glanced faults after extra ∧
    Faulted faults extra error

theorem meets_change (method : Scenario.Method) (id : EntityId)
    (action : MemoryStore → Except StoreError MemoryStore) {store : MemoryStore}
    (succeeds : action desk.world.store = .ok store) :
    (call (Cabinet.attempt setup.faults method id (Call.change action))).Meets desk
      (WriteEnds setup.faults desk method store) := by
  intro result after ran
  have changed : (Call.change action).run desk.world.store = (.ok (), store) := by
    rw [Call.run_change, succeeds]
  -- Either the surroundings let the call fail, or it does what the memory store does.
  cases decided : setup.faults method id desk.world.around with
  | mk fault around =>
    have drift : setup.faults.Drift desk.world.around around := .single ⟨method, id, by rw [decided]⟩
    cases fault with
    | none =>
      have went : (Cabinet.attempt setup.faults method id (Call.change action)).run desk.world =
          (.ok (), ⟨store, around, desk.world.log ++ [⟨method, false, store.contents⟩]⟩) := by
        change Cabinet.attempt setup.faults method id (Call.change action) desk.world = _
        simp only [Cabinet.attempt, decided, changed]
        rfl
      simp only [Action.call, went] at ran
      cases ran
      exact .inl ⟨rfl, ⟨rfl, rfl, rfl, rfl, rfl⟩, drift⟩
    | some error =>
      have went : (Cabinet.attempt setup.faults method id (Call.change action)).run desk.world =
          (.error error, { desk.world with
            around, log := desk.world.log ++ [⟨method, true, desk.world.store.contents⟩] }) := by
        change Cabinet.attempt setup.faults method id (Call.change action) desk.world = _
        simp only [Cabinet.attempt, decided]
      simp only [Action.call, went] at ran
      cases ran
      exact .inr ⟨_, _, rfl, ⟨⟨rfl, rfl, rfl, rfl, rfl, by simp⟩, drift⟩,
        ⟨method, id, desk.world.around, by simp [decided]⟩, ⟨_, List.mem_singleton_self _, rfl⟩,
        error, rfl⟩

theorem meets_save (entity : Entity) :
    (call (setup.host.store.save entity)).Meets desk
      (WriteEnds setup.faults desk .save (desk.world.store.save entity)) :=
  meets_change .save entity.id (fun s => .ok (s.save entity)) rfl

theorem meets_delete {id : EntityId} (stored : desk.world.store.has id = true) :
    (call (setup.host.store.delete id)).Meets desk
      (WriteEnds setup.faults desk .delete (desk.world.store.discard id)) :=
  meets_change .delete id (·.delete id) (by simp [MemoryStore.delete, stored])

theorem meets_rename {source target : EntityId} {entity : Entity}
    (found : desk.world.store.contents.find? source = some entity)
    (unused : desk.world.store.has target = false) :
    (call (setup.host.store.rename source target)).Meets desk
      (WriteEnds setup.faults desk .rename
        ((desk.world.store.discard source).save (entity.withId target))) :=
  meets_change .rename source (·.rename source target) (by simp [MemoryStore.rename, unused, found])

theorem meets_permit (glanced : first.Glanced setup.faults desk extra) (permission : Permission)
    (id : EntityId) : (require setup.host permission id).Meets desk fun result after =>
      match result with
      | .ok _ => first.world.store.allows permission id = true ∧
          ∃ extra, first.Glanced setup.faults after extra
      | .error error =>
        first.Missed setup.faults (Denied first.world.store permission id) error after := by
  refine (looks_require setup first.world.store permission id desk glanced.store).mono ?_
  rintro result after ⟨later, glanced', ended⟩
  have glanced := glanced.trans glanced'
  -- Whatever the answer would be, the call itself may fail.
  cases allowed : first.world.store.allows permission id with
  | true =>
    rcases ended with rfl | ⟨_, rfl, faulted⟩
    · simpa [allowed] using ⟨_, glanced⟩
    · exact ⟨_, glanced, .inr (faulted.later extra)⟩
  | false =>
    rcases ended with rfl | ⟨_, rfl, faulted⟩
    · simpa [allowed] using ⟨_, glanced, .inl ⟨allowed, rfl⟩⟩
    · exact ⟨_, glanced, .inr (faulted.later extra)⟩

theorem meets_require (kept : first.Kept desk extra) (permission : Permission) (id : EntityId) :
    (require setup.host permission id).Meets desk fun result after =>
      match result with
      | .ok _ => first.world.store.allows permission id = true ∧ ∃ extra, first.Kept after extra
      | .error error =>
        first.Failed setup.faults (Denied first.world.store permission id) error after := by
  refine (meets_permit (.refl desk) permission id).mono ?_
  intro result after ended
  rw [kept.store] at ended
  cases result with
  | ok _ =>
    obtain ⟨allowed, extra, glanced⟩ := ended
    exact ⟨allowed, _, kept.trans glanced.kept⟩
  | error _ => exact ended.failed.after_keeping kept

/-! ## Going on -/

namespace Meets

variable {post : Except RequestError β → Desk (Cabinet τ) → Prop} {reason : RequestError → Prop}

/-- Looks and goes on with the answer. -/
theorem glance {action : Action (Cabinet τ) α} {next : α → Action (Cabinet τ) β}
    {answer : Except RequestError α → Prop} (glanced : first.Glanced setup.faults desk extra)
    (looks : Looks setup.faults first.world.store action answer)
    (error : ∀ error after, first.Missed setup.faults reason error after → post (.error error) after)
    (reasons : ∀ error, answer (.error error) → reason error)
    (ok : ∀ a after extra, first.Glanced setup.faults after extra → answer (.ok a) →
      (next a).Meets after post) :
    (action >>= next).Meets desk post := by
  refine (looks desk glanced.store).bind ?_ ?_
  · rintro a after ⟨later, glanced', ended⟩
    exact ok a after _ (glanced.trans glanced') (by simpa using ended)
  · rintro e after ⟨later, glanced', ended⟩
    refine error e after ⟨_, glanced.trans glanced', ?_⟩
    rcases ended with answered | ⟨_, ⟨⟩, faulted⟩
    · exact .inl (reasons e answered)
    · exact .inr (faulted.later extra)

/-- Looks at something that is known and goes on. -/
theorem glance_ok {action : Action (Cabinet τ) α} {next : α → Action (Cabinet τ) β} {a : α}
    (glanced : first.Glanced setup.faults desk extra)
    (looks : Looks setup.faults first.world.store action (· = .ok a))
    (error : ∀ error after, first.Missed setup.faults reason error after → post (.error error) after)
    (ok : ∀ after extra, first.Glanced setup.faults after extra → (next a).Meets after post) :
    (action >>= next).Meets desk post := by
  refine .glance glanced looks error ?_ ?_
  · rintro _ ⟨⟩
  · rintro _ after extra glanced ⟨⟩
    exact ok after extra glanced

/-- Looks a folder up and goes on, whether or not there is one. -/
theorem glanceFolder {id : EntityId} {next : Option Listing → Action (Cabinet τ) β}
    (glanced : first.Glanced setup.faults desk extra)
    (error : ∀ error after, first.Missed setup.faults reason error after → post (.error error) after)
    (missing : ∀ after extra, first.Glanced setup.faults after extra →
      first.world.store.contents.folder? id = none → (next none).Meets after post)
    (found : ∀ listing after extra, first.Glanced setup.faults after extra →
      first.world.store.contents.listing? id = some listing → (next (some listing)).Meets after post) :
    (call (setup.host.store.folder id) >>= next).Meets desk post := by
  refine .glance_ok glanced (looks_folder setup _ id) error fun after extra glanced => ?_
  cases listed : first.world.store.contents.listing? id with
  | none => exact missing after extra glanced (Contents.listing?_eq_none_iff.mp listed)
  | some listing => exact found listing after extra glanced listed

/-- Asks for a permission and goes on. -/
theorem permit {permission : Permission} {id : EntityId} {next : PUnit → Action (Cabinet τ) β}
    (glanced : first.Glanced setup.faults desk extra)
    (error : ∀ error after, first.Missed setup.faults reason error after → post (.error error) after)
    (reasons : ∀ error, Denied first.world.store permission id error → reason error)
    (ok : ∀ after extra, first.Glanced setup.faults after extra →
      first.world.store.allows permission id = true → (next ⟨⟩).Meets after post) :
    (Action.require setup.host permission id >>= next).Meets desk post := by
  refine (meets_permit glanced permission id).bind ?_
    fun e after missed => error e after (missed.mono reasons)
  rintro _ after ⟨allowed, extra, glanced⟩
  exact ok after extra glanced allowed

/-- Changes the store and goes on. -/
theorem alter {action : Action (Cabinet τ) Unit} {next : Unit → Action (Cabinet τ) β}
    {method : Scenario.Method} {store : MemoryStore}
    (glanced : first.Glanced setup.faults desk extra)
    (ends : action.Meets desk (WriteEnds setup.faults desk method store))
    (error : ∀ error after, first.Missed setup.faults reason error after → post (.error error) after)
    (ok : ∀ after, desk.Wrote after method store id →
      setup.faults.Drift desk.world.around after.world.around → (next ()).Meets after post) :
    (action >>= next).Meets desk post := by
  refine ends.bind ?_ ?_
  · rintro ⟨⟩ after (⟨_, wrote, drift⟩ | ⟨_, _, ⟨⟩, _⟩)
    exact ok after wrote drift
  · rintro e after (⟨⟨⟩, _⟩ | ⟨_, later, ⟨⟩, glanced', faulted⟩)
    exact error e after ⟨_, glanced.trans glanced', .inr (faulted.later extra)⟩

/-! After a decision there is more than looking to keep. -/

theorem look {action : Action (Cabinet τ) α} {next : α → Action (Cabinet τ) β}
    {answer : Except RequestError α → Prop} (kept : first.Kept desk extra)
    (looks : Looks setup.faults first.world.store action answer)
    (error : ∀ error after, first.Failed setup.faults reason error after → post (.error error) after)
    (reasons : ∀ error, answer (.error error) → reason error)
    (ok : ∀ a after extra, first.Kept after extra → answer (.ok a) → (next a).Meets after post) :
    (action >>= next).Meets desk post := by
  refine .glance (.refl desk) (kept.store ▸ looks)
    (fun e after missed => error e after (missed.failed.after_keeping kept)) reasons ?_
  exact fun a after later glanced => ok a after _ (kept.trans glanced.kept)

theorem look_ok {action : Action (Cabinet τ) α} {next : α → Action (Cabinet τ) β} {a : α}
    (kept : first.Kept desk extra)
    (looks : Looks setup.faults first.world.store action (· = .ok a))
    (error : ∀ error after, first.Failed setup.faults reason error after → post (.error error) after)
    (ok : ∀ after extra, first.Kept after extra → (next a).Meets after post) :
    (action >>= next).Meets desk post := by
  refine .look kept looks error ?_ ?_
  · rintro _ ⟨⟩
  · rintro _ after extra kept ⟨⟩
    exact ok after extra kept

/-- Looks a folder up and goes on, whether or not there is one. -/
theorem lookFolder {id : EntityId} {next : Option Listing → Action (Cabinet τ) β}
    (kept : first.Kept desk extra)
    (error : ∀ error after, first.Failed setup.faults reason error after → post (.error error) after)
    (missing : ∀ after extra, first.Kept after extra →
      first.world.store.contents.folder? id = none → (next none).Meets after post)
    (found : ∀ listing after extra, first.Kept after extra →
      first.world.store.contents.listing? id = some listing → (next (some listing)).Meets after post) :
    (call (setup.host.store.folder id) >>= next).Meets desk post := by
  refine .look_ok kept (looks_folder setup _ id) error fun after extra kept => ?_
  cases listed : first.world.store.contents.listing? id with
  | none => exact missing after extra kept (Contents.listing?_eq_none_iff.mp listed)
  | some listing => exact found listing after extra kept listed

theorem require {permission : Permission} {id : EntityId} {next : PUnit → Action (Cabinet τ) β}
    (kept : first.Kept desk extra)
    (error : ∀ error after, first.Failed setup.faults reason error after → post (.error error) after)
    (reasons : ∀ error, Refused first.world.store error → reason error)
    (ok : ∀ after extra, first.Kept after extra →
      first.world.store.allows permission id = true → (next ⟨⟩).Meets after post) :
    (Action.require setup.host permission id >>= next).Meets desk post := by
  refine (meets_require kept permission id).bind ?_
    fun e after failed => error e after (failed.mono fun e denied => reasons e ⟨_, _, denied⟩)
  rintro _ after ⟨allowed, extra, kept⟩
  exact ok after extra kept allowed

theorem write {action : Action (Cabinet τ) Unit} {next : Unit → Action (Cabinet τ) β}
    {method : Scenario.Method} {store : MemoryStore} (kept : first.Kept desk extra)
    (ends : action.Meets desk (WriteEnds setup.faults desk method store))
    (error : ∀ error after, first.Failed setup.faults reason error after → post (.error error) after)
    (ok : ∀ after, desk.Wrote after method store id → (next ()).Meets after post) :
    (action >>= next).Meets desk post :=
  .alter (.refl desk) ends (fun e after missed => error e after (missed.failed.after_keeping kept))
    fun after wrote _ => ok after wrote

/-- Changes the store, last of all. -/
theorem written {action : Action (Cabinet τ) Unit} {method : Scenario.Method} {store : MemoryStore}
    {post : Except RequestError Unit → Desk (Cabinet τ) → Prop} (kept : first.Kept desk extra)
    (ends : action.Meets desk (WriteEnds setup.faults desk method store))
    (error : ∀ error after, first.Failed setup.faults reason error after → post (.error error) after)
    (ok : ∀ after, desk.Wrote after method store id → post (.ok ()) after) :
    action.Meets desk post := by
  refine ends.mono ?_
  rintro _ after (⟨rfl, wrote, _⟩ | ⟨e, later, rfl, glanced, faulted⟩)
  · exact ok after wrote
  · exact error e after ⟨_, kept.trans glanced.kept, .inr (faulted.later extra)⟩

theorem tally {change : Tally → Tally} {post : Except RequestError Unit → Desk (Cabinet τ) → Prop}
    (holds : post (.ok ()) (desk.tallied change)) : (Action.count change).Meets desk post :=
  .modify holds

theorem tally_bind {change : Tally → Tally} {next : PUnit → Action (Cabinet τ) β}
    (rest : (next ⟨⟩).Meets (desk.tallied change) post) :
    (Action.count change >>= next).Meets desk post :=
  .modify_bind rest

/-- Counts what has just been changed and goes on. -/
theorem counted {change : Tally → Tally} {next : PUnit → Action (Cabinet τ) β}
    {method : Scenario.Method} {store : MemoryStore} (wrote : first.Wrote desk method store id)
    (ok : ∀ after, first.Wrote after method store change → (next ⟨⟩).Meets after post) :
    (Action.count change >>= next).Meets desk post :=
  .tally_bind (ok _ (wrote.counted change))

/-- Counts what has just been changed, last of all. -/
theorem count {change : Tally → Tally} {method : Scenario.Method} {store : MemoryStore}
    {post : Except RequestError Unit → Desk (Cabinet τ) → Prop}
    (wrote : first.Wrote desk method store id)
    (holds : ∀ after, first.Wrote after method store change → post (.ok ()) after) :
    (Action.count change).Meets desk post :=
  .tally (holds _ (wrote.counted change))

end Meets

end Action

end Filing
