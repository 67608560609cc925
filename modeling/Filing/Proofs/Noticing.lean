import Filing.Proofs.Calling
import Filing.Proofs.Composing
import Filing.Proofs.Integrity

/-!
# No change goes uncounted

A report that counts nothing belongs to a store in which nothing has changed. Most changes are counted
right after the call that makes them. Two are not: an emptied folder goes without a count of its own,
but it was counted as merged before, and a new identifier is counted only when the name has followed.
Nothing fails in between as long as the store does what is asked of it, since what has just been stored
under the new identifier stays there.

New identifiers may come from anywhere, in use or not.
-/
namespace Filing

variable {τ : Type}

/-- The circumstances of a request that gets its new identifiers elsewhere. -/
def Setup.hostWith (setup : Setup τ) (uniquifier : Uniquifier (Cabinet τ)) : Host (Cabinet τ) :=
  { setup.host with uniquifier }

/-- Gives whatever the function says, without a look at anything. -/
def Uniquifier.ofNames {σ : Type} (names : String → String → Except StoreError EntityId) :
    Uniquifier σ :=
  fun drive desired => MonadExcept.ofExcept (names drive desired)

theorem Request.workOff_congr {σ : Type} (host host' : Host σ) (sameJob : host.job = host'.job)
    (work : Path → Action σ Unit) (paths : List Path) :
    workOff host work paths = workOff host' work paths := by
  induction paths with
  | nil => rfl
  | cons path later ih =>
    unfold workOff
    rw [sameJob, ih]

/-- The store is as before. -/
def Cabinet.SameStore (before after : Cabinet τ) : Prop := after.store = before.store

theorem Cabinet.link_sameStore : Link (SameStore : Cabinet τ → Cabinet τ → Prop) where
  refl _ := rfl
  trans first second := Eq.trans second first

theorem Uniquifier.leaves_ofNames (names : String → String → Except StoreError EntityId)
    (drive desired : String) : Call.Leads Cabinet.SameStore
      ((ofNames names : Uniquifier (Cabinet τ)) drive desired) :=
  .ofExcept Cabinet.link_sameStore _

/-- A call that only looks leaves the store. -/
theorem Call.Peeks.sameStore {α : Type} {faults : Faults τ} {c : Call (Cabinet τ) α}
    {answer : MemoryStore → Except StoreError α → Prop}
    (peeks : ∀ store, c.Peeks faults store (answer store)) : c.Leads Cabinet.SameStore := by
  intro cabinet
  obtain ⟨_, _, _, went, _⟩ := peeks cabinet.store cabinet rfl
  rw [went]
  rfl

/-- Whatever is saved, nothing goes by that. -/
theorem MemoryStore.has_save {s : MemoryStore} {id : EntityId} (stored : s.has id = true)
    (entity : Entity) : (s.save entity).has id = true := by
  by_cases here : entity.id = id
  · simp [save, has, Catalogue.has, here]
  · simpa [save, has, Catalogue.has, here] using stored

/-- Nothing is counted backwards, and without a count nothing has changed. -/
structure Desk.Covered (before after : Desk (Cabinet τ)) : Prop where
  grows : before.report.tally.total ≤ after.report.tally.total
  still : after.report.tally.total = before.report.tally.total →
    after.world.store = before.world.store

namespace Desk

variable {first second third : Desk (Cabinet τ)} {extra : List Entry} {store : MemoryStore}
  {change : Tally → Tally}

theorem Covered.of_still (tally : second.report.tally = first.report.tally)
    (store : second.world.store = first.world.store) : first.Covered second :=
  ⟨Nat.le_of_eq (by rw [tally]), fun _ => store⟩

/-- Whatever else has changed, there is a count of it. -/
theorem Covered.of_counted (counted : first.report.tally.total < second.report.tally.total) :
    first.Covered second :=
  ⟨Nat.le_of_lt counted, fun same => absurd same (Nat.ne_of_gt counted)⟩

theorem Covered.trans (covered : first.Covered second) (covered' : second.Covered third) :
    first.Covered third where
  grows := Nat.le_trans covered.grows covered'.grows
  still same := by
    have := covered.grows
    have := covered'.grows
    rw [covered'.still (by omega), covered.still (by omega)]

theorem Kept.covered (kept : first.Kept second extra) : first.Covered second :=
  .of_still kept.tally kept.store

theorem Failed.covered {faults : Faults τ} {reason : RequestError → Prop} {error : RequestError}
    (failed : first.Failed faults reason error second) : first.Covered second := by
  obtain ⟨_, kept, _⟩ := failed
  exact kept.covered

theorem Changed.covered (changed : first.Changed second store change)
    (more : first.report.tally.total < (change first.report.tally).total) : first.Covered second :=
  .of_counted (by rwa [changed.tally])

theorem link_covered : Link (Covered : Desk (Cabinet τ) → Desk (Cabinet τ) → Prop) where
  refl _ := .of_still rfl rfl
  trans := .trans
  failing _ _ := .of_still rfl rfl
  leftOff _ := .of_still rfl rfl

theorem chain_covered (setup : Setup τ) : Chain setup (Covered : Desk (Cabinet τ) → _ → Prop) :=
  link_covered.chain Kept.covered setup

/-- Nothing is counted backwards. -/
def Grows (before after : Desk (Cabinet τ)) : Prop :=
  before.report.tally.total ≤ after.report.tally.total

theorem Kept.grows (kept : first.Kept second extra) : first.Grows second :=
  Nat.le_of_eq (by rw [kept.tally])

theorem chain_grows (setup : Setup τ) : Chain setup (Grows : Desk (Cabinet τ) → _ → Prop) := by
  have link : Link (Grows : Desk (Cabinet τ) → _ → Prop) :=
    { refl := fun _ => Nat.le_refl _
      trans := Nat.le_trans
      failing := fun _ _ => Nat.le_refl _
      leftOff := fun _ => Nat.le_refl _ }
  exact link.chain Kept.grows setup

end Desk

namespace Action

variable {setup : Setup τ} {desk : Desk (Cabinet τ)} {α β ι : Type}
  {uniquifier : Uniquifier (Cabinet τ)}

/-! ## Calls and their counts -/

/-- A call that is to change the store does what the memory store does, or leaves everything. -/
theorem meets_attempt (method : Scenario.Method) (id : EntityId)
    (action : MemoryStore → Except StoreError MemoryStore) :
    (call (Cabinet.attempt setup.faults method id (Call.change action))).Meets desk
      fun result after => after.report = desk.report ∧
        match result with
        | .ok _ => action desk.world.store = .ok after.world.store
        | .error _ => after.world.store = desk.world.store := by
  intro result after ran
  have changed := Call.run_change action desk.world.store
  cases decided : setup.faults method id desk.world.around with
  | mk fault around =>
    have went : (Cabinet.attempt setup.faults method id (Call.change action)).run desk.world =
        Cabinet.attempt setup.faults method id (Call.change action) desk.world := rfl
    simp only [call, went, Cabinet.attempt, decided] at ran
    cases fault with
    | some error =>
      cases ran
      exact ⟨rfl, rfl⟩
    | none =>
      cases done : action desk.world.store with
      | ok store =>
        simp only [changed, done] at ran
        cases ran
        exact ⟨rfl, rfl⟩
      | error cause =>
        simp only [changed, done] at ran
        cases ran
        exact ⟨rfl, rfl⟩

theorem covers_call {c : Call (Cabinet τ) α} (leaves : Call.Leads Cabinet.SameStore c) :
    Links Desk.Covered (call c) := by
  intro desk
  refine (meets_call c desk).mono ?_
  rintro _ _ rfl
  exact .of_still rfl (leaves desk.world)

theorem covers_count (added : Tally) :
    Links Desk.Covered (count (· + added) : Action (Cabinet τ) Unit) := by
  intro desk
  refine .tally ⟨?_, fun _ => rfl⟩
  simp [Desk.tallied]

/-- What is counted right after it was done is covered. -/
theorem covers_counted (method : Scenario.Method) (id : EntityId)
    (action : MemoryStore → Except StoreError MemoryStore) {added : Tally} (some : 0 < added.total) :
    Links Desk.Covered (call (Cabinet.attempt setup.faults method id (Call.change action)) >>=
      fun _ => count (· + added)) := by
  intro desk
  refine (meets_attempt method id action).bind ?_ fun _ _ ended => .of_still (by rw [ended.1]) ended.2
  rintro _ between ⟨report, _⟩
  refine .tally (.of_counted ?_)
  simpa [Desk.tallied, report] using some

theorem covers_save (setup : Setup τ) (entity : Entity) {added : Tally} (some : 0 < added.total) :
    Links Desk.Covered (call (setup.host.store.save entity) >>= fun _ => count (· + added)) :=
  covers_counted .save entity.id (fun s => .ok (s.save entity)) some

theorem covers_delete (setup : Setup τ) (id : EntityId) {added : Tally} (some : 0 < added.total) :
    Links Desk.Covered (call (setup.host.store.delete id) >>= fun _ => count (· + added)) :=
  covers_counted .delete id (·.delete id) some

theorem composes_covers (setup : Setup τ) (uniquifier : Uniquifier (Cabinet τ)) :
    ComposesLooks (setup.hostWith uniquifier) (Links Desk.Covered) where
  pure := .pure Desk.link_covered
  throw _ desk := .throw (Desk.link_covered.refl desk)
  tooDeep _ := .tooDeep
  bind := .bind Desk.link_covered
  folder id := .look (Desk.chain_covered setup) fun store => looks_folder setup store id
  file id := .look (Desk.chain_covered setup) fun store => looks_file setup store id
  canEdit id := .look (Desk.chain_covered setup) fun _ => .call_read .canEdit id (·.canEdit id)
  canDelete id := .look (Desk.chain_covered setup) fun _ => .call_read .canDelete id (·.canDelete id)

/-! ## Items -/

theorem covers_overwrite (file existing : File) (parent : EntityId) :
    Links Desk.Covered (overwrite (setup.hostWith uniquifier) file existing parent) := by
  have composes := composes_covers setup uniquifier
  have decides : Links Desk.Covered
      (decideCollision (setup.hostWith uniquifier) file.id existing.id) := fun desk => by
    have decides : (decideCollision setup.host file.id existing.id).Meets desk _ :=
      meets_decideCollision file.id existing.id
    refine decides.mono ?_
    rintro _ _ ⟨_, _, decides⟩
    exact decides.kept.covered
  have warns : Links Desk.Covered (warn (.interrupted file.id) : Action (Cabinet τ) Unit) :=
    fun desk => .modify (.of_still rfl rfl)
  -- Either way it takes one call, and the count follows it.
  have leaves : Links Desk.Covered (detachOrDelete (setup.hostWith uniquifier) existing parent >>=
      fun _ => count (· + { filesOverwritten := 1 })) := by
    have once : 0 < ({ filesOverwritten := 1 } : Tally).total := Nat.one_pos
    unfold detachOrDelete
    split
    · simp only [bind_assoc, pure_bind]
      exact covers_save setup _ once
    · simp only [bind_assoc, pure_bind]
      exact covers_delete setup existing.id once
  refine composes.bind (composes.require _ existing.id) fun _ => composes.bind decides fun verdict => ?_
  cases verdict with
  | keep => exact composes.pure false
  | unanswered => exact composes.bind warns fun _ => composes.pure false
  | overwrite =>
    have goes := composes.bind leaves fun _ => composes.pure true
    rwa [bind_assoc] at goes

theorem covers_deleteFile (id : EntityId) (parent : Option EntityId) :
    Links Desk.Covered (deleteFile setup.host id parent) := by
  intro desk
  refine (meets_deleteFile id parent).mono fun result after ended => ?_
  match result, ended with
  | .error _, failed => exact failed.covered
  | .ok _, .inl ⟨_, kept, _⟩ => exact kept.covered
  | .ok _, .inr ⟨file, _, removed⟩ =>
    cases parent with
    | none => exact removed.2.covered (by simp [Tally.total])
    | some folder =>
      refine removed.2.2.covered ?_
      unfold File.countRemoval
      split
      · simp [Tally.total]
      · simp [Tally.total]

theorem covers_deleteEmptied (id : EntityId) :
    Links Desk.Covered (deleteEmptied setup.host id) := by
  intro desk
  refine (meets_deleteEmptied id).mono fun result after ended => ?_
  match result, ended with
  | .error _, failed => exact failed.covered
  | .ok _, .inl ⟨_, kept, _⟩ => exact kept.covered
  | .ok _, .inr ⟨_, changed⟩ => exact changed.covered (by simp [Tally.total])

/-- The folder is counted before anything in it is touched. -/
theorem covers_mergeFolder {move : EntityId → EntityId → Action (Cabinet τ) Unit} {source : Listing}
    {target : EntityId}
    (files : ∀ child source target,
      Links Desk.Covered (moveFile (setup.hostWith uniquifier) child source target))
    (folders : ∀ child, Links Desk.Covered (move child target)) :
    Links Desk.Covered (mergeFolder (setup.hostWith uniquifier) move source target) := by
  -- In the level the emptied folder goes without a count. All that is needed of the rest is that it does
  -- not take back the count made before.
  have job := (Desk.chain_grows setup).toJobLink
  have grows {work : Action (Cabinet τ) Unit} (covers : Links Desk.Covered work) :
      Links Desk.Grows (item setup.host.job work) :=
    .item job fun desk => (covers desk).mono fun _ _ covered => covered.grows
  have removes : Links Desk.Grows (item setup.host.job
      (discard (removeIfEmpty (setup.hostWith uniquifier) source.id))) := by
    refine .item job fun desk => ?_
    have removed : (discard (removeIfEmpty setup.host source.id)).Meets desk fun _ after =>
        desk.Grows after := by
      refine .removeIfEmpty (fun _ _ _ glanced => glanced.kept.grows) ?_
      exact fun after _ altered => Nat.le_of_eq (by rw [altered.changed.tally])
    exact removed
  have level : Links Desk.Grows (inLevel setup.host.job (source.childCount + 1) do
      source.childFolders.forM fun child => item setup.host.job (move child target)
      source.childFiles.forM fun child =>
        item setup.host.job (moveFile (setup.hostWith uniquifier) child (some source.id) target)
      item setup.host.job (discard (removeIfEmpty (setup.hostWith uniquifier) source.id))) := by
    refine .inLevel job (.bind job.toLink (.forM job.toLink fun child _ => grows (folders child)) ?_)
    refine fun _ => .bind job.toLink (.forM job.toLink fun child _ => grows (files child _ _)) ?_
    exact fun _ => removes
  intro desk
  refine .tally_bind ((level _).mono fun _ after grown => .of_counted ?_)
  have counted : (desk.report.tally + { foldersMerged := 1 }).total ≤ after.report.tally.total := grown
  simp only [Tally.total_add] at counted
  exact counted

/-! ## New names -/

/-- As long as something is stored under the identifier, the action succeeds, counts nothing and leaves
something there. -/
def Thrives (id : EntityId) (action : Action (Cabinet τ) α) : Prop :=
  ∀ desk : Desk (Cabinet τ), desk.world.store.has id = true →
    action.Meets desk fun result after => (∃ a, result = .ok a) ∧
      after.report.tally = desk.report.tally ∧ after.world.store.has id = true

namespace Thrives

variable {id : EntityId}

theorem pure (a : α) : Thrives id (Pure.pure a : Action (Cabinet τ) α) :=
  fun _ stored => .pure ⟨⟨a, rfl⟩, rfl, stored⟩

theorem bind {action : Action (Cabinet τ) α} {next : α → Action (Cabinet τ) β}
    (first : Thrives id action) (rest : ∀ a, Thrives id (next a)) : Thrives id (action >>= next) := by
  intro desk stored
  refine (first desk stored).bind ?_ (by rintro _ _ ⟨⟨_, ⟨⟩⟩, _⟩)
  rintro a between ⟨_, tally, stored⟩
  refine (rest a between stored).mono ?_
  rintro _ _ ⟨done, tally', stored⟩
  exact ⟨done, tally'.trans tally, stored⟩

theorem forM {items : List ι} {work : ι → Action (Cabinet τ) Unit}
    (each : ∀ item, Thrives id (work item)) : Thrives id (items.forM work) := by
  induction items with
  | nil => exact pure ()
  | cons item later ih => exact bind (each item) fun _ => ih

variable (reliable : setup.Reliable)
include reliable

theorem look {action : Action (Cabinet τ) α} {a : MemoryStore → α}
    (looks : ∀ store, Looks setup.faults store action (· = .ok (a store))) : Thrives id action := by
  intro desk stored
  refine (looks desk.world.store desk rfl).mono ?_
  rintro _ after ⟨extra, glanced, answered | ⟨_, _, faulted⟩⟩
  · exact ⟨⟨_, answered⟩, glanced.kept.tally, glanced.store ▸ stored⟩
  · exact absurd faulted.canFail reliable

theorem save (entity : Entity) : Thrives id (call (setup.host.store.save entity)) := by
  intro desk stored
  refine (meets_save entity).mono ?_
  rintro _ after (⟨rfl, wrote, _⟩ | ⟨_, _, _, _, faulted⟩)
  · exact ⟨⟨(), rfl⟩, congrArg Report.tally wrote.report, wrote.store ▸ MemoryStore.has_save stored entity⟩
  · exact absurd faulted.canFail reliable

theorem repointChildren (old : Listing) (renamed : EntityId) :
    Thrives id (Action.repointChildren setup.host old renamed) := by
  refine .bind (.forM fun child => ?_) fun _ => .forM fun child => ?_
  · refine .bind (.look reliable fun store => looks_folder setup store child) fun found => ?_
    split
    · exact save reliable _
    · exact pure ()
  · refine .bind (.look reliable fun store => looks_file setup store child) fun found => ?_
    split
    · dsimp only
      split
      · exact save reliable _
      · exact pure ()
    · exact pure ()

/-- What gets its name is there. -/
theorem setDisplayName (name : String) : Thrives id (Action.setDisplayName setup.host id name) := by
  intro desk stored
  -- Either way it is one more thing that is saved.
  have named {result : Except RequestError Unit} {after : Desk (Cabinet τ)} {entity : Entity}
      (ended : match result with
        | .ok _ => desk.Changed after (desk.world.store.save entity) fun tally => tally
        | .error error => desk.Failed setup.faults (fun _ => False) error after) :
      (∃ a, result = .ok a) ∧ after.report.tally = desk.report.tally ∧
        after.world.store.has id = true := by
    match result, ended with
    | .ok _, changed =>
      exact ⟨⟨(), rfl⟩, changed.tally, changed.store_eq ▸ MemoryStore.has_save stored entity⟩
    | .error _, ⟨_, _, .inr faulted⟩ => exact absurd faulted.canFail reliable
  obtain ⟨entity, found⟩ := Option.isSome_iff_exists.mp stored
  cases entity with
  | folder folder =>
    have there := Contents.folder?_eq_some_iff.mpr found
    exact (meets_setDisplayName_folder name there).mono fun _ _ ended => named ended
  | file file =>
    have there := Contents.file?_eq_some_iff.mpr found
    exact (meets_setDisplayName_file name there).mono fun _ _ ended => named ended

end Thrives

section

variable (leaves : ∀ drive desired, Call.Leads Cabinet.SameStore (uniquifier drive desired))
include leaves

/-- A taken identifier is refused by the store, so something is stored under it afterwards only because it
was renamed. -/
theorem meets_assign (id desired : EntityId) :
    (assignIdentifier (setup.hostWith uniquifier) id desired).Meets desk fun result after =>
      after.report.tally = desk.report.tally ∧
        match result with
        | .ok renamed => after.world.store.has renamed = true
        | .error _ => after.world.store = desk.world.store := by
  have asks : Links (fun before after => after.report.tally = before.report.tally ∧
      after.world.store = before.world.store) (call (uniquifier desired.drive.text desired.name.text)) :=
    fun desk => (meets_call _ desk).mono (by rintro _ _ rfl; exact ⟨rfl, leaves _ _ desk.world⟩)
  refine (asks desk).bind (fun renamed given same => ?_) fun _ _ same => same
  have permits : (require setup.host .edit renamed).Meets given fun _ after =>
      after.report.tally = desk.report.tally ∧ after.world.store = desk.world.store := by
    refine (looks_require setup _ .edit renamed given rfl).mono ?_
    rintro _ after ⟨_, glanced, _⟩
    exact ⟨glanced.kept.tally.trans same.1, glanced.store.trans same.2⟩
  refine permits.bind (fun _ asked same => ?_) fun _ _ same => same
  -- Renaming writes under the new identifier, which is what makes it be in use.
  have renames : (call (setup.host.store.rename id renamed)).Meets asked _ :=
    meets_attempt .rename id (·.rename id renamed)
  refine renames.bind (fun _ labelled ended => .pure ⟨by rw [ended.1, same.1], ?_⟩) fun _ _ ended =>
    ⟨by rw [ended.1, same.1], ended.2.trans same.2⟩
  have went : asked.world.store.rename id renamed = .ok labelled.world.store := ended.2
  unfold MemoryStore.rename at went
  split at went
  · cases went
  split at went
  · cases went
  next entity _ =>
    rw [← Except.ok.inj went]
    have sameId : (entity.withId renamed).id = renamed := by cases entity with
      | folder folder => rfl
      | file file => rfl
    simp [MemoryStore.save, MemoryStore.has, Catalogue.has, sameId]

/-- Once something has its new identifier, all that is left to do succeeds, and then it is counted. -/
theorem covers_assigned (setup : Setup τ) (id desired : EntityId)
    {rest : EntityId → Action (Cabinet τ) Unit} (thrives : ∀ renamed, Thrives renamed (rest renamed)) :
    Links Desk.Covered (assignIdentifier (setup.hostWith uniquifier) id desired >>= fun renamed =>
      rest renamed >>= fun _ => count (· + { itemsRenamed := 1 })) := by
  intro desk
  refine (meets_assign leaves id desired).bind ?_ fun _ _ ended => .of_still ended.1 ended.2
  rintro renamed labelled ⟨tally, stored⟩
  -- What is left to do cannot fail now, so the count is reached.
  refine (thrives renamed labelled stored).bind ?_ (by rintro _ _ ⟨⟨_, ⟨⟩⟩, _⟩)
  rintro _ named ⟨_, tally', _⟩
  refine .tally (.of_counted ?_)
  simp only [Desk.tallied, tally', tally, Tally.total_add]
  exact Nat.lt_add_of_pos_right (by decide)

theorem composes_puts (setup : Setup τ) :
    ComposesPuts (setup.hostWith uniquifier) (Links Desk.Covered) where
  toComposes := (composes_covers setup uniquifier).toComposes
  uniquifier drive desired := covers_call (leaves drive desired)
  put entity _ _ some := covers_save setup entity some

theorem covers_work (reliable : setup.Reliable) :
    ComposesWork (setup.hostWith uniquifier) (Links Desk.Covered) where
  toComposesLooks := composes_covers setup uniquifier
  uniquifier := (composes_puts leaves setup).uniquifier
  put := (composes_puts leaves setup).put
  finishFolder id desired old name := by
    unfold finishFolder
    split
    · have covers := covers_assigned leaves setup id desired fun renamed =>
        (Thrives.repointChildren reliable old renamed).bind fun _ => .setDisplayName reliable name
      simp only [bind_assoc] at covers
      exact covers
    · exact .pure Desk.link_covered ()
  finishFile id desired name := by
    unfold finishFile
    split
    · exact covers_assigned leaves setup id desired fun renamed => .setDisplayName reliable name
    · exact .pure Desk.link_covered ()
  merged := covers_count _
  overwrite := covers_overwrite
  deleteFile := covers_deleteFile
  deleteEmptied := covers_deleteEmptied
  mergeFolder := covers_mergeFolder <|
    (composes_covers setup uniquifier).moveFile covers_overwrite (composes_puts leaves setup).relist
  item work := .item (Desk.chain_covered setup).toJobLink work
  inLevel work := .inLevel (Desk.chain_covered setup).toJobLink work

end

end Action

/-! ## Requests -/

section

variable {setup : Setup τ} {uniquifier : Uniquifier (Cabinet τ)} {depth : Nat} {cabinet after : Cabinet τ}
  {report : Report}
  (leaves : ∀ drive desired, Call.Leads Cabinet.SameStore (uniquifier drive desired))
include leaves

theorem Request.covers_workAll (reliable : setup.Reliable) (depth : Nat) (operation : Operation)
    (mode : Mode) (request : Request) : Action.Links Desk.Covered
      (workAll (setup.hostWith uniquifier) depth operation mode request) := by
  have job := (Desk.chain_covered setup).toJobLink
  have covers := Action.covers_work leaves reliable
  have sameWork (work : Path → Action (Cabinet τ) Unit) (paths : List Path) :
      workOff (setup.hostWith uniquifier) work paths = workOff setup.host work paths :=
    workOff_congr (setup.hostWith uniquifier) setup.host rfl work paths
  unfold workAll
  rw [sameWork]
  exact .inLevel job (.workOff job fun path _ => covers.workOn depth operation mode _ path)

/-- Wherever new identifiers come from, from a search for a free one or from any function of drive and
name, and whatever is requested, permitted, answered, cancelled or listed as failed: a report that says
that nothing has changed is right. -/
theorem Order.unchanged_of_report (reliable : setup.Reliable) {order : Order}
    (ran : order.run (setup.hostWith uniquifier) depth cabinet = some (.ok report, after))
    (unchanged : report.changed = false) : after.store = cabinet.store := by
  have none : report.tally.total = 0 := by simpa [Report.changed] using unchanged
  have worked {operation : Operation} {mode : Mode} {request : Request} {begun : Cabinet τ}
      {ended : Except RequestError Unit} {desk : Desk (Cabinet τ)}
      (worked : Request.workAll (setup.hostWith uniquifier) depth operation mode request
        (request.desk operation mode begun) = some (ended, desk))
      (told : desk.report = report) : desk.world.store = begun.store := by
    have covered := Request.covers_workAll leaves reliable depth operation mode request _ _ _ worked
    exact covered.still (by rw [told, none]; rfl)
  have sorted {operation : Operation} {request : Request}
      (ran : request.classifyAndRun (setup.hostWith uniquifier) depth operation cabinet =
        some (.ok report, after)) : after.store = cabinet.store := by
    -- Sorting the request only looks.
    have looked : Call.Leads Cabinet.SameStore (request.classify setup.host) :=
      Call.Peeks.sameStore fun store => Request.peeks_classify setup store request
    rcases Request.work_of_classified ran with ⟨_, _, ⟨⟩⟩ | ⟨_, _, _, _, sorted, went, same, rfl⟩
    have first := looked cabinet
    rw [show (request.classify setup.host).run cabinet = _ from sorted] at first
    exact (worked went (Except.ok.inj same).symm).trans first
  cases order with
  | plan request => exact sorted ran
  | copy request => exact sorted ran
  | delete paths =>
    obtain ⟨⟨report', _⟩, ran, same⟩ := Option.bind_eq_some_iff.mp ran
    cases same
    obtain ⟨_, desk, went, told, rfl⟩ := Request.work_of_run ran
    exact worked went told

end

namespace Sample

/-- Every new identifier is the one of the first folder. -/
def stubborn : Uniquifier (Cabinet Unit) := .ofNames fun _ _ => .ok docs

/-- The other folder is to get another identifier. -/
def retitle : Order := .plan (.taking note ⟨none, some ⟨drive, ⟨"draft", by decide⟩⟩⟩)

end Sample

open Sample in
theorem Order.unchanged_of_report_apart : ∃ report after,
    retitle.run (Setup.quiet.hostWith stubborn) 3 ⟨apart, (), []⟩ = some (.ok report, after) ∧
    report.failures = [.storage (some (.alreadyExists docs))] ∧ after.store = apart := by
  have went : ((retitle.run (Setup.quiet.hostWith stubborn) 3 ⟨apart, (), []⟩).map fun outcome =>
      outcome.1.toOption.map fun report => (report.failures, report.changed)) =
      some (some ([.storage (some (.alreadyExists docs))], false)) := by decide +kernel
  obtain ⟨⟨result, after⟩, ran, found⟩ := Option.map_eq_some_iff.mp went
  cases result with
  | error error => cases found
  | ok report =>
    obtain ⟨failures, unchanged⟩ := Prod.mk.inj (Option.some.inj found)
    exact ⟨report, after, ran, failures,
      unchanged_of_report (Uniquifier.leaves_ofNames _) Setup.quiet_reliable ran unchanged⟩

end Filing
