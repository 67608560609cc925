import Filing.Proofs.Course
import Filing.Proofs.Halting
import Filing.Proofs.Integrity

/-!
# What a move into a folder spares

With a store that does what is asked of it, work on a move into a folder tells its course
(`Desk.Tells`): whatever was answered, permitted or cancelled, there are deeds that lead from what
was there before to what is there afterwards. So files and folders go only the way they can go in a
course (`Request.plan_spares`). Without loops of folders the work also comes to an end.
-/
namespace Filing

variable {τ : Type}

/-- The moment before anything is done. -/
def Moment.opening (cabinet : Cabinet τ) : Moment τ where
  store := cabinet.store
  tally := {}
  around := cabinet.around
  heard := []
  merged := []

/-- The desk at that moment. What it remembers was heard. -/
structure Desk.At (rules : Rules) (desk : Desk (Cabinet τ)) (m : Moment τ) : Prop where
  rules : desk.rules = rules
  stage : desk.stage = m.toStage
  around : desk.world.around = m.around
  faithful : desk.remembered = some true → ∃ question, (question, some ⟨true, true⟩) ∈ m.heard

/-- From every moment at which these folders have been merged, deeds lead from one desk to the other. -/
def Desk.Tells (setup : Setup τ) (rules : Rules) (merged : List EntityId)
    (desk after : Desk (Cabinet τ)) : Prop :=
  ∀ m, desk.At rules m → merged ⊆ m.merged →
    ∃ events last, Course setup rules m events last ∧ after.At rules last

namespace Desk

variable {setup : Setup τ} {rules : Rules} {desk between after : Desk (Cabinet τ)} {m : Moment τ}
  {merged : List EntityId} {extra : List Entry}

namespace At

theorem store (here : desk.At rules m) : desk.world.store = m.store := congrArg Stage.store here.stage

theorem tally (here : desk.At rules m) : desk.report.tally = m.tally :=
  congrArg Stage.tally here.stage

theorem glanced (here : desk.At rules m) (glanced : desk.Glanced setup.faults after extra) :
    after.At rules { m with around := after.world.around } where
  rules := glanced.kept.rules.trans here.rules
  stage := glanced.kept.stage.trans here.stage
  around := rfl
  faithful known := here.faithful (glanced.remembered ▸ known)

theorem wrote {method : Scenario.Method} {store : MemoryStore} {change : Tally → Tally}
    (here : desk.At rules m) (wrote : desk.Wrote after method store change) :
    after.At rules { m with
      store
      tally := change m.tally
      around := after.world.around } where
  rules := wrote.rules.trans here.rules
  stage := by simp [Desk.stage, wrote.store, wrote.report, here.tally]
  around := rfl
  faithful known := here.faithful (wrote.remembered ▸ known)

theorem tallied (here : desk.At rules m) (change : Tally → Tally) :
    (desk.tallied change).At rules { m with tally := change m.tally } where
  rules := here.rules
  stage := by simp [Desk.stage, Desk.tallied, here.store, here.tally]
  around := here.around
  faithful := here.faithful

theorem merging (here : desk.At rules m) (id : EntityId) :
    desk.At rules { m with merged := m.merged ++ [id] } :=
  ⟨here.rules, here.stage, here.around, here.faithful⟩

end At

namespace Tells

theorem refl (desk : Desk (Cabinet τ)) : desk.Tells setup rules merged desk :=
  fun m here _ => ⟨[], m, .done m, here⟩

theorem trans {third : Desk (Cabinet τ)} (tells : desk.Tells setup rules merged between)
    (tells' : between.Tells setup rules merged third) : desk.Tells setup rules merged third := by
  intro m here known
  obtain ⟨events, middle, course, there⟩ := tells m here known
  obtain ⟨later, last, course', there'⟩ :=
    tells' middle there (List.Subset.trans known course.merged_subset)
  exact ⟨events ++ later, last, course.append course', there'⟩

theorem widen {more : List EntityId} (tells : desk.Tells setup rules merged after)
    (subset : merged ⊆ more) : desk.Tells setup rules more after :=
  fun m here known => tells m here (List.Subset.trans subset known)

theorem of_glanced (glanced : desk.Glanced setup.faults after extra) :
    desk.Tells setup rules merged after := by
  intro m here _
  have drift : setup.faults.Drift m.around after.world.around := here.around ▸ glanced.drift
  exact ⟨_, _, .single (.call drift), here.glanced glanced⟩

theorem of_warned (desk : Desk (Cabinet τ)) (warning : RequestError) :
    desk.Tells setup rules merged (desk.warned warning) :=
  fun m here _ => ⟨[], m, .done m, ⟨here.rules, here.stage, here.around, here.faithful⟩⟩

theorem of_missed {reason : RequestError → Prop} {error : RequestError}
    (missed : desk.Missed setup.faults reason error after) : desk.Tells setup rules merged after := by
  obtain ⟨_, glanced, _⟩ := missed
  exact of_glanced glanced

end Tells

theorem chain_tells (setup : Setup τ) (rules : Rules) (merged : List EntityId) :
    Chain setup (Tells setup rules merged) where
  refl := .refl
  trans := .trans
  failing _ _ m here _ := ⟨[], m, .done m, ⟨here.rules, here.stage, here.around, here.faithful⟩⟩
  leftOff _ m here _ := ⟨[], m, .done m, ⟨here.rules, here.stage, here.around, here.faithful⟩⟩
  glanced glanced := .of_glanced glanced
  turned {desk around} turns m here _ := by
    have turns : setup.job.Turns m.around around := here.around ▸ turns
    exact ⟨_, _, .single (.turn turns), ⟨here.rules, here.stage, rfl, here.faithful⟩⟩

/-! ## Collisions -/

/-- A decision to overwrite was accepted. -/
theorem Decides.accepted {question : Question} {verdict : Verdict}
    (decides : desk.Decides setup.job question verdict after) (here : desk.At rules m) :
    ∃ events last, Course setup rules m events last ∧ last.store = m.store ∧
      after.At rules last ∧ (verdict = .overwrite → Accepted last.heard question) := by
  cases decides with
  | quiet _ => exact ⟨[], m, .done m, rfl, here, by rintro ⟨⟩⟩
  -- Only an answer for all collisions is remembered, so there was one.
  | @remembered overwrite asks holds =>
    refine ⟨[], m, .done m, rfl, here, fun decided => .inr (here.faithful ?_)⟩
    cases overwrite with
    | true => exact holds
    | false => cases decided
  | unanswered asks forgot told =>
    rw [here.around] at told
    refine ⟨_, _, .single (.ask told), rfl, ⟨here.rules, here.stage, rfl, ?_⟩, by rintro ⟨⟩⟩
    intro known
    simp [forgot] at known
  | @answered decision around asks forgot told =>
    rw [here.around] at told
    refine ⟨_, _, .single (.ask told), rfl, ⟨here.rules, here.stage, rfl, ?_⟩, fun decided => ?_⟩
    · obtain ⟨overwrite, applyToAll⟩ := decision
      intro known
      -- Whatever was remembered before, nothing was: otherwise nobody would have been asked.
      obtain ⟨rfl, rfl⟩ : applyToAll = true ∧ overwrite = true := by simpa using known
      exact ⟨question, by simp⟩
    · obtain ⟨overwrite, applyToAll⟩ := decision
      cases overwrite with
      | true => exact .inl ⟨applyToAll, by simp⟩
      | false => cases decided

theorem Decides.tells {question : Question} {verdict : Verdict}
    (decides : desk.Decides setup.job question verdict after) :
    desk.Tells setup rules merged after := by
  intro m here _
  obtain ⟨events, last, course, _, there, _⟩ := decides.accepted here
  exact ⟨events, last, course, there⟩

variable {file existing : File} {target : EntityId} {except : Option EntityId}
  {result : Except RequestError Bool}

theorem Overwrites.tells (overwrites : desk.Overwrites setup file existing target result after)
    (reliable : setup.Reliable) (stays : result ≠ .ok true) :
    desk.Tells setup rules merged after := by
  cases overwrites with
  | refused missed => exact .of_missed missed
  | kept glanced decides => exact .trans (.of_glanced glanced) decides.tells
  | unanswered glanced decides =>
    exact .trans (.of_glanced glanced) (.trans decides.tells (.of_warned _ _))
  | evicted _ _ _ _ _ => exact absurd rfl stays
  | stuck _ _ missed => exact (missed.reason_of_reliable reliable).elim

theorem Prepares.tells (prepares : desk.Prepares setup file target except result after)
    (reliable : setup.Reliable) (stays : result ≠ .ok true) :
    desk.Tells setup rules merged after := by
  cases prepares with
  | missed missed => exact .of_missed missed
  | free _ _ => exact absurd rfl stays
  | clash glanced _ overwrites => exact .trans (.of_glanced glanced) (overwrites.tells reliable stays)

/-- The file in the way has left, on the grounds of what was heard. This is part of a deed only: the
other file has yet to arrive. -/
structure Ousted (rules : Rules) (after : Desk (Cabinet τ)) (file existing : File)
    (target : EntityId) (m : Moment τ) : Prop where
  displaces : Displaces rules m.store file existing target
  accepted : Accepted m.heard ⟨file.id, existing.id⟩
  here : after.At rules { m with
    store := m.store.takeOut existing target
    tally := { m.tally with filesOverwritten := m.tally.filesOverwritten + 1 } }

theorem Prepares.granted (prepares : desk.Prepares setup file target except (.ok true) after)
    (stored : desk.world.store.contents.file? file.id = some file)
    (apart : except = some file.id ∨ except = none ∧ target ∉ file.parents)
    (here : desk.At rules m) :
    ∃ events last, Course setup rules m events last ∧ last.store = m.store ∧
      (after.At rules last ∧ m.store.contents.FreeFileName file.name target except ∨
        ∃ existing, after.Ousted rules file existing target last) := by
  have store := here.store
  cases prepares with
  | free glanced free =>
    have drift : setup.faults.Drift m.around after.world.around := here.around ▸ glanced.drift
    exact ⟨_, _, .single (.call drift), rfl, .inl ⟨here.glanced glanced, store ▸ free⟩⟩
  | @clash first _ existing _ _ glanced clash overwrites =>
    have differs : existing.id ≠ file.id := clash.differs_of_apart stored apart
    cases overwrites with
    | @evicted asked _ decided method removed glanced' permitted decides wrote drift =>
      -- Looking, the decision and the other file's removal, each from where the one before ended.
      have looked := glanced.trans glanced'
      have drift' : setup.faults.Drift m.around asked.world.around := here.around ▸ looked.drift
      obtain ⟨events, told, course, sameStore, there, accepted⟩ :=
        decides.accepted (here.glanced looked)
      have drift'' : setup.faults.Drift told.around removed.world.around := there.around ▸ drift
      have asks : desk.interactive = true := looked.interactive ▸ decides.asks (by simp)
      have asks : rules.interactive = true := here.rules ▸ asks
      have sameStore : told.store = m.store := sameStore
      refine ⟨_, { told with around := removed.world.around },
        ((Course.single (.call drift')).append course).concat (.call drift''), sameStore,
        .inr ⟨existing, ?_, accepted rfl, ?_⟩⟩
      · rw [glanced.store] at permitted
        rw [store] at stored clash permitted
        simp only [sameStore]
        exact ⟨asks, stored, clash.stored, clash.listed, differs, clash.sameName, permitted⟩
      · have counted := there.wrote (wrote.counted fun tally =>
          { tally with filesOverwritten := tally.filesOverwritten + 1 })
        rw [glanced.store, store, ← sameStore] at counted
        exact counted

end Desk

namespace Action

variable {setup : Setup τ} {rules : Rules}

open Desk (Tells)

theorem tells_moveFile (reliable : setup.Reliable) (id : EntityId) (source : Option EntityId)
    (target : EntityId) :
    Links (Tells setup rules []) (moveFile setup.host id source target) := by
  intro desk
  refine .moveFile ?_ ?_ ?_ ?_ ?_
  · exact fun _ _ glanced _ => .of_glanced glanced
  · exact fun _ _ missed => .of_missed missed
  · exact fun _ _ _ _ _ prepares => prepares.tells reliable (by simp)
  · exact fun _ _ _ _ prepares => prepares.tells reliable (by simp)
  rintro file roomed stored rfl _ destination permitted prepares
  refine (meets_relist file source target).mono fun result after ended m here _ => ?_
  obtain ⟨events, last, course, same, granted⟩ := prepares.granted stored (.inl rfl) here
  rw [here.store, ← same] at stored destination permitted
  cases result with
  | error _ => exact (ended.reason_of_reliable reliable).elim
  | ok _ =>
    rcases ended with ⟨unchanged, rfl⟩ | ⟨changes, wrote, drift⟩
    -- The file was listed there before, so that the other one has left is all there is to tell.
    · rcases granted with ⟨there, _⟩ | ⟨existing, ousted⟩
      · exact ⟨events, last, course, there⟩
      · have already : target ∈ (file.reparent source target).1.parents :=
          File.mem_parents_reparent.mpr (.inl rfl)
        rw [File.reparent_of_unchanged unchanged] at already
        exact ⟨_, _, course.concat (.oust ousted.displaces ousted.accepted already), ousted.here⟩
    -- Otherwise it arrives by a second change, and both make one deed.
    · have relists : Relists last.store file source target :=
        ⟨stored, destination, permitted, changes⟩
      rcases granted with ⟨there, free⟩ | ⟨existing, ousted⟩
      · have moved := there.wrote wrote
        rw [there.store] at moved
        have drift : setup.faults.Drift last.around after.world.around := there.around ▸ drift
        have call := course.concat (.call drift)
        exact ⟨_, _, call.concat (.relist relists (same ▸ free)), moved⟩
      · have moved := ousted.here.wrote wrote
        rw [ousted.here.store] at moved
        have drift : setup.faults.Drift last.around after.world.around := ousted.here.around ▸ drift
        have call := course.concat (.call drift)
        exact ⟨_, _, call.concat (.overwrite ousted.displaces ousted.accepted relists), moved⟩

theorem tells_removeIfEmpty (id : EntityId) :
    Links (Tells setup rules [id]) (discard (removeIfEmpty setup.host id)) := by
  intro desk
  refine .removeIfEmpty (fun _ _ _ glanced => .of_glanced glanced) ?_
  intro after dissolves altered m here known
  obtain ⟨between, extra, method, glanced, wrote, drift⟩ := altered
  -- The folder is one of those that have been merged by now.
  have drift : setup.faults.Drift m.around after.world.around :=
    here.around ▸ glanced.drift.trans drift
  have gone := (here.glanced glanced).wrote wrote
  rw [here.store] at dissolves gone
  have merged : id ∈ m.merged := known (by simp)
  exact ⟨_, _, (Course.single (.call drift)).concat (.dissolve dissolves merged), gone⟩

/-- Moving a folder tells its course, down to any depth: that of the folder itself, or that of a merge
and of everything in it. -/
theorem tells_moveFolder (reliable : setup.Reliable) (depth : Nat) (id target : EntityId) :
    Links (Tells setup rules []) (moveFolder setup.host depth id target) := by
  induction depth generalizing id target with
  | zero => exact fun _ => .tooDeep
  | succ depth ih =>
    intro desk
    refine .moveFolder ?_ ?_ ?_ ?_
    · exact fun _ _ glanced _ => .of_glanced glanced
    · exact fun _ _ missed => .of_missed missed
    · rintro after folder rfl reparents free ⟨between, extra, method, glanced, wrote, drift⟩ m here _
      have drift : setup.faults.Drift m.around after.world.around :=
        here.around ▸ glanced.drift.trans drift
      have moved := (here.glanced glanced).wrote wrote
      rw [here.store] at reparents free moved
      exact ⟨_, _, (Course.single (.call drift)).concat (.reparent reparents free), moved⟩
    · rintro between extra folder existing glanced rfl _ reparents clash
      have job := (Desk.chain_tells setup rules [folder.id]).toJobLink
      have widened {work : Action (Cabinet τ) Unit} (tells : Links (Tells setup rules []) work) :
          Links (Tells setup rules [folder.id]) work :=
        fun desk => (tells desk).mono fun _ _ tells => tells.widen (by simp)
      -- What is in the folder is worked on after the merge, so the folder may go at the end.
      have level : Links (Tells setup rules [folder.id])
          (inLevel setup.host.job (folder.childCount + 1) do
            folder.childFolders.forM fun child =>
              item setup.host.job (moveFolder setup.host depth child existing)
            folder.childFiles.forM fun child =>
              item setup.host.job (moveFile setup.host child (some folder.id) existing)
            item setup.host.job (discard (removeIfEmpty setup.host folder.id))) := by
        refine .inLevel job (.bind job.toLink ?_ fun _ => .bind job.toLink ?_ fun _ => ?_)
        · exact .forM job.toLink fun child _ => .item job (widened (ih child existing))
        · exact .forM job.toLink fun child _ =>
            .item job (widened (tells_moveFile reliable child (some folder.id) existing))
        · exact .item job (tells_removeIfEmpty folder.id)
      refine .tally_bind ((level _).mono fun _ after tells m here _ => ?_)
      have drift : setup.faults.Drift m.around between.world.around := here.around ▸ glanced.drift
      rw [here.store] at reparents clash
      obtain ⟨events, last, course, ended⟩ :=
        tells _ (((here.glanced glanced).tallied _).merging folder.id) (by simp)
      exact ⟨_, last, ((Course.single (.call drift)).concat (.merge reparents clash)).append course,
        ended⟩

end Action

namespace Request

open Filing.Action
open Desk (Tells)

variable {setup : Setup τ} {rules : Rules}

theorem tells_workOn (reliable : setup.Reliable) (depth : Nat) (destination path : Path) :
    Links (Tells setup rules []) (workOn setup.host depth .move .bulk destination path) := by
  have stays : Links (Tells setup rules []) (pure () : Action (Cabinet τ) Unit) :=
    .pure (Desk.chain_tells setup rules []).toLink ()
  obtain ⟨folder, leaf⟩ := destination
  obtain ⟨source, file⟩ := path
  cases folder with
  | none => exact stays
  | some target =>
    cases file with
    | some file => exact tells_moveFile reliable file source target
    | none =>
      cases source with
      | some folder => exact tells_moveFolder reliable depth folder target
      | none => exact stays

theorem tells_workAll (reliable : setup.Reliable) (depth : Nat) (request : Request) :
    Links (Tells setup rules []) (workAll setup.host depth .move .bulk request) :=
  have job := (Desk.chain_tells setup rules []).toJobLink
  .inLevel job (.workOff job fun path _ => tells_workOn reliable depth request.destination path)

/-- A move into a folder that was begun has a course. -/
theorem course_of_plan (reliable : setup.Reliable) {request : Request} {depth : Nat}
    {cabinet after : Cabinet τ} {result : Except RequestError Report}
    (bulk : request.modeIn cabinet.store.contents = .bulk)
    (ran : request.plan setup.host depth cabinet = some (result, after)) :
    ∃ report events last, result = .ok report ∧
      Course setup ⟨.move, .bulk, request.interactive⟩ (.opening cabinet) events last ∧
      last.toStage = ⟨after.store, report.tally⟩ ∧ last.around = after.around := by
  obtain ⟨between, same, drift, sorted⟩ := classifyAndRun_eq reliable depth .move request cabinet
  unfold plan at ran
  rw [sorted, bulk, Option.map_eq_some_iff] at ran
  obtain ⟨⟨report, _⟩, ran, told⟩ := ran
  cases told
  obtain ⟨_, desk, worked, rfl, rfl⟩ := work_of_run ran
  -- The first look at the destination is a call of its own.
  have begun : (request.desk .move .bulk between).At ⟨.move, .bulk, request.interactive⟩
      { Moment.opening cabinet with around := between.around } :=
    ⟨rfl, by simp [Desk.stage, Request.desk, Moment.opening, same], rfl, by rintro ⟨⟩⟩
  obtain ⟨events, last, course, ended⟩ :=
    tells_workAll reliable depth request _ _ _ worked _ begun (by simp)
  exact ⟨desk.report, _, last, rfl, (Course.single (.call drift)).append course, ended.stage.symm,
    ended.around.symm⟩

/-- Whatever is answered, permitted or cancelled, a move into a folder leaves every file where it can
be found, but for those that were overwritten in their last folder by an accepted decision, and every
folder but for emptied sources of a merge. A report comes of it unless folders lie deeper than
allowed. -/
theorem plan_spares (reliable : setup.Reliable) {request : Request} {cabinet : Cabinet τ}
    (bulk : request.modeIn cabinet.store.contents = .bulk)
    (loopFree : cabinet.store.contents.LoopFree) :
    (∀ depth result after, request.plan setup.host depth cabinet = some (result, after) →
      ∃ report events last, result = .ok report ∧
        Course setup ⟨.move, .bulk, request.interactive⟩ (.opening cabinet) events last ∧
        last.toStage = ⟨after.store, report.tally⟩ ∧ last.around = after.around ∧
        report.tally.filesOverwritten = events.countP (·.deed.isOverwrite) ∧
        (∀ record, setup.Records record → record cabinet.around = [] →
          record after.around = last.heard ∧
            ∀ event ∈ events, record event.before.around = event.before.heard) ∧
        Course.Spares (.opening cabinet) events last ∧
        (request.interactive = false → ∀ file, cabinet.store.contents.file? file.id = some file →
          file.SparedIn after.store.contents)) ∧
    ∀ depth, 2 * cabinet.store.contents.folders.ncard < depth →
      ∃ report after, request.plan setup.host depth cabinet = some (.ok report, after) := by
  refine ⟨fun depth result after ran => ?_, fun _ enough => plan_returns reliable bulk loopFree enough⟩
  obtain ⟨report, events, last, told, course, stage, around⟩ := course_of_plan reliable bulk ran
  have store : last.store = after.store := congrArg Stage.store stage
  have tally : last.tally = report.tally := congrArg Stage.tally stage
  have counted := course.filesOverwritten
  rw [tally] at counted
  have spares := course.spares rfl
  refine ⟨report, events, last, told, course, stage, around, by simpa [Moment.opening] using counted,
    fun record records none => around ▸ course.heard_eq records none, spares, ?_⟩
  -- Where nobody is asked, no event can have destroyed the file.
  intro quiet file stored
  rw [← store]
  refine (spares.files file stored).resolve_right ?_
  rintro ⟨event, member, taker, target, destroys⟩
  have does := course.does_of_mem member
  rw [destroys.deed] at does
  have asked : request.interactive = true := does.asked_of_overwrite
  simp [quiet] at asked

end Request

namespace Sample

def inside : EntityId := ⟨drive, ⟨"inside", by decide⟩⟩

def old : EntityId := ⟨drive, ⟨"old", by decide⟩⟩

def new : EntityId := ⟨drive, ⟨"new", by decide⟩⟩

/-- A folder and one with its name inside another folder, each with a file of the same name. -/
def rivals : MemoryStore := .ofEntities
  [.folder ⟨docs, "docs", none⟩, .folder ⟨note, "note", none⟩, .folder ⟨inside, "note", some docs⟩,
    .file ⟨new, "memo", [1], .ofList [note]⟩, .file ⟨old, "memo", [], .ofList [inside]⟩]

/-- Whoever is asked agrees, and it goes on record. -/
def agreeing : Setup (List Answered) where
  faults := .never
  suffixing := .standard
  job :=
    { push := fun _ => pure ()
      step := pure ()
      pop := pure ()
      ask := fun question around =>
        (some ⟨true, false⟩, around ++ [(question, some ⟨true, false⟩)])
      isCancelled := pure false }

/-- Puts the folder where the other one is. -/
def unite : Request := { Request.taking note (.ofFolder docs) with interactive := true }

theorem rivals_loopFree : rivals.contents.LoopFree := by
  have stored : ∃ folder, apart.contents.folder? docs = some folder := ⟨⟨docs, "docs", none⟩, by decide⟩
  have folders : Contents.LoopFree
      (apart.contents.insert (.folder ⟨inside, "note", some docs⟩)) := by
    apply apart_wellFormed.loopFree.insert_folder
    rintro _ ⟨⟩
    exact apart_wellFormed.not_below_of_unused (by decide) stored
  -- The files are not met on the way up from anywhere.
  have loopFree (file : File) (c : Contents) (noFolder : c.folder? file.id = none)
      (loopFree : c.LoopFree) : Contents.LoopFree (c.insert (.file file)) :=
    loopFree.congr (Contents.folder?_insert_file_of_noFolder noFolder)
  exact loopFree _ _ (by decide) (loopFree _ _ (by decide) folders)

theorem agreeing_reliable : agreeing.Reliable := Faults.not_canFail_never

theorem agreeing_records : agreeing.Records id where
  call _ _ _ := rfl
  turn turns := by
    cases turns with
    | push _ => rfl
    | step => rfl
    | pop => rfl
    | isCancelled => rfl
  ask _ _ := rfl

end Sample

open Sample in
theorem Request.plan_spares_rivals : ∃ report after, ∃ overwriting emptying : Event (List Answered),
    ∃ taker target, unite.plan agreeing.host 9 ⟨rivals, [], []⟩ = some (.ok report, after) ∧
    after.store.contents.file? new = some ⟨new, "memo", [1], .ofList [inside]⟩ ∧
    overwriting.Destroys old taker target ∧ Accepted overwriting.before.around ⟨taker, old⟩ ∧
    emptying.Empties note := by
  have went : ((unite.plan agreeing.host 9 ⟨rivals, [], []⟩).map fun outcome =>
      (outcome.2.store.contents.file? new, outcome.2.store.contents.file? old,
        outcome.2.store.contents.folder? note)) =
      some (some ⟨new, "memo", [1], .ofList [inside]⟩, none, none) := by decide +kernel
  obtain ⟨⟨result, after⟩, ran, found⟩ := Option.map_eq_some_iff.mp went
  obtain ⟨arrived, gone⟩ := Prod.mk.inj found
  obtain ⟨oldGone, noteGone⟩ := Prod.mk.inj gone
  obtain ⟨report, events, last, rfl, _, stage, _, _, recorded, spares, _⟩ :=
    (plan_spares agreeing_reliable (by decide) rivals_loopFree).1 9 result after ran
  have store : last.store = after.store := congrArg Stage.store stage
  obtain ⟨_, onRecord⟩ := recorded id agreeing_records rfl
  have destroyed := (spares.files ⟨old, "memo", [], .ofList [inside]⟩ (by decide)).resolve_left (by
    rintro ⟨later, there, _⟩
    rw [store] at there
    exact absurd (oldGone.symm.trans there) (by simp))
  have emptied := (spares.folders ⟨note, "note", none⟩ (by decide)).resolve_left (by
    rintro ⟨later, there, _⟩
    rw [store] at there
    exact absurd (noteGone.symm.trans there) (by simp))
  obtain ⟨overwriting, member, taker, target, destroys⟩ := destroyed
  obtain ⟨_, emptying, _, _, empties, _⟩ := emptied
  have accepted := destroys.accepted
  rw [← onRecord overwriting member] at accepted
  exact ⟨report, after, overwriting, emptying, taker, target, ran, arrived, destroys, accepted, empties⟩

end Filing
