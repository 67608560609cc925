import Filing.Progress
import Filing.Proofs.Adding

/-!
# Levels of progress are well nested

What a request tells its job of progress is well nested (`WellNested`): a level is entered, and a step
is made, only where there is a step left, and only a complete level is left. That holds of any store,
uniquifier and job, whichever calls fail, because the work inside a level never fails: the failure of
an item is settled before its step is made.

`Host.Signals` says which signals the job got on the way from one world to another. A job that keeps
a record of them pins them down (`Host.Observes`), and one that keeps progress has the levels it had
before in the end.
-/
namespace Filing

variable {σ X : Type}

/-- What the job is told of progress, and what it says when asked whether it was cancelled. -/
inductive Job.Signal where
  | push (total : Nat)
  | step
  | pop
  | check (cancelled : Bool)
  deriving DecidableEq

def Progress.hear (p : Progress) : Job.Signal → Progress
  | .push total => p.push total
  | .step => p.step
  | .pop => p.pop
  | .check _ => p

namespace Host

/-- A call of the store or the uniquifier, or a question, leads from one world to the other. -/
inductive Serves (host : Host σ) (world : σ) : σ → Prop
  | folder (id : EntityId) : Serves host world ((host.store.folder id).run world).2
  | file (id : EntityId) : Serves host world ((host.store.file id).run world).2
  | save (entity : Entity) : Serves host world ((host.store.save entity).run world).2
  | delete (id : EntityId) : Serves host world ((host.store.delete id).run world).2
  | rename (source target : EntityId) :
      Serves host world ((host.store.rename source target).run world).2
  | canEdit (id : EntityId) : Serves host world ((host.store.canEdit id).run world).2
  | canDelete (id : EntityId) : Serves host world ((host.store.canDelete id).run world).2
  | uniquifier (drive desired : String) :
      Serves host world ((host.uniquifier drive desired).run world).2
  | ask (question : Question) : Serves host world ((host.job.ask question).run world).2

/-- Calls lead from one world to the other, and these are the signals to the job among them. -/
inductive Signals (host : Host σ) : σ → List Job.Signal → σ → Prop
  | done (world) : Signals host world [] world
  | served {world between signals last} (serves : host.Serves world between)
      (rest : Signals host between signals last) : Signals host world signals last
  | push {world signals last} (total : Nat)
      (rest : Signals host ((host.job.push total).run world).2 signals last) :
      Signals host world (.push total :: signals) last
  | step {world signals last} (rest : Signals host (host.job.step.run world).2 signals last) :
      Signals host world (.step :: signals) last
  | pop {world signals last} (rest : Signals host (host.job.pop.run world).2 signals last) :
      Signals host world (.pop :: signals) last
  | check {world signals last}
      (rest : Signals host (host.job.isCancelled.run world).2 signals last) :
      Signals host world (.check (host.job.isCancelled.run world).1 :: signals) last

/-- Part of the world that each signal changes in a known way and no other call touches. -/
structure Observes (host : Host σ) (observe : σ → X) (hear : X → Job.Signal → X) : Prop where
  serves : ∀ {world later}, host.Serves world later → observe later = observe world
  push : ∀ total world,
    observe ((host.job.push total).run world).2 = hear (observe world) (.push total)
  step : ∀ world, observe (host.job.step.run world).2 = hear (observe world) .step
  pop : ∀ world, observe (host.job.pop.run world).2 = hear (observe world) .pop
  check : ∀ world, observe (host.job.isCancelled.run world).2 =
    hear (observe world) (.check (host.job.isCancelled.run world).1)

variable {host : Host σ} {world between last : σ} {signals later : List Job.Signal}

theorem Signals.append (first : host.Signals world signals between)
    (second : host.Signals between later last) : host.Signals world (signals ++ later) last := by
  induction first with
  | done _ => exact second
  | served serves _ ih => exact .served serves (ih second)
  | push total _ ih => exact .push total (ih second)
  | step _ ih => exact .step (ih second)
  | pop _ ih => exact .pop (ih second)
  | check _ ih => exact .check (ih second)

/-- What is observed in the end follows from the signals. -/
theorem Observes.eq_foldl {observe : σ → X} {hear : X → Job.Signal → X}
    (observes : host.Observes observe hear) (told : host.Signals world signals last) :
    observe last = signals.foldl hear (observe world) := by
  induction told with
  | done _ => rfl
  | served serves _ ih => rw [ih, observes.serves serves]
  | push total _ ih => rw [ih, observes.push, List.foldl_cons]
  | step _ ih => rw [ih, observes.step, List.foldl_cons]
  | pop _ ih => rw [ih, observes.pop, List.foldl_cons]
  | check _ ih => rw [ih, observes.check, List.foldl_cons]

end Host

/-- The signals get the levels, innermost first, from one state to the other. Where a level is entered
or a step is made there is a step left, and a level that is left has none. -/
inductive WellNested : List Level → List Job.Signal → List Level → Prop
  | done (levels) : WellNested levels [] levels
  | push {level levels total signals last} (room : level.completed < level.total)
      (rest : WellNested (⟨total, 0⟩ :: level :: levels) signals last) :
      WellNested (level :: levels) (.push total :: signals) last
  | step {total completed levels signals last} (room : completed < total)
      (rest : WellNested (⟨total, completed + 1⟩ :: levels) signals last) :
      WellNested (⟨total, completed⟩ :: levels) (.step :: signals) last
  | pop {total levels signals last} (rest : WellNested levels signals last) :
      WellNested (⟨total, total⟩ :: levels) (.pop :: signals) last
  | check {levels cancelled signals last} (rest : WellNested levels signals last) :
      WellNested levels (.check cancelled :: signals) last

namespace WellNested

variable {levels between last : List Level} {signals later : List Job.Signal}

theorem append (first : WellNested levels signals between)
    (second : WellNested between later last) : WellNested levels (signals ++ later) last := by
  induction first with
  | done _ => exact second
  | push room _ ih => exact .push room (ih second)
  | step room _ ih => exact .step room (ih second)
  | pop _ ih => exact .pop (ih second)
  | check _ ih => exact .check (ih second)

/-- Progress that hears the signals goes through these levels, whatever was entered before. -/
theorem foldl_hear (nested : WellNested levels signals last) (outer : List Level) :
    signals.foldl Progress.hear ⟨levels ++ outer⟩ = ⟨last ++ outer⟩ := by
  induction nested with
  | done _ => rfl
  | push _ _ ih => exact ih
  | @step total completed levels _ _ room _ ih =>
    have stepped : Progress.hear ⟨⟨total, completed⟩ :: levels ++ outer⟩ .step =
        ⟨⟨total, completed + 1⟩ :: levels ++ outer⟩ := by
      simp [Progress.hear, Progress.step, Level.step, room]
    rw [List.foldl_cons, stepped, ih]
  | pop _ ih => exact ih
  | check _ ih => exact ih

end WellNested

/-! ## Counting off -/

/-- So many steps in a row. An item's step comes right after the item, which entered no level or one
that is complete again and left. In between, the job may be asked whether it was cancelled. -/
inductive Job.Counted : Nat → List Job.Signal → Prop
  | done : Counted 0 []
  | step {steps later} (rest : Counted steps later) : Counted (steps + 1) (.step :: later)
  | level {total inner steps later} (inside : Counted total inner) (rest : Counted steps later) :
      Counted (steps + 1) (.push total :: (inner ++ .pop :: .step :: later))
  | check {steps later} (cancelled : Bool) (rest : Counted steps later) :
      Counted steps (.check cancelled :: later)

/-- What an item tells its job before its step: nothing, or one level from beginning to end. -/
inductive Job.Single : List Job.Signal → Prop
  | silent : Single []
  | level {total inner} (inside : Counted total inner) : Single (.push total :: (inner ++ [.pop]))

namespace Job.Counted

variable {steps steps' : Nat} {signals later : List Job.Signal}

theorem append (first : Counted steps signals) (second : Counted steps' later) :
    Counted (steps + steps') (signals ++ later) := by
  induction first with
  | done => simpa using second
  | step _ ih =>
    rw [Nat.add_right_comm]
    exact .step ih
  | @level total inner steps rest inside _ _ ih =>
    rw [Nat.add_right_comm]
    have counted : Counted _ (.push total :: (inner ++ .pop :: .step :: (rest ++ later))) :=
      .level inside ih
    simpa using counted
  | check cancelled _ ih => exact .check cancelled ih

theorem item (single : Job.Single signals) : Counted 1 (signals ++ [.step]) := by
  cases single with
  | silent => exact .step .done
  | @level total inner inside =>
    have counted : Counted 1 (.push total :: (inner ++ .pop :: .step :: [])) := .level inside .done
    simpa using counted

/-- A level that has room for the steps takes them. -/
theorem wellNested (counted : Counted steps signals) (total completed : Nat)
    (room : completed + steps ≤ total) (levels : List Level) :
    WellNested (⟨total, completed⟩ :: levels) signals (⟨total, completed + steps⟩ :: levels) := by
  induction counted generalizing total completed levels with
  | done => exact .done _
  | @step steps _ _ ih =>
    have later := ih total (completed + 1) (by omega) levels
    rw [Nat.add_assoc, Nat.add_comm 1 steps] at later
    exact .step (by omega) later
  | @level inside _ steps _ _ _ ihInside ih =>
    -- The level around keeps its step to spare until the one inside is left.
    have complete := ihInside inside 0 (by omega) (⟨total, completed⟩ :: levels)
    have later := ih total (completed + 1) (by omega) levels
    rw [Nat.add_assoc, Nat.add_comm 1 steps] at later
    rw [Nat.zero_add] at complete
    apply WellNested.push (show completed < total by omega)
    exact complete.append (.pop (.step (by omega) later))
  | check _ _ ih => exact .check (ih total completed room levels)

end Job.Counted

namespace Action

variable {host : Host σ} {α β ι : Type}

/-- However the action ends, it tells the job nothing of progress. -/
def Silent (host : Host σ) (action : Action σ α) : Prop :=
  ∀ desk, action.Meets desk fun _ after => host.Signals desk.world [] after.world

/-- However the action ends, it has told the job what an item does. It has not asked whether the job
was cancelled. -/
def Nests (host : Host σ) (action : Action σ α) : Prop :=
  ∀ desk, action.Meets desk fun _ after => ∃ signals, host.Signals desk.world signals after.world ∧
    Job.Single signals ∧ ∀ cancelled, .check cancelled ∉ signals

/-- The action does not fail, and it makes so many steps. It does not ask whether the job was
cancelled. -/
def Counts (host : Host σ) (steps : Nat) (action : Action σ Unit) : Prop :=
  ∀ desk, action.Meets desk fun result after => result = .ok () ∧
    ∃ signals, host.Signals desk.world signals after.world ∧
      Job.Counted steps signals ∧ ∀ cancelled, .check cancelled ∉ signals

namespace Silent

/-- Nothing but the desk is touched. -/
theorem still {action : Action σ α}
    (still : ∀ desk result after, action desk = some (result, after) → after.world = desk.world) :
    Silent host action := by
  intro desk result after ran
  rw [still desk result after ran]
  exact .done desk.world

theorem bind {action : Action σ α} {next : α → Action σ β} (first : Silent host action)
    (rest : ∀ a, Silent host (next a)) : Silent host (action >>= next) := by
  intro desk
  refine (first desk).bind (fun a between before => ?_) fun _ _ before => before
  exact (rest a between).mono fun _ _ after => before.append after

theorem call {c : Call σ α} (serves : ∀ world, host.Serves world (c.run world).2) :
    Silent host (Action.call c) := by
  intro desk
  refine (meets_call c desk).mono ?_
  rintro _ _ rfl
  exact .served (serves desk.world) (.done _)

theorem composes (host : Host σ) : ComposesLooks host (Silent host) where
  pure a := still (by rintro desk _ _ ⟨⟩; rfl)
  throw error := still (by rintro desk _ _ ⟨⟩; rfl)
  tooDeep _ := .tooDeep
  bind := bind
  folder id := call fun _ => .folder id
  file id := call fun _ => .file id
  canEdit id := call fun _ => .canEdit id
  canDelete id := call fun _ => .canDelete id

theorem record (change : Report → Report) : Silent host (Action.record change) :=
  still (by rintro desk _ _ ⟨⟩; rfl)

theorem count (change : Tally → Tally) : Silent host (Action.count change) := record _

theorem composesRenames (host : Host σ) : ComposesRenames host (Silent host) where
  toComposesLooks := composes host
  save _ := call fun _ => .save _
  delete _ := call fun _ => .delete _
  rename _ _ := call fun _ => .rename _ _
  uniquifier _ _ := call fun _ => .uniquifier _ _
  count _ _ := count _

theorem nests {action : Action σ α} (silent : Silent host action) : Nests host action := by
  intro desk
  refine (silent desk).mono fun _ _ told => ?_
  exact ⟨[], told, .silent, by simp⟩

/-- The level that an item may enter is the last thing it does. -/
theorem before {action : Action σ α} {next : α → Action σ β} (first : Silent host action)
    (rest : ∀ a, Nests host (next a)) : Nests host (action >>= next) := by
  intro desk
  refine (first desk).bind (fun a between before => ?_) fun _ _ before => ?_
  · refine (rest a between).mono ?_
    rintro _ _ ⟨signals, told, single, unchecked⟩
    exact ⟨signals, before.append told, single, unchecked⟩
  · exact ⟨[], before, .silent, by simp⟩

end Silent

/-- An item makes its step whether it fails or not. -/
theorem Nests.item {work : Action σ Unit} (nests : Nests host work) (desk : Desk σ) :
    (Action.item host.job work).Meets desk fun result after => result = .ok () ∧
      ∃ signals, host.Signals desk.world (signals ++ [.step]) after.world ∧
        Job.Single signals ∧ ∀ cancelled, .check cancelled ∉ signals := by
  have settled : (settle work).Meets desk fun result after => result = .ok () ∧
      ∃ signals, host.Signals desk.world signals after.world ∧
        Job.Single signals ∧ ∀ cancelled, .check cancelled ∉ signals :=
    (nests desk).settle (fun _ told => ⟨rfl, told⟩) fun _ _ told => ⟨rfl, told⟩
  refine settled.bind ?_ (by rintro _ _ ⟨⟨⟩, _⟩)
  rintro _ between ⟨_, signals, told, single⟩ _ _ ⟨⟩
  exact ⟨rfl, signals, told.append (.step (.done _)), single⟩

namespace Counts

variable {steps steps' : Nat} {work : Action σ Unit}

theorem bind {next : Action σ Unit} (first : Counts host steps work)
    (rest : Counts host steps' next) : Counts host (steps + steps') (work >>= fun _ => next) := by
  intro desk
  refine (first desk).bind ?_ (by rintro _ _ ⟨⟨⟩, _⟩)
  rintro _ between ⟨_, signals, told, counted, unchecked⟩
  refine (rest between).mono ?_
  rintro _ after ⟨rfl, later, told', counted', unchecked'⟩
  refine ⟨rfl, signals ++ later, told.append told', counted.append counted', ?_⟩
  intro cancelled member
  rcases List.mem_append.mp member with early | late
  · exact unchecked cancelled early
  · exact unchecked' cancelled late

theorem item (nests : Nests host work) : Counts host 1 (Action.item host.job work) := by
  intro desk
  refine (nests.item desk).mono ?_
  rintro _ after ⟨rfl, signals, told, single, unchecked⟩
  exact ⟨rfl, signals ++ [.step], told, .item single, by simpa using unchecked⟩

theorem forM {items : List ι} {work : ι → Action σ Unit} (each : ∀ item, Counts host 1 (work item)) :
    Counts host items.length (items.forM work) := by
  induction items with
  | nil =>
    rintro desk _ _ ⟨⟩
    exact ⟨rfl, [], .done desk.world, .done, by simp⟩
  | cons item later ih =>
    rw [List.length_cons, Nat.add_comm]
    exact bind (each item) ih

end Counts

/-- A level is as long as the work in it. -/
theorem Nests.inLevel {steps : Nat} {work : Action σ Unit} (counts : Counts host steps work) :
    Nests host (Action.inLevel host.job steps work) := by
  intro desk
  refine (meets_told (host.job.push steps) desk).bind ?_ (by rintro _ _ ⟨⟨⟩, _⟩)
  rintro _ pushed ⟨_, rfl⟩
  refine (counts _).bind ?_ (by rintro _ _ ⟨⟨⟩, _⟩)
  rintro _ worked ⟨_, signals, told, counted, unchecked⟩ _ _ ⟨⟩
  refine ⟨.push steps :: (signals ++ [.pop]), .push steps (told.append (.pop (.done _))),
    .level counted, ?_⟩
  simpa using unchecked

/-! ## Collisions and moves -/

theorem silent_decideCollision (source destination : EntityId) :
    Silent host (decideCollision host source destination) := by
  have composes := Silent.composes host
  have asks (question : Question) : Silent host (turn (host.job.ask question)) := by
    rintro desk _ _ ⟨⟩
    exact .served (.ask question) (.done _)
  refine .bind (.still (by rintro desk _ _ ⟨⟩; rfl)) fun desk => ?_
  split
  · split
    · exact composes.pure _
    refine .bind (asks _) fun answer => ?_
    split
    · exact composes.pure _
    next decision =>
      dsimp only
      split
      · exact .bind (.still (by rintro desk _ _ ⟨⟩; rfl)) fun _ => composes.pure _
      · exact composes.pure _
  · exact composes.pure _

theorem Silent.composesCollisions (host : Host σ) : ComposesCollisions host (Silent host) where
  toComposesRenames := composesRenames host
  decideCollision := silent_decideCollision
  warn _ := record _
  overwritten := count _

theorem Nests.composesMoves (host : Host σ) : ComposesMoves host (Silent host) (Nests host) where
  toComposes := (Silent.composes host).toComposes
  lift := Silent.nests
  before := Silent.before
  putFolder _ := Silent.nests (.bind (.call fun _ => .save _) fun _ => .count _)
  moveFile id source target := ((Silent.composesCollisions host).moveFile id source target).nests
  mergeFolder {work source target} folders := by
    -- One step for each child and one for the folder itself.
    refine Silent.before (.count _) fun _ => .inLevel ?_
    unfold Listing.childCount
    rw [Nat.add_assoc]
    refine .bind (.forM fun child => .item (folders child)) (.bind (.forM fun child => ?_) ?_)
    · exact .item ((Silent.composesCollisions host).moveFile child (some source.id) target).nests
    · have composes := Silent.composesRenames host
      have removes := composes.bind (composes.removeIfEmpty source.id) fun _ => composes.pure ()
      exact .item removes.nests

/-! ## Deletions -/

theorem nests_deleteFolder (depth : Nat) (id : EntityId) :
    Nests host (deleteFolder host depth id) := by
  have composes := Silent.composes host
  induction depth generalizing id with
  | zero => exact composes.tooDeep.nests
  | succ depth ih =>
    refine Silent.before (composes.folder id) fun found => ?_
    split
    · exact (composes.pure ()).nests
    next folder =>
      refine Silent.before (composes.require .delete id) fun _ => .inLevel ?_
      unfold Listing.childCount
      rw [Nat.add_assoc]
      refine .bind (.forM fun child => .item (ih child)) (.bind (.forM fun child => ?_) ?_)
      · exact .item ((Silent.composesRenames host).deleteFile child (some id)).nests
      · exact .item ((Silent.composesRenames host).deleteEmptied id).nests

/-! ## Copies -/

theorem Nests.composesCopies (host : Host σ) : ComposesCopies host (Silent host) (Nests host) where
  toComposes := (Silent.composes host).toComposes
  lift := Silent.nests
  before := Silent.before
  merged := .count _
  createFolder := (Silent.composesRenames host).puts.createFolder
  copyFile id target := ((Silent.composesCollisions host).copyFile id target).nests
  copyFileAs id source target desired :=
    Silent.nests ((Silent.composes host).copyFileAs (Silent.composesRenames host).puts.createFile id
      source target desired)
  copyChildren folders := .inLevel (.bind (.forM fun child => .item (folders child))
    (.forM fun child => .item ((Silent.composesCollisions host).copyFile child _).nests))

end Action

/-! ## Requests -/

namespace Request

open Filing.Action

variable {host : Host σ}

theorem nests_workOn (depth : Nat) (operation : Operation) (mode : Mode) (destination path : Path) :
    Nests host (workOn host depth operation mode destination path) := by
  have composes := Silent.composesRenames host
  cases operation with
  | copy => exact (Nests.composesCopies host).workOn depth mode destination path
  | delete =>
    obtain ⟨source, file⟩ := path
    cases file with
    | some file => exact (composes.deleteFile file source).nests
    | none => cases source with
      | some source => exact nests_deleteFolder depth source
      | none => exact (composes.pure ()).nests
  | move =>
    have renames (target desired path) :=
      (composes.finishes.renamePath depth target desired path).nests
    exact (Nests.composesMoves host).workOn depth renames mode destination path

/-- A step is made for each path that was begun, and a path is begun whenever the job says that it was
not cancelled. -/
theorem meets_workOff_counted {work : Path → Action σ Unit} (each : ∀ path, Nests host (work path))
    (paths : List Path) (desk : Desk σ) :
    (workOff host work paths).Meets desk fun result after =>
      result = .ok () ∧ ∃ signals, host.Signals desk.world signals after.world ∧
        Job.Counted (signals.count (.check false)) signals ∧
        signals.count (.check false) ≤ paths.length ∧
        (after.report.cancelled = false → signals.count (.check false) = paths.length ∧
          (signals = [] ∨ ∃ earlier, signals = earlier ++ [.step])) := by
  induction paths generalizing desk with
  | nil =>
    rintro _ _ ⟨⟩
    exact ⟨rfl, [], .done _, .done, by simp, by simp⟩
  | cons path later ih =>
    unfold workOff
    refine (meets_told host.job.isCancelled desk).bind ?_ (by rintro _ _ ⟨⟨⟩, _⟩)
    rintro cancelled asked ⟨told, rfl⟩
    cases told
    cases stop : (host.job.isCancelled.run desk.world).1 with
    | true =>
      -- Nothing is begun any more, and so no step is due.
      rw [if_pos rfl]
      refine .modify ⟨rfl, [.check true], ?_, .check true .done, by simp, by simp⟩
      have checked : host.Signals desk.world _ _ := .check (.done _)
      rw [stop] at checked
      exact checked
    | false =>
      rw [if_neg (by simp)]
      refine ((each path).item _).bind ?_ (by rintro _ _ ⟨⟨⟩, _⟩)
      rintro _ worked ⟨_, signals, first, single, unchecked⟩
      refine (ih worked).mono ?_
      rintro _ after ⟨rfl, rest, second, counted, most, finished⟩
      have begun : (.check false :: (signals ++ [.step] ++ rest)).count (.check false) =
          1 + rest.count (.check false) := by
        simp [List.count_eq_zero_of_not_mem (unchecked false), Nat.add_comm]
      refine ⟨rfl, .check false :: (signals ++ [.step] ++ rest), ?_, ?_, ?_, fun uncancelled => ?_⟩
      · exact stop ▸ .check (first.append second)
      · -- The path's own step comes first, and those of the later paths after it.
        rw [begun]
        exact .check false ((Job.Counted.item single).append counted)
      · rw [begun, List.length_cons]
        omega
      · obtain ⟨all, ends⟩ := finished uncancelled
        refine ⟨by rw [begun, all, List.length_cons, Nat.add_comm], .inr ?_⟩
        rcases ends with rfl | ⟨earlier, rfl⟩
        · exact ⟨.check false :: signals, by simp⟩
        · exact ⟨.check false :: (signals ++ [.step] ++ earlier), by simp⟩

theorem meets_workAll_counted {depth : Nat} {operation : Operation} {mode : Mode} {request : Request}
    (desk : Desk σ) :
    (workAll host depth operation mode request).Meets desk fun _ after => ∃ signals,
      host.Signals desk.world (.push request.paths.length :: (signals ++ [.pop])) after.world ∧
        Job.Counted (signals.count (.check false)) signals ∧
        signals.count (.check false) ≤ request.paths.length ∧
        (after.report.cancelled = false →
          signals.count (.check false) = request.paths.length ∧
          (signals = [] ∨ ∃ earlier, signals = earlier ++ [.step])) := by
  refine (meets_told (host.job.push request.paths.length) desk).bind ?_ (by rintro _ _ ⟨⟨⟩, _⟩)
  rintro _ pushed ⟨_, rfl⟩
  have each (path : Path) : Nests host (workOn host depth operation mode request.destination path) :=
    nests_workOn depth operation mode request.destination path
  refine (meets_workOff_counted each request.paths _).bind ?_ (by rintro _ _ ⟨⟨⟩, _⟩)
  rintro _ worked ⟨_, signals, told, counted⟩ _ _ ⟨⟩
  exact ⟨signals, .push _ (told.append (.pop (.done _))), counted⟩

theorem meets_workAll_nested {depth : Nat} {operation : Operation} {mode : Mode} {request : Request}
    (desk : Desk σ) :
    (workAll host depth operation mode request).Meets desk fun _ after => ∃ signals,
      host.Signals desk.world (.push request.paths.length :: (signals ++ [.pop])) after.world ∧
        signals.count (.check false) ≤ request.paths.length ∧
        (after.report.cancelled = false →
          signals.count (.check false) = request.paths.length) ∧
        WellNested [⟨request.paths.length, 0⟩] signals
          [⟨request.paths.length, signals.count (.check false)⟩] := by
  refine (meets_workAll_counted desk).mono ?_
  rintro _ after ⟨signals, told, counted, most, finished⟩
  refine ⟨signals, told, most, fun uncancelled => (finished uncancelled).1, ?_⟩
  simpa using counted.wellNested request.paths.length 0 (by omega) []

/-- Sorting a request takes at most one look. -/
theorem serves_classify (request : Request) (world : σ) :
    ((request.classify host).run world).2 = world ∨
      host.Serves world ((request.classify host).run world).2 := by
  unfold classify
  split
  next folder _ =>
    refine .inr ?_
    rw [Call.run_bind]
    have looked : host.Serves world ((host.store.folder folder).run world).2 := .folder folder
    split
    next found later went =>
      rw [went] at looked
      exact looked
    next error later went =>
      rw [went] at looked
      exact looked
  · exact .inl rfl
  · exact .inl rfl

end Request

namespace Order

/-- What the request is about. -/
def paths : Order → List Path
  | plan request => request.paths
  | copy request => request.paths
  | delete paths => paths

variable {host : Host σ} {depth : Nat} {order : Order} {world after : σ} {report : Report}

/-- Before its work, a request has at most looked at its destination. -/
theorem work_of_ran (ran : order.run host depth world = some (.ok report, after)) :
    ∃ begun operation mode request result desk, (begun = world ∨ host.Serves world begun) ∧
      request.paths = order.paths ∧
      Request.workAll host depth operation mode request (request.desk operation mode begun) =
        some (result, desk) ∧ desk.report = report ∧ desk.world = after := by
  -- A move and a copy begin in the same way, and a deletion has nothing to look at.
  have sorted {operation : Operation} {request : Request}
      (ran : request.classifyAndRun host depth operation world = some (.ok report, after)) :
      ∃ begun mode result desk, (begun = world ∨ host.Serves world begun) ∧
        Request.workAll host depth operation mode request (request.desk operation mode begun) =
          some (result, desk) ∧ desk.report = report ∧ desk.world = after := by
    have looked : ((request.classify host).run world).2 = world ∨
        host.Serves world ((request.classify host).run world).2 := request.serves_classify world
    rcases Request.work_of_classified ran with ⟨_, _, ⟨⟩⟩ |
      ⟨mode, begun, result, desk, told, worked, reported, rfl⟩
    rw [told] at looked
    exact ⟨begun, mode, result, desk, looked, worked, (Except.ok.inj reported).symm, rfl⟩
  cases order with
  | plan request =>
    obtain ⟨begun, mode, result, desk, first, worked⟩ := sorted ran
    exact ⟨begun, _, mode, request, result, desk, first, rfl, worked⟩
  | copy request =>
    obtain ⟨begun, mode, result, desk, first, worked⟩ := sorted ran
    exact ⟨begun, _, mode, request, result, desk, first, rfl, worked⟩
  | delete paths =>
    obtain ⟨⟨report, _⟩, ran, same⟩ := Option.bind_eq_some_iff.mp ran
    cases same
    obtain ⟨result, desk, worked⟩ := Request.work_of_run ran
    exact ⟨world, _, _, _, result, desk, .inl rfl, rfl, worked⟩

/-- Whatever the store, the uniquifier and the job do, and whichever calls fail: a request that comes
to a report enters one level with a step for each of its paths, makes a step for each path it begins,
which are all of them unless the report says that it was cancelled, and has left every level that it
entered inside, complete. A job that keeps progress has the levels in the end that it had before. -/
theorem levels_nested (ran : order.run host depth world = some (.ok report, after)) :
    ∃ signals, host.Signals world (.push order.paths.length :: (signals ++ [.pop])) after ∧
      WellNested [⟨order.paths.length, 0⟩] signals
        [⟨order.paths.length, signals.count (.check false)⟩] ∧
      signals.count (.check false) ≤ order.paths.length ∧
      (report.cancelled = false → signals.count (.check false) = order.paths.length) ∧
      (∀ {X : Type} (observe : σ → X) hear, host.Observes observe hear →
        observe after =
          (.push order.paths.length :: (signals ++ [.pop])).foldl hear (observe world)) ∧
      ∀ observe : σ → Progress, host.Observes observe Progress.hear →
        observe after = observe world := by
  obtain ⟨begun, operation, mode, request, result, desk, looked, paths, worked, rfl, rfl⟩ :=
    work_of_ran ran
  rw [← paths]
  obtain ⟨signals, told, most, all, nested⟩ := Request.meets_workAll_nested _ _ _ worked
  have told : host.Signals world (.push request.paths.length :: (signals ++ [.pop])) desk.world := by
    rcases looked with rfl | serves
    · exact told
    · exact .served serves told
  refine ⟨signals, told, nested, most, all, fun _ _ observes => observes.eq_foldl told, ?_⟩
  intro observe observes
  rw [observes.eq_foldl told, List.foldl_cons, List.foldl_append]
  -- The levels from before lie around the request's own all the way.
  have around := nested.foldl_hear (observe world).levels
  have entered : (observe world).hear (.push request.paths.length) =
      ⟨[⟨request.paths.length, 0⟩] ++ (observe world).levels⟩ := rfl
  rw [entered, around]
  rfl

end Order

/-! ## Observing a cabinet -/

/-- A job that keeps a record of what it is told can be observed, if nothing else touches it. -/
theorem Host.Observes.of_around {τ : Type} {setup : Setup τ} (observe : τ → X)
    {hear : X → Job.Signal → X}
    (call : ∀ method id around, observe (setup.faults method id around).2 = observe around)
    (ask : ∀ question around, observe ((setup.job.ask question).run around).2 = observe around)
    (push : ∀ total around,
      observe ((setup.job.push total).run around).2 = hear (observe around) (.push total))
    (step : ∀ around, observe (setup.job.step.run around).2 = hear (observe around) .step)
    (pop : ∀ around, observe (setup.job.pop.run around).2 = hear (observe around) .pop)
    (check : ∀ around, observe (setup.job.isCancelled.run around).2 =
      hear (observe around) (.check (setup.job.isCancelled.run around).1)) :
    setup.host.Observes (fun cabinet => observe cabinet.around) hear where
  push total world := push total world.around
  step world := step world.around
  pop world := pop world.around
  check world := check world.around
  serves {world later} serves := by
    -- Each call goes through the faults, and they are all that it does to the surroundings.
    have attempt {α : Type} (method : Scenario.Method) (id : EntityId) (c : Call MemoryStore α) :
        observe ((Cabinet.attempt setup.faults method id c).run world).2.around =
          observe world.around := by
      change observe (Cabinet.attempt setup.faults method id c world).2.around = _
      rw [← call method id world.around]
      unfold Cabinet.attempt
      split
      next told => rw [told]
      next told =>
        rw [told]
        rfl
    cases serves with
    | folder id => exact attempt _ _ _
    | file id => exact attempt _ _ _
    | save entity => exact attempt _ _ _
    | delete id => exact attempt _ _ _
    | rename source target => exact attempt _ _ _
    | canEdit id => exact attempt _ _ _
    | canDelete id => exact attempt _ _ _
    | ask question => exact ask question world.around
    | uniquifier drive desired =>
      obtain ⟨_, around, _, went, drift, _⟩ :=
        Action.peeks_uniquifier setup world.store drive desired world rfl
      rw [went]
      exact drift.eq_of_kept call

namespace Sample

/-- A job that keeps a record of what it is told. -/
def recording : Setup (List Job.Signal) where
  faults := .never
  suffixing := .standard
  job :=
    { push := fun total told => ((), told ++ [.push total])
      step := fun told => ((), told ++ [.step])
      pop := fun told => ((), told ++ [.pop])
      ask := fun _ => pure none
      isCancelled := fun told => (false, told ++ [.check false]) }

theorem recording_observes :
    recording.host.Observes (fun cabinet => cabinet.around) fun told signal => told ++ [signal] :=
  .of_around id (fun _ _ _ => rfl) (fun _ _ => rfl) (fun _ _ => rfl) (fun _ => rfl) (fun _ => rfl)
    fun _ => rfl

/-- Copies the folder with the file in it. -/
def copyOver : Order := .copy (.taking note (.ofFolder docs))

end Sample

open Sample in
theorem Order.levels_nested_inbox : ∃ report after,
    copyOver.run recording.host 3 ⟨inbox, [], []⟩ = some (.ok report, after) ∧
    after.around =
      [.push 1, .check false, .push 1, .step, .pop, .step, .pop] ∧
    WellNested [⟨1, 0⟩] [.check false, .push 1, .step, .pop, .step] [⟨1, 1⟩] := by
  have went : ((copyOver.run recording.host 3 ⟨inbox, [], []⟩).map fun outcome =>
      (outcome.1.isOk, outcome.2.around)) =
      some (true, [.push 1, .check false, .push 1, .step, .pop, .step, .pop]) := by
    decide +kernel
  obtain ⟨⟨result, after⟩, ran, found⟩ := Option.map_eq_some_iff.mp went
  obtain ⟨ok, told⟩ := Prod.mk.inj found
  cases result with
  | error error => cases ok
  | ok report =>
    obtain ⟨signals, _, nested, _, _, observed, _⟩ := levels_nested ran
    -- What went on record is what the request's signals are.
    have heard := observed _ _ recording_observes
    rw [told, List.foldl_append_eq_append, ← List.flatMap_def, List.flatMap_singleton'] at heard
    have split : [.push 1, .check false, .push 1, .step, .pop, .step] ++ [Job.Signal.pop] =
        (.push 1 :: signals) ++ [.pop] := heard
    have same := (List.cons.inj (List.append_cancel_right split)).2
    rw [← same] at nested
    exact ⟨report, after, ran, told, nested⟩

end Filing
