import Filing.Proofs.Ruling
import Filing.Proofs.Sparing

/-!
# What a request asks about

A move or a copy, whatever it is made of, unfolds into scenes (`Desk.Unfolds`): the errands of single
files, one after another. Between them no file is looked up, so that nothing could meet a collision,
or else something is put under a name of its own, which never does. Each scene leaves behind what its
ruling says and nothing else, and so the report and what was asked are told by the rulings alone.
-/
namespace Filing

open Scenario (Method)

variable {τ α : Type}

/-- What an errand is part of. -/
def Errand.operation : Errand → Operation
  | move _ _ _ => .move
  | copy _ _ => .copy

/-- An errand, the desk it begins on and the desk it ends on. -/
structure Scene (τ : Type) where
  errand : Errand
  before : Desk (Cabinet τ)
  after : Desk (Cabinet τ)
  ruling : Option Ruling

/-- The errand was run, and the collision it met was ruled on. -/
structure Scene.Plays (setup : Setup τ) (scene : Scene τ) : Prop where
  ran : ∃ result, scene.errand.run setup.host scene.before = some (result, scene.after)
  rules : scene.before.RulesOn setup (scene.errand.collision? scene.before.world.store) scene.ruling
    scene.after

/-- Nobody is asked, and no file is looked up. -/
def Cabinet.Still (setup : Setup τ) (before after : Cabinet τ) : Prop :=
  setup.Hears before.around [] after.around ∧
    ∃ extra, after.log = before.log ++ extra ∧ ∀ entry ∈ extra, entry.method ≠ .file

/-- No collision is ruled on, and none could be met. -/
structure Desk.Still (setup : Setup τ) (before after : Desk (Cabinet τ)) : Prop where
  calm : before.Calm setup after
  log : ∃ extra, after.world.log = before.world.log ++ extra ∧ ∀ entry ∈ extra, entry.method ≠ .file

/-- Moves and copies under a name of their own. -/
inductive Action.Naming {σ : Type} (host : Host σ) : Action σ Unit → Prop
  | rename (depth : Nat) (target : Option EntityId) (desired : EntityId) (path : Path) :
      Naming host (renamePath host depth target desired path)
  | copy (id : EntityId) (source target : Option EntityId) (desired : EntityId) :
      Naming host (copyFileAs host id source target desired)

/-- What happens from one desk to the other are these scenes, and nothing in between that has to do
with collisions. -/
inductive Desk.Unfolds (setup : Setup τ) : Desk (Cabinet τ) → List (Scene τ) → Desk (Cabinet τ) → Prop
  | done (desk) : Unfolds setup desk [] desk
  | still {first second scenes last} (still : first.Still setup second)
      (rest : Unfolds setup second scenes last) : Unfolds setup first scenes last
  | named {action result first second scenes last} (naming : Action.Naming setup.host action)
      (ran : action first = some (result, second)) (calm : first.Calm setup second)
      (rest : Unfolds setup second scenes last) : Unfolds setup first scenes last
  | scene {scene scenes last} (plays : Scene.Plays setup scene)
      (rest : Unfolds setup scene.after scenes last) :
      Unfolds setup scene.before (scene :: scenes) last

/-- What happens from one desk to the other are scenes of the operation. -/
def Desk.Unfolding (setup : Setup τ) (operation : Operation) (before after : Desk (Cabinet τ)) : Prop :=
  ∃ scenes, before.Unfolds setup scenes after ∧
    ∀ scene ∈ scenes, scene.errand.operation = operation

/-! ## Cabinets -/

namespace Cabinet

variable {setup : Setup τ}

theorem link_still (setup : Setup τ) : Link (Still setup) where
  refl cabinet := ⟨.done _, [], by simp⟩
  trans := by
    rintro first second third ⟨hears, extra, log, unseen⟩ ⟨hears', later, log', unseen'⟩
    refine ⟨hears.append hears', extra ++ later, by rw [log', log, List.append_assoc], ?_⟩
    exact fun entry member => (List.mem_append.mp member).elim (unseen entry) (unseen' entry)

theorem still_attempt {method : Method} (unseen : method ≠ .file) (id : EntityId)
    (c : Call MemoryStore α) (cabinet : Cabinet τ) :
    cabinet.Still setup ((attempt setup.faults method id c).run cabinet).2 := by
  refine ⟨hears_attempt setup method id c cabinet, ?_⟩
  change ∃ extra, (attempt setup.faults method id c cabinet).2.log = _ ∧ _
  unfold attempt
  split
  next => exact ⟨_, rfl, by simpa using unseen⟩
  next => exact ⟨_, rfl, by simpa using unseen⟩

theorem Still.desk {desk : Desk (Cabinet τ)} {world : Cabinet τ}
    (still : desk.world.Still setup world) : desk.Still setup { desk with world } :=
  ⟨.of_around still.1 rfl rfl rfl rfl, still.2⟩

end Cabinet

/-! ## Desks -/

namespace Desk

variable {setup : Setup τ} {first second third last : Desk (Cabinet τ)} {scenes later : List (Scene τ)}

/-- Nothing that is logged is nothing that is looked up. -/
theorem Calm.still (calm : first.Calm setup second) (log : second.world.log = first.world.log) :
    first.Still setup second := ⟨calm, [], by simp [log]⟩

namespace Unfolds

theorem append (unfolds : first.Unfolds setup scenes second)
    (unfolds' : second.Unfolds setup later third) : first.Unfolds setup (scenes ++ later) third := by
  induction unfolds with
  | done _ => exact unfolds'
  | still still _ ih => exact .still still (ih unfolds')
  | named naming ran calm _ ih => exact .named naming ran calm (ih unfolds')
  | scene plays _ ih => exact .scene plays (ih unfolds')

/-- What there is of rulings in the end comes from those of the scenes. -/
theorem ruled (unfolds : first.Unfolds setup scenes last) :
    first.Ruled setup (scenes.filterMap Scene.ruling) last := by
  induction unfolds with
  | done desk => exact (link_calm setup).refl desk
  | still still _ ih => exact still.calm.trans ih
  | named _ _ calm _ ih => exact calm.trans ih
  | @scene scene scenes last plays _ ih =>
    have here := plays.rules.ruled.trans ih
    cases same : scene.ruling with
    | none => simpa [same] using here
    | some ruling => simpa [same] using here

theorem plays (unfolds : first.Unfolds setup scenes last) : ∀ scene ∈ scenes, scene.Plays setup := by
  induction unfolds with
  | done _ => simp
  | still _ _ ih => exact ih
  | named _ _ _ _ ih => exact ih
  | scene plays _ ih => exact List.forall_mem_cons.mpr ⟨plays, ih⟩

end Unfolds

theorem Still.unfolding {operation : Operation} (still : first.Still setup second) :
    first.Unfolding setup operation second :=
  ⟨[], .still still (.done _), by simp⟩

theorem link_unfolding (setup : Setup τ) (operation : Operation) :
    JobLink setup (Unfolding setup operation) where
  refl desk := ⟨[], .done desk, by simp⟩
  trans := fun ⟨scenes, unfolds, same⟩ ⟨later, unfolds', same'⟩ =>
    ⟨scenes ++ later, unfolds.append unfolds', List.forall_mem_append.mpr ⟨same, same'⟩⟩
  failing desk error := (((link_calm setup).failing desk error).still rfl).unfolding
  leftOff desk := (((link_calm setup).leftOff desk).still rfl).unfolding
  turned {desk around} turns := by
    have calm : desk.Calm setup (desk.turned around) :=
      .of_around (.turn turns (.done _)) rfl rfl rfl rfl
    exact (calm.still rfl).unfolding

end Desk

/-! ## Actions -/

namespace Action

variable {setup : Setup τ} {operation : Operation}

open Desk (Unfolding link_unfolding)

theorem unfolds_call {c : Call (Cabinet τ) α}
    (still : ∀ cabinet : Cabinet τ, cabinet.Still setup (c.run cabinet).2) :
    Links (Unfolding setup operation) (call c) := by
  intro desk
  refine (meets_call c desk).mono ?_
  rintro _ _ rfl
  exact (still desk.world).desk.unfolding

theorem composes_unfolding (setup : Setup τ) (operation : Operation) :
    ComposesChanges setup.host (Links (Unfolding setup operation)) where
  pure := .pure (link_unfolding setup operation).toLink
  throw _ desk := .throw ((link_unfolding setup operation).refl desk)
  tooDeep _ := .tooDeep
  bind := .bind (link_unfolding setup operation).toLink
  folder _ := unfolds_call (Cabinet.still_attempt (by decide) _ _)
  canEdit _ := unfolds_call (Cabinet.still_attempt (by decide) _ _)
  canDelete _ := unfolds_call (Cabinet.still_attempt (by decide) _ _)
  save _ := unfolds_call (Cabinet.still_attempt (by decide) _ _)
  delete _ := unfolds_call (Cabinet.still_attempt (by decide) _ _)
  rename _ _ := unfolds_call (Cabinet.still_attempt (by decide) _ _)
  uniquifier drive desired := by
    refine unfolds_call (Call.Leads.uniquifier (Cabinet.link_still setup) ?_ drive desired)
    exact fun id => Cabinet.still_attempt (by decide) id _
  count added none desk := by
    have calm : Desk.Calm setup desk (desk.tallied (· + added)) :=
      .of_around (.done _) rfl rfl rfl (by simp [Desk.tallied, none])
    exact .modify (calm.still rfl).unfolding

theorem unfolds_errand (reliable : setup.Reliable) (errand : Errand) :
    Links (Unfolding setup errand.operation) (errand.run setup.host) := by
  intro desk result after ran
  obtain ⟨ruling, rules⟩ := errand.meets_run reliable result after ran
  have plays : Scene.Plays setup ⟨errand, desk, after, ruling⟩ := ⟨⟨result, ran⟩, rules⟩
  exact ⟨_, .scene plays (.done after), by simp⟩

theorem unfolds_naming {action : Action (Cabinet τ) Unit} (naming : Naming setup.host action) :
    Links (Unfolding setup operation) action := by
  have composes := composes_calm setup
  have calm : Links (Desk.Calm setup) action := by
    cases naming with
    | rename depth target desired path => exact composes.finishes.renamePath depth target desired path
    | copy id source target desired =>
      exact composes.copyFileAs composes.puts.createFile id source target desired
  exact fun desk result after ran =>
    ⟨[], .named naming ran (calm desk result after ran) (.done _), by simp⟩

/-- Of everything that a folder is moved or copied by, only the errands of the files in it could meet a
collision. -/
theorem composesMoves_unfolding (reliable : setup.Reliable) :
    ComposesMoves setup.host (Links (Unfolding setup .move)) (Links (Unfolding setup .move)) where
  toComposes := (composes_unfolding setup .move).toComposes
  lift unfolds := unfolds
  before := (composes_unfolding setup .move).bind
  putFolder _ := (composes_unfolding setup .move).puts.put _ { foldersMoved := 1 } rfl (by decide)
  moveFile id source target := unfolds_errand reliable (.move id source target)
  mergeFolder {work source target} folders := by
    have composes := composes_unfolding setup .move
    have job := link_unfolding setup .move
    refine composes.bind (composes.count { foldersMerged := 1 } rfl) fun _ => .inLevel job ?_
    refine composes.bind (composes.forM fun child => .item job (folders child)) fun _ => ?_
    refine composes.bind (composes.forM fun child => .item job ?_) fun _ => .item job ?_
    · exact unfolds_errand reliable (.move child (some source.id) target)
    -- The emptied folder is looked at as a folder, and removing it gets no file into the way.
    · exact composes.bind (composes.removeIfEmpty source.id) fun _ => composes.pure ()

theorem composesCopies_unfolding (reliable : setup.Reliable) :
    ComposesCopies setup.host (Links (Unfolding setup .copy)) (Links (Unfolding setup .copy)) where
  toComposes := (composes_unfolding setup .copy).toComposes
  lift unfolds := unfolds
  before := (composes_unfolding setup .copy).bind
  merged := (composes_unfolding setup .copy).count _ rfl
  createFolder := (composes_unfolding setup .copy).puts.createFolder
  copyFile id target := unfolds_errand reliable (.copy id target)
  copyFileAs id source target desired := unfolds_naming (.copy id source target desired)
  copyChildren {work source target} folders := by
    have composes := composes_unfolding setup .copy
    have job := link_unfolding setup .copy
    refine .inLevel job (composes.bind (composes.forM fun child => ?_) fun _ => ?_)
    · exact .item job (folders child)
    exact composes.forM fun child => .item job (unfolds_errand reliable (.copy child target))

end Action

namespace Request

open Filing.Action
open Desk (Unfolding link_unfolding)

variable {setup : Setup τ}

theorem unfolds_workOn (reliable : setup.Reliable) (depth : Nat) {operation : Operation}
    (notDelete : operation ≠ .delete) (mode : Mode) (destination path : Path) :
    Links (Unfolding setup operation)
      (workOn setup.host depth operation mode destination path) := by
  cases operation with
  | delete => exact absurd rfl notDelete
  | copy => exact (composesCopies_unfolding reliable).workOn depth mode destination path
  | move =>
    refine (composesMoves_unfolding reliable).workOn depth (fun target desired path => ?_) mode
      destination path
    exact unfolds_naming (.rename depth target desired path)

/-- A move or a copy unfolds into scenes from the beginning to the report. -/
theorem unfolds_classified (reliable : setup.Reliable) {operation : Operation}
    (notDelete : operation ≠ .delete) {request : Request} {depth : Nat} {cabinet after : Cabinet τ}
    {result : Except RequestError Report}
    (ran : request.classifyAndRun setup.host depth operation cabinet = some (result, after)) :
    ∃ mode scenes ended, result = .ok ended.report ∧
      (request.desk operation mode cabinet).Unfolds setup scenes ended ∧ ended.world = after ∧
      ∀ scene ∈ scenes, scene.errand.operation = operation := by
  -- Sorting the request takes no look at a file, and with this store it does not fail.
  have looked : cabinet.Still setup ((request.classify setup.host).run cabinet).2 :=
    Call.Leads.classify (Cabinet.link_still setup)
      (fun _ => Cabinet.still_attempt (by decide) _ _) request cabinet
  obtain ⟨_, _, _, _, _, rfl, _⟩ := work_of_reliable reliable ran
  rcases work_of_classified ran with ⟨_, _, ⟨⟩⟩ | ⟨mode, begun, _, ended, told, worked, reported, rfl⟩
  rw [told] at looked
  have job := link_unfolding setup operation
  have links : Links (Unfolding setup operation) (workAll setup.host depth operation mode request) :=
    .inLevel job (.workOff job fun path _ =>
      unfolds_workOn reliable depth notDelete mode request.destination path)
  obtain ⟨scenes, unfolds, same⟩ := links _ _ _ worked
  have opening : (request.desk operation mode cabinet).Still setup
      (request.desk operation mode begun) := looked.desk
  exact ⟨mode, scenes, ended, reported, .still opening unfolds, rfl, same⟩

/-- Whatever is answered, permitted or cancelled, a move or a copy meets its collisions one after
another, and each is ruled on by what stands then. What is asked, what the report warns of and how many
files it counts as overwritten is told by these rulings. -/
theorem collisions_ruled (reliable : setup.Reliable) {operation : Operation}
    (notDelete : operation ≠ .delete) {request : Request} {depth : Nat} {cabinet after : Cabinet τ}
    {result : Except RequestError Report}
    (ran : request.classifyAndRun setup.host depth operation cabinet = some (result, after)) :
    ∃ mode report scenes ended rulings, result = .ok report ∧
      (request.desk operation mode cabinet).Unfolds setup scenes ended ∧
      ended.report = report ∧ ended.world = after ∧ scenes.filterMap Scene.ruling = rulings ∧
      Ruling.Protocol request.interactive rulings ∧
      setup.Hears cabinet.around (rulings.filterMap Ruling.answered?) after.around ∧
      (∀ record, setup.Records record →
        record after.around = record cabinet.around ++ rulings.filterMap Ruling.answered?) ∧
      report.warnings = rulings.filterMap Ruling.warning? ∧
      report.tally.filesOverwritten = rulings.countP (·.verdict = .overwrite) ∧
      ∀ scene ∈ scenes, ∀ ruling, scene.ruling = some ruling →
        ruling.collision.In scene.before.world.store ∧
        ruling.collision.file.id = scene.errand.file ∧
        ruling.collision.target = scene.errand.target ∧
        (ruling.verdict ≠ .overwrite → scene.after.world.store = scene.before.world.store) := by
  obtain ⟨mode, scenes, ended, reported, unfolds, rfl, _⟩ :=
    unfolds_classified reliable notDelete ran
  have ruled := unfolds.ruled
  refine ⟨mode, ended.report, scenes, ended, _, reported, unfolds, rfl, rfl, rfl,
    ruled.orderly.protocol, ruled.around, fun record records => ruled.around.record_eq records, ?_, ?_, ?_⟩
  · simpa [Request.desk] using ruled.warnings
  · simpa [Request.desk] using ruled.filesOverwritten
  · intro scene member ruling same
    have rules := (unfolds.plays scene member).rules
    have met := rules.met
    rw [same] at met
    obtain ⟨holds, file, target⟩ := Errand.in_of_collision? met.symm
    exact ⟨holds, file, target, rules.stays ruling same⟩

end Request

namespace Sample

def chart : EntityId := ⟨drive, ⟨"chart", by decide⟩⟩

def oldChart : EntityId := ⟨drive, ⟨"old-chart", by decide⟩⟩

def roster : EntityId := ⟨drive, ⟨"roster", by decide⟩⟩

def oldRoster : EntityId := ⟨drive, ⟨"old-roster", by decide⟩⟩

/-- Three files in each of the two folders, and each has its namesake in the other one. -/
def disputed : MemoryStore :=
  (((rivals.save (.file ⟨chart, "chart", [1], .ofList [note]⟩)).save
    (.file ⟨oldChart, "chart", [], .ofList [inside]⟩)).save
    (.file ⟨roster, "roster", [1], .ofList [note]⟩)).save
    (.file ⟨oldRoster, "roster", [], .ofList [inside]⟩)

/-- Nobody answers the first question. Later ones are agreed to once and for all. -/
def reluctant : Setup (List Answered) :=
  { agreeing with job := { agreeing.job with ask := fun question around =>
      let answer := if around.isEmpty then none else some ⟨true, true⟩
      (answer, around ++ [(question, answer)]) } }

theorem reluctant_records : reluctant.Records id where
  call _ _ _ := rfl
  turn turns := by
    cases turns with
    | push _ => rfl
    | step => rfl
    | pop => rfl
    | isCancelled => rfl
  ask _ _ := rfl

end Sample

open Sample in
theorem Request.collisions_ruled_disputed : ∃ report after rulings,
    unite.plan reluctant.host 9 ⟨disputed, [], []⟩ = some (.ok report, after) ∧
    Ruling.Protocol true rulings ∧
    rulings.filterMap Ruling.answered? =
      [(⟨chart, oldChart⟩, none), (⟨new, old⟩, some ⟨true, true⟩)] ∧
    rulings.filterMap Ruling.warning? = [.interrupted chart] ∧
    rulings.countP (·.verdict = .overwrite) = 2 := by
  have went : ((unite.plan reluctant.host 9 ⟨disputed, [], []⟩).map fun outcome =>
      (outcome.2.around, outcome.1.toOption.map fun report =>
        (report.warnings, report.tally.filesOverwritten))) =
      some ([(⟨chart, oldChart⟩, none), (⟨new, old⟩, some ⟨true, true⟩)],
        some ([.interrupted chart], 2)) := by decide +kernel
  obtain ⟨⟨result, after⟩, ran, found⟩ := Option.map_eq_some_iff.mp went
  have reliable : reluctant.Reliable := agreeing_reliable
  obtain ⟨mode, report, scenes, ended, rulings, rfl, _, _, _, _, protocol, _, recorded, warned, counted,
    _⟩ := collisions_ruled reliable (by decide) ran
  obtain ⟨asked, told⟩ := Prod.mk.inj found
  obtain ⟨warnings, overwritten⟩ := Prod.mk.inj (Option.some.inj told)
  have onRecord := recorded id reluctant_records
  exact ⟨report, after, rulings, ran, protocol, onRecord.symm.trans asked, warned.symm.trans warnings,
    counted.symm.trans overwritten⟩

end Filing
