import Filing.Proofs.Calling
import Filing.Proofs.Composing
import Filing.Proofs.Course

/-!
# How collisions are ruled on

One file on its way into a folder (`Errand`) meets at most one collision, and which one can be told
from what is stored (`Errand.collision?`). With a store that does what is asked of it, that collision
is ruled on and no other (`Errand.meets_run`). A ruling follows from what stands by then: nobody is
asked, or an earlier answer holds for all collisions, or there is a new question (`Ruling.Follows`).
`Desk.Ruled` says what any number of rulings leave behind on the desk, and everything else that a
move or a copy does leaves nothing of that kind (`Desk.Calm`).
-/
namespace Filing

variable {σ τ α : Type}

/-! ## Collisions -/

/-- A file is to go into a folder where another one has its name and may be taken out. -/
structure Collision where
  file : File
  existing : File
  target : EntityId
  deriving DecidableEq

def Collision.question (c : Collision) : Question := ⟨c.file.id, c.existing.id⟩

/-- The first file in the folder, other than `except`, that has the name. -/
def Contents.namesake? (c : Contents) (name : String) (target : EntityId)
    (except : Option EntityId) : Option File :=
  ((c.childFiles target).filter (some · ≠ except)).findSome? (c.fileNamed? name)

/-- The collision `file` meets in the folder, provided that the other file may be taken out. -/
def MemoryStore.collision? (s : MemoryStore) (file : File) (target : EntityId)
    (except : Option EntityId) : Option Collision :=
  match s.contents.namesake? file.name target except with
  | none => none
  | some existing =>
    if s.allows (existing.removalPermission target) existing.id then some ⟨file, existing, target⟩
    else none

/-- One file is to go into a folder. -/
inductive Errand where
  | move (file : EntityId) (source : Option EntityId) (target : EntityId)
  | copy (file target : EntityId)
  deriving DecidableEq

namespace Errand

def file : Errand → EntityId
  | move file _ _ => file
  | copy file _ => file

def target : Errand → EntityId
  | move _ _ target => target
  | copy _ target => target

def run (host : Host σ) : Errand → Action σ Unit
  | move file source target => Action.moveFile host file source target
  | copy file target => Action.copyFile host file target

/-- The collision the file meets, if it gets that far. -/
def collision? (s : MemoryStore) : Errand → Option Collision
  | move id source target =>
    match s.contents.file? id with
    | none => none
    | some file =>
      -- Without the first of these the file is left alone, without the others the move is refused.
      if source ≠ some target ∧ s.allows .edit id ∧ (s.contents.folder? target).isSome then
        s.collision? file target (some id)
      else none
  | copy id target =>
    match s.contents.file? id with
    | none => none
    | some file =>
      if target ∉ file.parents ∧ (s.contents.folder? target).isSome then s.collision? file target none
      else none

end Errand

/-- A file that other folders list too is edited when it leaves one of them, and any other is deleted. -/
theorem MemoryStore.allows_removal_iff {s : MemoryStore} {file : File} {parent : EntityId} :
    s.allows (file.removalPermission parent) file.id = true ↔
      (∃ other ∈ file.parents, other ≠ parent) ∧ file.id ∉ s.editDenied ∨
      (∀ other ∈ file.parents, other = parent) ∧ file.id ∉ s.deleteDenied := by
  unfold File.removalPermission
  cases elsewhere : file.isElsewhere parent with
  | true =>
    have others := File.isElsewhere_iff.mp elsewhere
    rw [if_pos rfl, ← Bool.not_eq_false, allows_edit_eq_false_iff]
    refine ⟨fun permitted => .inl ⟨others, permitted⟩, ?_⟩
    rintro (⟨_, permitted⟩ | ⟨only, _⟩)
    · exact permitted
    · obtain ⟨other, listed, differs⟩ := others
      exact absurd (only other listed) differs
  | false =>
    have only := File.isElsewhere_eq_false_iff.mp elsewhere
    rw [if_neg (by simp), ← Bool.not_eq_false, allows_delete_eq_false_iff]
    refine ⟨fun permitted => .inr ⟨only, permitted⟩, ?_⟩
    rintro (⟨⟨other, listed, differs⟩, _⟩ | ⟨_, permitted⟩)
    · exact absurd (only other listed) differs
    · exact permitted

/-- What a collision is about, as it is stored. -/
structure Collision.In (collision : Collision) (s : MemoryStore) : Prop where
  stored : s.contents.file? collision.file.id = some collision.file
  storedExisting : s.contents.file? collision.existing.id = some collision.existing
  differs : collision.existing.id ≠ collision.file.id
  sameName : collision.existing.name = collision.file.name
  listed : collision.target ∈ collision.existing.parents
  destination : (s.contents.folder? collision.target).isSome
  /-- To leave one of several folders needs leave to edit, to leave the only one leave to delete. -/
  permitted : (∃ other ∈ collision.existing.parents, other ≠ collision.target) ∧
      collision.existing.id ∉ s.editDenied ∨
    (∀ other ∈ collision.existing.parents, other = collision.target) ∧
      collision.existing.id ∉ s.deleteDenied

theorem Contents.clash_of_namesake? {c : Contents} {name : String} {target : EntityId}
    {except : Option EntityId} {existing : File}
    (found : c.namesake? name target except = some existing) :
    Clash c name existing target except := by
  obtain ⟨id, member, named⟩ := List.exists_of_findSome?_eq_some found
  obtain ⟨stored, sameName⟩ := Contents.fileNamed?_eq_some_iff.mp named
  cases Contents.id_of_file? stored
  obtain ⟨inListing, differs⟩ : existing.id ∈ c.childFiles target ∧ some existing.id ≠ except := by
    simpa using member
  obtain ⟨file, stored', listed⟩ := Contents.mem_childFiles.mp inListing
  rw [stored] at stored'
  cases stored'
  exact ⟨stored, listed, differs, sameName⟩

theorem MemoryStore.in_of_collision? {s : MemoryStore} {file : File} {target : EntityId}
    {except : Option EntityId} {collision : Collision}
    (found : s.collision? file target except = some collision)
    (stored : s.contents.file? file.id = some file)
    (apart : except = some file.id ∨ except = none ∧ target ∉ file.parents)
    (destination : (s.contents.folder? target).isSome) :
    collision.In s ∧ collision.file = file ∧ collision.target = target := by
  unfold MemoryStore.collision? at found
  split at found
  next => cases found
  next existing first =>
    split at found
    next permitted =>
      cases found
      have clash := Contents.clash_of_namesake? first
      exact ⟨⟨stored, clash.stored, clash.differs_of_apart stored apart, clash.sameName, clash.listed,
        destination, MemoryStore.allows_removal_iff.mp permitted⟩, rfl, rfl⟩
    next => cases found

theorem Errand.in_of_collision? {s : MemoryStore} {errand : Errand} {collision : Collision}
    (found : errand.collision? s = some collision) :
    collision.In s ∧ collision.file.id = errand.file ∧ collision.target = errand.target := by
  cases errand with
  | move id source target =>
    simp only [Errand.collision?] at found
    split at found
    next => cases found
    next file stored =>
      cases Contents.id_of_file? stored
      split at found
      next goes =>
        obtain ⟨holds, same, there⟩ :=
          MemoryStore.in_of_collision? found stored (.inl rfl) goes.2.2
        exact ⟨holds, by rw [same]; rfl, there⟩
      next => cases found
  | copy id target =>
    simp only [Errand.collision?] at found
    split at found
    next => cases found
    next file stored =>
      cases Contents.id_of_file? stored
      split at found
      next goes =>
        obtain ⟨holds, same, there⟩ :=
          MemoryStore.in_of_collision? found stored (.inr ⟨rfl, goes.1⟩) goes.2
        exact ⟨holds, by rw [same]; rfl, there⟩
      next => cases found

namespace Errand

variable {s : MemoryStore} {id target : EntityId}

theorem collision?_copy {file : File} {folder : Folder}
    (stored : s.contents.file? file.id = some file) (absent : target ∉ file.parents)
    (there : s.contents.folder? target = some folder) :
    (copy file.id target).collision? s = s.collision? file target none := by
  simp [collision?, stored, absent, there]

/-- A file that is listed already or cannot be listed meets nothing. -/
theorem collision?_copy_of_not (idle : ∀ file, s.contents.file? id = some file →
      target ∈ file.parents ∨ s.contents.folder? target = none) :
    (copy id target).collision? s = none := by
  simp only [collision?]
  split
  next => rfl
  next file stored =>
    rcases idle file stored with listed | gone
    · rw [if_neg (by simp [listed])]
    · rw [if_neg (by simp [gone])]

end Errand

/-! ## Rulings -/

/-- What an answer comes to. -/
def Verdict.told : Option Decision → Verdict
  | none => .unanswered
  | some decision => .ofAnswer decision.overwrite

/-- How a collision was ruled on. -/
structure Ruling where
  collision : Collision
  /-- What the job said, if it was asked. -/
  asked : Option (Option Decision)
  verdict : Verdict
  deriving DecidableEq

namespace Ruling

/-- The question that was asked, and the answer to it. -/
def answered? (r : Ruling) : Option Answered :=
  r.asked.map fun answer => (r.collision.question, answer)

/-- What the report warns of. -/
def warning? (r : Ruling) : Option RequestError :=
  if r.asked = some none then some (.interrupted r.collision.file.id) else none

/-- The answer that was meant for all collisions. -/
def forAll? (r : Ruling) : Option Bool :=
  match r.asked with
  | some (some decision) => if decision.applyToAll then some decision.overwrite else none
  | _ => none

/-- What stands before and after a ruling is an answer for all collisions. A silence is none. -/
inductive Follows (interactive : Bool) : Option Bool → Ruling → Option Bool → Prop
  | quiet {collision standing} (quiet : interactive = false) :
      Follows interactive standing ⟨collision, none, .keep⟩ standing
  | remembered {collision overwrite} (asks : interactive = true) :
      Follows interactive (some overwrite) ⟨collision, none, .ofAnswer overwrite⟩ (some overwrite)
  | unanswered {collision} (asks : interactive = true) :
      Follows interactive none ⟨collision, some none, .unanswered⟩ none
  | answered {collision decision} (asks : interactive = true) :
      Follows interactive none ⟨collision, some (some decision), .ofAnswer decision.overwrite⟩
        (if decision.applyToAll then some decision.overwrite else none)

/-- Rulings one after another, each of which follows from what stands by then. -/
inductive Orderly (interactive : Bool) : Option Bool → List Ruling → Option Bool → Prop
  | done (standing) : Orderly interactive standing [] standing
  | next {standing between last ruling later} (follows : ruling.Follows interactive standing between)
      (rest : Orderly interactive between later last) :
      Orderly interactive standing (ruling :: later) last

/-- The rules that the rulings on a request keep to. -/
structure Protocol (interactive : Bool) (rulings : List Ruling) : Prop where
  /-- Where nobody is asked, the existing file stays. -/
  quiet : interactive = false → ∀ ruling ∈ rulings, ruling.asked = none ∧ ruling.verdict = .keep
  /-- An answer for all collisions decides every later one. -/
  settled : ∀ earlier ruling later overwrite, rulings = earlier ++ ruling :: later →
    ruling.forAll? = some overwrite →
    ∀ other ∈ later, other.asked = none ∧ other.verdict = .ofAnswer overwrite
  /-- As long as there is none, each collision is asked about, and its own answer decides it. -/
  asked : interactive = true → ∀ earlier ruling later, rulings = earlier ++ ruling :: later →
    (∀ other ∈ earlier, other.forAll? = none) →
    ∃ answer, ruling.asked = some answer ∧ ruling.verdict = .told answer

namespace Orderly

variable {interactive : Bool} {standing between last : Option Bool} {ruling : Ruling}
  {rulings earlier later : List Ruling}

theorem append (first : Orderly interactive standing earlier between)
    (second : Orderly interactive between later last) :
    Orderly interactive standing (earlier ++ later) last := by
  induction first with
  | done _ => exact second
  | next follows _ ih => exact .next follows (ih second)

theorem split (orderly : Orderly interactive standing (earlier ++ ruling :: later) last) :
    ∃ before after, Orderly interactive standing earlier before ∧
      ruling.Follows interactive before after ∧ Orderly interactive after later last := by
  induction earlier generalizing standing with
  | nil =>
    cases orderly with
    | next follows rest => exact ⟨_, _, .done _, follows, rest⟩
  | cons first earlier ih =>
    cases orderly with
    | next follows rest =>
      obtain ⟨before, after, begun, follows', rest⟩ := ih rest
      exact ⟨before, after, .next follows begun, follows', rest⟩

theorem quiet (orderly : Orderly interactive standing rulings last) (quiet : interactive = false) :
    ∀ ruling ∈ rulings, ruling.asked = none ∧ ruling.verdict = .keep := by
  induction orderly with
  | done _ => simp
  | next follows _ ih =>
    refine List.forall_mem_cons.mpr ⟨?_, ih⟩
    cases follows with
    | quiet _ => exact ⟨rfl, rfl⟩
    | remembered asks => simp [quiet] at asks
    | unanswered asks => simp [quiet] at asks
    | answered asks => simp [quiet] at asks

/-- What stands stays and decides. -/
theorem remembered {overwrite : Bool} (orderly : Orderly interactive standing rulings last)
    (asks : interactive = true) (stands : standing = some overwrite) :
    ∀ ruling ∈ rulings, ruling.asked = none ∧ ruling.verdict = .ofAnswer overwrite := by
  induction orderly with
  | done _ => simp
  | next follows _ ih =>
    -- Nothing is asked where an answer stands already, so two of the rules are left.
    cases stands
    cases follows with
    | quiet quiet => simp [quiet] at asks
    | remembered _ => exact List.forall_mem_cons.mpr ⟨⟨rfl, rfl⟩, ih rfl⟩

/-- Without an answer that is meant for all collisions, nothing new stands. -/
theorem unchanged (orderly : Orderly interactive standing rulings last)
    (fresh : ∀ ruling ∈ rulings, ruling.forAll? = none) : last = standing := by
  induction orderly with
  | done _ => rfl
  | next follows _ ih =>
    obtain ⟨here, there⟩ := List.forall_mem_cons.mp fresh
    rw [ih there]
    cases follows with
    | quiet _ => rfl
    | remembered _ => rfl
    | unanswered _ => rfl
    | answered _ => exact here

theorem protocol (orderly : Orderly interactive none rulings last) :
    Protocol interactive rulings where
  quiet := orderly.quiet
  settled earlier ruling later overwrite same forAll := by
    subst same
    obtain ⟨before, after, _, follows, rest⟩ := orderly.split
    cases follows with
    | quiet _ => cases forAll
    | remembered _ => cases forAll
    | unanswered _ => cases forAll
    | answered asks => exact rest.remembered asks forAll
  asked asks earlier ruling later same fresh := by
    subst same
    obtain ⟨before, after, begun, follows, _⟩ := orderly.split
    -- None of the earlier answers was for all, so nothing stands yet.
    cases begun.unchanged fresh
    cases follows with
    | quiet quiet => simp [quiet] at asks
    | unanswered _ => exact ⟨_, rfl, rfl⟩
    | answered _ => exact ⟨_, rfl, rfl⟩

end Orderly

end Ruling

/-! ## What is asked -/

/-- On the way from one state of the surroundings to the other these questions are asked, and answered
like this. Besides, calls are decided about and the job is told of progress. -/
inductive Setup.Hears (setup : Setup τ) : τ → List Answered → τ → Prop
  | done (around) : Hears setup around [] around
  | call {around answered last} (method : Scenario.Method) (id : EntityId)
      (rest : Hears setup (setup.faults method id around).2 answered last) :
      Hears setup around answered last
  | turn {around between answered last} (turns : setup.job.Turns around between)
      (rest : Hears setup between answered last) : Hears setup around answered last
  | ask {around answered last} (question : Question)
      (rest : Hears setup ((setup.job.ask question).run around).2 answered last) :
      Hears setup around ((question, ((setup.job.ask question).run around).1) :: answered) last

namespace Setup.Hears

variable {setup : Setup τ} {around between last : τ} {answered later : List Answered}

theorem append (first : setup.Hears around answered between)
    (second : setup.Hears between later last) : setup.Hears around (answered ++ later) last := by
  induction first with
  | done _ => exact second
  | call method id _ ih => exact .call method id (ih second)
  | turn turns _ ih => exact .turn turns (ih second)
  | ask question _ ih => exact .ask question (ih second)

theorem of_drift (drift : setup.faults.Drift around last) : setup.Hears around [] last := by
  induction drift with
  | refl => exact .done around
  | tail _ decided ih =>
    obtain ⟨method, id, rfl⟩ := decided
    exact ih.append (.call method id (.done _))

theorem single {question : Question} {answer : Option Decision}
    (told : (setup.job.ask question).run around = (answer, last)) :
    setup.Hears around [(question, answer)] last := by
  have heard : setup.Hears around [(question, ((setup.job.ask question).run around).1)]
      ((setup.job.ask question).run around).2 := .ask question (.done _)
  rwa [told] at heard

/-- Surroundings that keep a record have it all on record. -/
theorem record_eq {record : τ → List Answered} (hears : setup.Hears around answered last)
    (records : setup.Records record) : record last = record around ++ answered := by
  induction hears with
  | done _ => simp
  | call method id _ ih => rw [ih, records.call]
  | turn turns _ ih => rw [ih, records.turn turns]
  | ask question _ ih => rw [ih, records.ask, List.append_assoc, List.singleton_append]

end Setup.Hears

/-! ## What rulings leave behind -/

/-- What there is on the desk of rulings, and what is around it, comes from these. -/
structure Desk.Ruled (setup : Setup τ) (before : Desk (Cabinet τ)) (rulings : List Ruling)
    (after : Desk (Cabinet τ)) : Prop where
  interactive : after.interactive = before.interactive
  orderly : Ruling.Orderly before.interactive before.remembered rulings after.remembered
  warnings : after.report.warnings = before.report.warnings ++ rulings.filterMap Ruling.warning?
  filesOverwritten : after.report.tally.filesOverwritten =
    before.report.tally.filesOverwritten + rulings.countP (·.verdict = .overwrite)
  around : setup.Hears before.world.around (rulings.filterMap Ruling.answered?) after.world.around

/-- No collision is ruled on. -/
abbrev Desk.Calm (setup : Setup τ) (before after : Desk (Cabinet τ)) : Prop :=
  before.Ruled setup [] after

namespace Desk

variable {setup : Setup τ} {first second third : Desk (Cabinet τ)} {rulings later : List Ruling}

namespace Ruled

theorem trans (ruled : first.Ruled setup rulings second) (ruled' : second.Ruled setup later third) :
    first.Ruled setup (rulings ++ later) third where
  interactive := ruled'.interactive.trans ruled.interactive
  orderly := ruled.orderly.append (ruled.interactive ▸ ruled'.orderly)
  warnings := by rw [ruled'.warnings, ruled.warnings, List.filterMap_append, List.append_assoc]
  filesOverwritten := by
    rw [ruled'.filesOverwritten, ruled.filesOverwritten, List.countP_append, Nat.add_assoc]
  around := by
    rw [List.filterMap_append]
    exact ruled.around.append ruled'.around

end Ruled

/-- A change of nothing but failures, other counts and the surroundings. -/
theorem Calm.of_around (around : setup.Hears first.world.around [] second.world.around)
    (interactive : second.interactive = first.interactive)
    (remembered : second.remembered = first.remembered)
    (warnings : second.report.warnings = first.report.warnings)
    (filesOverwritten :
      second.report.tally.filesOverwritten = first.report.tally.filesOverwritten) :
    first.Calm setup second where
  interactive := interactive
  orderly := remembered ▸ .done _
  warnings := by simp [warnings]
  filesOverwritten := by simp [filesOverwritten]
  around := around

theorem Glanced.calm {extra : List Entry} (glanced : first.Glanced setup.faults second extra) :
    first.Calm setup second :=
  .of_around (.of_drift glanced.drift) glanced.interactive glanced.remembered (by rw [glanced.report])
    (by rw [glanced.report])

theorem link_calm (setup : Setup τ) : Link (Calm setup) where
  refl _ := .of_around (.done _) rfl rfl rfl rfl
  trans first second := by simpa using first.trans second
  failing _ _ := .of_around (.done _) rfl rfl rfl rfl
  leftOff _ := .of_around (.done _) rfl rfl rfl rfl

/-- What a decision leaves behind once it is written down: a warning if nobody has answered, and a
count if the existing file goes. -/
theorem Decides.ruled {collision : Collision} {verdict : Verdict}
    (decides : first.Decides setup.job collision.question verdict second) :
    ∃ ruling : Ruling, ruling.collision = collision ∧ ruling.verdict = verdict ∧
      ∀ third, third.interactive = second.interactive → third.remembered = second.remembered →
        third.report.warnings = second.report.warnings ++
          (if verdict = .unanswered then [.interrupted collision.file.id] else []) →
        third.report.tally.filesOverwritten = second.report.tally.filesOverwritten +
          (if verdict = .overwrite then 1 else 0) →
        setup.Hears second.world.around [] third.world.around → first.Ruled setup [ruling] third := by
  have answers (overwrite : Bool) : Verdict.ofAnswer overwrite ≠ .unanswered := by
    cases overwrite <;> decide
  -- There is one rule of `Follows` for each way to decide.
  cases decides with
  | quiet quiet =>
    refine ⟨⟨collision, none, .keep⟩, rfl, rfl,
      fun third interactive remembered warnings count around =>
        ⟨interactive, ?_, warnings, count, around⟩⟩
    rw [remembered]
    exact .next (.quiet quiet) (.done _)
  | @remembered overwrite asks holds =>
    refine ⟨⟨collision, none, .ofAnswer overwrite⟩, rfl, rfl,
      fun third interactive remembered warnings count around =>
        ⟨interactive, ?_, ?_, by simpa [List.countP_cons] using count, around⟩⟩
    · rw [remembered, holds]
      exact .next (.remembered asks) (.done _)
    · simpa [answers, Ruling.warning?] using warnings
  | @unanswered later asks forgot told =>
    refine ⟨⟨collision, some none, .unanswered⟩, rfl, rfl,
      fun third interactive remembered warnings count around =>
        ⟨interactive, ?_, warnings, count, ?_⟩⟩
    · rw [remembered, forgot]
      exact .next (.unanswered asks) (.done _)
    · exact (Setup.Hears.single told).append around
  | @answered decision later asks forgot told =>
    refine ⟨⟨collision, some (some decision), .ofAnswer decision.overwrite⟩, rfl, rfl,
      fun third interactive remembered warnings count around =>
        ⟨interactive, ?_, ?_, by simpa [List.countP_cons] using count, ?_⟩⟩
    · rw [remembered, forgot]
      exact .next (.answered asks) (.done _)
    · simpa [answers, Ruling.warning?] using warnings
    · exact (Setup.Hears.single told).append around

end Desk

/-- The collision that is met, if there is one, is ruled on, and nothing is stored differently unless
the existing file has to go. -/
structure Desk.RulesOn (setup : Setup τ) (before : Desk (Cabinet τ)) (met : Option Collision)
    (ruling : Option Ruling) (after : Desk (Cabinet τ)) : Prop where
  met : ruling.map Ruling.collision = met
  ruled : before.Ruled setup ruling.toList after
  stays : ∀ r, ruling = some r → r.verdict ≠ .overwrite → after.world.store = before.world.store

namespace Desk.RulesOn

variable {setup : Setup τ} {first second third : Desk (Cabinet τ)} {met : Option Collision}
  {ruling : Option Ruling}

theorem of_calm (calm : first.Calm setup second) : first.RulesOn setup none none second :=
  ⟨rfl, calm, by rintro _ ⟨⟩⟩

/-- A ruling, if it is not the last thing, is followed by a change only where the file may go on. -/
theorem calmly (rules : first.RulesOn setup met ruling second) (calm : second.Calm setup third)
    (goesOn : ∀ r, ruling = some r → r.verdict = .overwrite) :
    first.RulesOn setup met ruling third where
  met := rules.met
  ruled := by simpa using rules.ruled.trans calm
  stays r same keeps := absurd (goesOn r same) keeps

end Desk.RulesOn

/-- What it comes to whether `file` may go into the folder, with a store that does what is asked of it:
nothing is in the way, what is may not be taken out, or it was ruled on. -/
inductive Desk.Admits (setup : Setup τ) (before : Desk (Cabinet τ)) (file : File) (target : EntityId)
    (except : Option EntityId) :
    Except RequestError Bool → Option Ruling → Desk (Cabinet τ) → Prop
  | free {after extra} (glanced : before.Glanced setup.faults after extra)
      (alone : before.world.store.contents.namesake? file.name target except = none) :
      Admits setup before file target except (.ok true) none after
  | denied {existing error after extra} (glanced : before.Glanced setup.faults after extra)
      (found : before.world.store.contents.namesake? file.name target except = some existing)
      (denied : before.world.store.allows (existing.removalPermission target) existing.id = false) :
      Admits setup before file target except (.error error) none after
  | spared {existing ruling after}
      (found : before.world.store.contents.namesake? file.name target except = some existing)
      (permitted : before.world.store.allows (existing.removalPermission target) existing.id = true)
      (about : ruling.collision = ⟨file, existing, target⟩) (spares : ruling.verdict ≠ .overwrite)
      (ruled : before.Ruled setup [ruling] after) (store : after.world.store = before.world.store)
      (report : ∃ warnings, after.report = { before.report with warnings }) :
      Admits setup before file target except (.ok false) (some ruling) after
  | evicted {existing ruling after}
      (found : before.world.store.contents.namesake? file.name target except = some existing)
      (permitted : before.world.store.allows (existing.removalPermission target) existing.id = true)
      (about : ruling.collision = ⟨file, existing, target⟩) (goes : ruling.verdict = .overwrite)
      (ruled : before.Ruled setup [ruling] after)
      (store : after.world.store = before.world.store.takeOut existing target)
      (report : ∃ warnings, after.report = { before.report with
        warnings
        tally := { before.report.tally with
          filesOverwritten := before.report.tally.filesOverwritten + 1 } }) :
      Admits setup before file target except (.ok true) (some ruling) after

namespace Desk.Admits

variable {setup : Setup τ} {before after : Desk (Cabinet τ)} {file : File} {target : EntityId}
  {except : Option EntityId} {result : Except RequestError Bool} {ruling : Option Ruling}

theorem rules (admits : before.Admits setup file target except result ruling after) :
    before.RulesOn setup (before.world.store.collision? file target except) ruling after := by
  unfold MemoryStore.collision?
  cases admits with
  | free glanced alone =>
    rw [alone]
    exact .of_calm glanced.calm
  | denied glanced found denied =>
    rw [found]
    dsimp only
    rw [denied, if_neg (by simp)]
    exact .of_calm glanced.calm
  | spared found permitted about spares ruled store =>
    rw [found]
    dsimp only
    rw [if_pos permitted]
    exact ⟨congrArg some about, ruled, fun _ _ _ => store⟩
  | evicted found permitted about goes ruled =>
    rw [found]
    dsimp only
    rw [if_pos permitted]
    refine ⟨congrArg some about, ruled, ?_⟩
    rintro _ ⟨⟩ spares
    exact absurd goes spares

/-- The file may go on only if nothing is in the way any more. -/
theorem goes (admits : before.Admits setup file target except (.ok true) ruling after) :
    ∀ r, ruling = some r → r.verdict = .overwrite := by
  cases admits with
  | free => simp
  | evicted _ _ _ goes =>
    rintro _ ⟨⟩
    exact goes

end Desk.Admits

/-- What comes of moving the file `id` from `source` to `target` with a store that does what is asked of
it. -/
inductive Desk.Moves (setup : Setup τ) (before : Desk (Cabinet τ)) (id : EntityId)
    (source : Option EntityId) (target : EntityId) :
    Except RequestError Unit → Option Ruling → Desk (Cabinet τ) → Prop
  | stays {after extra} (glanced : before.Glanced setup.faults after extra)
      (idle : before.world.store.contents.file? id = none ∨ source = some target) :
      Moves setup before id source target (.ok ()) none after
  | refused {error after extra} (glanced : before.Glanced setup.faults after extra)
      (met : (Errand.move id source target).collision? before.world.store = none) :
      Moves setup before id source target (.error error) none after
  | spared {file ruling after}
      (met : (Errand.move id source target).collision? before.world.store =
        before.world.store.collision? file target (some id))
      (admits : before.Admits setup file target (some id) (.ok false) ruling after) :
      Moves setup before id source target (.ok ()) ruling after
  | entered {file ruling roomed after} (elsewhere : source ≠ some target)
      (stored : before.world.store.contents.file? id = some file)
      (met : (Errand.move id source target).collision? before.world.store =
        before.world.store.collision? file target (some id))
      (admits : before.Admits setup file target (some id) (.ok true) ruling roomed)
      (relisted : ((file.reparent source target).2 = false ∧ after = roomed) ∨
        (file.reparent source target).2 = true ∧ roomed.Wrote after .save
          (roomed.world.store.save (.file (file.reparent source target).1))
          (fun tally => { tally with filesMoved := tally.filesMoved + 1 }) ∧
          setup.faults.Drift roomed.world.around after.world.around) :
      Moves setup before id source target (.ok ()) ruling after

theorem Desk.Moves.rules {setup : Setup τ} {before after : Desk (Cabinet τ)} {id target : EntityId}
    {source : Option EntityId} {result : Except RequestError Unit} {ruling : Option Ruling}
    (moves : before.Moves setup id source target result ruling after) :
    before.RulesOn setup ((Errand.move id source target).collision? before.world.store) ruling after := by
  cases moves with
  | stays glanced idle =>
    have none : (Errand.move id source target).collision? before.world.store = none := by
      rcases idle with missing | same
      · simp [Errand.collision?, missing]
      · simp only [Errand.collision?]
        split
        next => rfl
        next => rw [if_neg (by simp [same])]
    rw [none]
    exact .of_calm glanced.calm
  | refused glanced met =>
    rw [met]
    exact .of_calm glanced.calm
  | spared met admits =>
    rw [met]
    exact admits.rules
  | entered elsewhere stored met admits relisted =>
    rw [met]
    rcases relisted with ⟨_, rfl⟩ | ⟨_, wrote, drift⟩
    · exact admits.rules
    -- To save the file asks nothing, and it does no harm that the store has changed, as the file was to
    -- go on.
    · refine admits.rules.calmly ?_ admits.goes
      exact .of_around (.of_drift drift) wrote.interactive wrote.remembered (by rw [wrote.report])
        (by rw [wrote.report])

/-! ## Calm actions -/

/-- Deciding about a call is all that happens around it. -/
theorem Cabinet.hears_attempt (setup : Setup τ) (method : Scenario.Method) (id : EntityId)
    (c : Call MemoryStore α) (cabinet : Cabinet τ) :
    setup.Hears cabinet.around []
      ((Cabinet.attempt setup.faults method id c).run cabinet).2.around := by
  have heard : setup.Hears cabinet.around [] (setup.faults method id cabinet.around).2 :=
    .call method id (.done _)
  change setup.Hears _ _ (Cabinet.attempt setup.faults method id c cabinet).2.around
  unfold Cabinet.attempt
  split
  next told =>
    rw [told] at heard
    exact heard
  next told =>
    rw [told] at heard
    exact heard

namespace Action

variable {setup : Setup τ} {first desk : Desk (Cabinet τ)} {extra : List Entry}

open Desk (Calm link_calm)

theorem calm_call {c : Call (Cabinet τ) α}
    (hears : ∀ cabinet, setup.Hears cabinet.around [] (c.run cabinet).2.around) :
    Links (Calm setup) (call c) := by
  intro desk
  refine (meets_call c desk).mono ?_
  rintro _ _ rfl
  exact .of_around (hears desk.world) rfl rfl rfl rfl

/-- Single changes and renames are calm, and whatever does not get a file into the way of another. -/
theorem composes_calm (setup : Setup τ) : ComposesRenames setup.host (Links (Calm setup)) where
  pure := .pure (link_calm setup)
  throw _ desk := .throw ((link_calm setup).refl desk)
  tooDeep _ := .tooDeep
  bind := .bind (link_calm setup)
  folder _ := calm_call (Cabinet.hears_attempt setup _ _ _)
  file _ := calm_call (Cabinet.hears_attempt setup _ _ _)
  canEdit _ := calm_call (Cabinet.hears_attempt setup _ _ _)
  canDelete _ := calm_call (Cabinet.hears_attempt setup _ _ _)
  save _ := calm_call (Cabinet.hears_attempt setup _ _ _)
  delete _ := calm_call (Cabinet.hears_attempt setup _ _ _)
  rename _ _ := calm_call (Cabinet.hears_attempt setup _ _ _)
  uniquifier drive desired :=
    have link : Cabinet.Link fun before after => setup.Hears before.around [] after.around :=
      ⟨fun _ => .done _, fun first second => first.append second⟩
    calm_call (Call.Leads.uniquifier link (fun _ => Cabinet.hears_attempt setup _ _ _) drive desired)
  count added none _ := .modify (.of_around (.done _) rfl rfl rfl (by simp [none]))

/-! ## Errands -/

/-- Looks and goes on, as the store does what is asked of it. -/
theorem Meets.glance_surely {β : Type} {action : Action (Cabinet τ) α} {next : α → Action (Cabinet τ) β}
    {a : α} {post : Except RequestError β → Desk (Cabinet τ) → Prop} (reliable : setup.Reliable)
    (glanced : first.Glanced setup.faults desk extra)
    (looks : Looks setup.faults first.world.store action (· = .ok a))
    (ok : ∀ after extra, first.Glanced setup.faults after extra → (next a).Meets after post) :
    (action >>= next).Meets desk post :=
  .glance_ok glanced looks
    (fun _ _ (missed : first.Missed setup.faults (fun _ => False) _ _) =>
      (missed.reason_of_reliable reliable).elim) ok

theorem looks_namesake (setup : Setup τ) {store : MemoryStore} {parent : EntityId}
    {listing : Listing} (found : store.contents.listing? parent = some listing) (name : String)
    (except : Option EntityId) :
    Looks setup.faults store (childFileNamed setup.host listing name except)
      (· = .ok (store.contents.namesake? name parent except)) := by
  obtain ⟨_, _, files⟩ := Contents.listing?_eq_some_iff.mp found
  unfold Contents.namesake?
  rw [← files]
  exact looks_fileNamed setup store name _

theorem admits_makeRoom (reliable : setup.Reliable) (glanced : first.Glanced setup.faults desk extra)
    {file : File} {target : EntityId} {destination : Listing} {except : Option EntityId}
    (found : first.world.store.contents.listing? target = some destination) :
    (makeRoom setup.host file destination target except).Meets desk fun result after =>
      ∃ ruling, first.Admits setup file target except result ruling after := by
  unfold makeRoom
  refine .glance_surely reliable glanced (looks_namesake setup found file.name except) ?_
  intro between extra glanced
  cases clash : first.world.store.contents.namesake? file.name target except with
  | none => exact .pure ⟨none, .free glanced clash⟩
  | some existing =>
    dsimp only
    unfold overwrite
    refine (meets_permit glanced _ existing.id).bind ?_ ?_
    · rintro _ asking ⟨permitted, extra, glanced⟩
      refine (meets_decideCollision _ _).bind ?_ (by rintro _ _ ⟨_, ⟨⟩, _⟩)
      rintro verdict decided ⟨_, ⟨⟩, decides⟩
      -- Up to here nothing has changed. What is left depends on the verdict.
      have decides : asking.Decides setup.job (Collision.question ⟨file, existing, target⟩) verdict
        decided := decides
      have kept := glanced.kept.trans decides.kept
      obtain ⟨ruling, about, same, writtenDown⟩ := decides.ruled
      have ruled {after : Desk (Cabinet τ)} (ruled : asking.Ruled setup [ruling] after) :
          first.Ruled setup [ruling] after := glanced.calm.trans ruled
      cases verdict with
      | keep =>
        have left := writtenDown decided rfl rfl (by simp) (by simp) (.done _)
        exact .pure ⟨some ruling,
          .spared clash permitted about (by simp [same]) (ruled left) kept.store kept.report⟩
      | unanswered =>
        have left := writtenDown (decided.warned (.interrupted file.id)) rfl rfl rfl rfl (.done _)
        obtain ⟨warnings, report⟩ := kept.report
        exact .modify_bind (.pure ⟨some ruling, .spared clash permitted about (by simp [same])
          (ruled left) kept.store ⟨_, by rw [report]⟩⟩)
      | overwrite =>
        have stored := (Contents.clash_of_namesake? clash).stored
        obtain ⟨warnings, report⟩ := kept.report
        refine (meets_detachOrDelete kept target stored).bind ?_ ?_
        · rintro _ removed ⟨_, method, wrote, drift⟩
          refine .tally_bind (.pure ⟨some ruling, .evicted clash permitted about same (ruled ?_)
            wrote.store ⟨warnings, by simp [Desk.tallied, wrote.report, report]⟩⟩)
          exact writtenDown _ wrote.interactive wrote.remembered (by simp [Desk.tallied, wrote.report])
            (by simp [Desk.tallied, wrote.report]) (.of_drift drift)
        · exact fun error after missed => (missed.reason_of_reliable reliable).elim
    · rintro error after missed
      have denied := missed.reason_of_reliable reliable
      obtain ⟨extra, glanced, _⟩ := missed
      exact ⟨none, .denied glanced clash denied.1⟩

theorem rules_makeRoom (reliable : setup.Reliable) (glanced : first.Glanced setup.faults desk extra)
    {file : File} {target : EntityId} {destination : Listing} {except : Option EntityId}
    (found : first.world.store.contents.listing? target = some destination) :
    (makeRoom setup.host file destination target except).Meets desk fun result after =>
      ∃ ruling, first.RulesOn setup (first.world.store.collision? file target except) ruling after ∧
        (result = .ok true → ∀ r, ruling = some r → r.verdict = .overwrite) := by
  refine (admits_makeRoom reliable glanced found).mono ?_
  rintro result after ⟨ruling, admits⟩
  refine ⟨ruling, admits.rules, ?_⟩
  rintro rfl
  exact admits.goes

/-- What becomes of the file once there is room is no longer about the collision. -/
theorem rules_enter (reliable : setup.Reliable) (glanced : first.Glanced setup.faults desk extra)
    {file : File} {target : EntityId} {destination : Listing} {except : Option EntityId}
    (found : first.world.store.contents.listing? target = some destination)
    {next : Action (Cabinet τ) Unit} (calm : Links (Calm setup) next) :
    (makeRoom setup.host file destination target except >>= fun free =>
      if free then next else pure ()).Meets desk fun _ after =>
        ∃ ruling, first.RulesOn setup (first.world.store.collision? file target except) ruling
          after := by
  refine (rules_makeRoom reliable glanced found).bind ?_ ?_
  · rintro free roomed ⟨ruling, rules, goesOn⟩
    cases free with
    | false => exact .pure ⟨ruling, rules⟩
    | true => exact (calm roomed).mono fun _ _ calm => ⟨ruling, rules.calmly calm (goesOn rfl)⟩
  · rintro _ _ ⟨ruling, rules, _⟩
    exact ⟨ruling, rules⟩

theorem moves_moveFile (reliable : setup.Reliable) (id : EntityId) (source : Option EntityId)
    (target : EntityId) : (moveFile setup.host id source target).Meets desk fun result after =>
      ∃ ruling, desk.Moves setup id source target result ruling after := by
  unfold moveFile
  refine .glance_surely reliable (.refl desk) (looks_file setup _ id) ?_
  intro between extra glanced
  cases stored : desk.world.store.contents.file? id with
  | none => exact .pure ⟨none, .stays glanced (.inl stored)⟩
  | some file =>
    dsimp only
    -- Each check on the way is one of the conditions for a collision.
    split
    next same => exact .pure ⟨none, .stays glanced (.inr same)⟩
    next elsewhere =>
      refine (meets_permit glanced .edit id).bind ?_ ?_
      · rintro _ asked ⟨permitted, extra, glanced⟩
        refine .glance_surely reliable glanced (looks_folder setup _ target) ?_
        intro found extra glanced
        split
        next gone =>
          have missing := Contents.listing?_eq_none_iff.mp gone
          exact .throw ⟨none, .refused glanced (by simp [Errand.collision?, stored, missing])⟩
        next destination listed =>
          have there := (Contents.listing?_eq_some_iff.mp listed).1
          have met : (Errand.move id source target).collision? desk.world.store =
              desk.world.store.collision? file target (some id) := by
            simp [Errand.collision?, stored, elsewhere, permitted, there]
          refine (admits_makeRoom reliable glanced listed).bind ?_ ?_
          · rintro free roomed ⟨ruling, admits⟩
            cases free with
            | false => exact .pure ⟨ruling, .spared met admits⟩
            | true =>
              refine (meets_relist file source target).mono fun result after relisted => ?_
              cases result with
              | ok _ => exact ⟨ruling, .entered elsewhere stored met admits relisted⟩
              | error error => exact (relisted.reason_of_reliable reliable).elim
          · rintro error after ⟨ruling, admits⟩
            cases admits with
            | denied glanced found denied =>
              refine ⟨none, .refused glanced ?_⟩
              rw [met, MemoryStore.collision?, found]
              simp [denied]
      · rintro error after missed
        have denied := missed.reason_of_reliable reliable
        obtain ⟨extra, glanced, _⟩ := missed
        exact ⟨none, .refused glanced (by simp [Errand.collision?, stored, denied.1])⟩

theorem rules_moveFile (reliable : setup.Reliable) (id : EntityId) (source : Option EntityId)
    (target : EntityId) : (moveFile setup.host id source target).Meets desk fun _ after =>
      ∃ ruling, desk.RulesOn setup ((Errand.move id source target).collision? desk.world.store) ruling
        after :=
  (moves_moveFile reliable id source target).mono fun _ _ ⟨ruling, moves⟩ => ⟨ruling, moves.rules⟩

theorem rules_copyFile (reliable : setup.Reliable) (id target : EntityId) :
    (copyFile setup.host id target).Meets desk fun _ after =>
      ∃ ruling, desk.RulesOn setup ((Errand.copy id target).collision? desk.world.store) ruling
        after := by
  refine .copyFile ?_ ?_ ?_
  · intro after extra glanced stays
    rw [Errand.collision?_copy_of_not fun file stored => .inl (stays file stored)]
    exact ⟨none, .of_calm glanced.calm⟩
  · intro error after missed
    have gone := missed.reason_of_reliable reliable
    obtain ⟨extra, glanced, _⟩ := missed
    rw [Errand.collision?_copy_of_not fun _ _ => .inr gone.1]
    exact ⟨none, .of_calm glanced.calm⟩
  · rintro file destination between extra stored rfl absent opened glanced
    rw [Errand.collision?_copy stored absent (Contents.listing?_eq_some_iff.mp opened).1]
    exact rules_enter reliable glanced opened
      ((composes_calm setup).puts.createFile file target.drive.text file.id.name.text file.name
        (some target))

end Action

/-- One file on its way meets the collision that can be told from what is stored. -/
theorem Errand.meets_run {setup : Setup τ} {desk : Desk (Cabinet τ)} (reliable : setup.Reliable)
    (errand : Errand) : (errand.run setup.host).Meets desk fun _ after =>
      ∃ ruling, desk.RulesOn setup (errand.collision? desk.world.store) ruling after := by
  cases errand with
  | move id source target => exact Action.rules_moveFile reliable id source target
  | copy id target => exact Action.rules_copyFile reliable id target

end Filing
