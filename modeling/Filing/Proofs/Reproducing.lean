import Filing.Proofs.Duplicating
import Filing.Proofs.Joining

/-!
# Copying one folder

The request that copies a folder makes a new one that looks like it, or completes the one that has its
name, and adds nothing anywhere else (`Request.copy_exact`).
-/
namespace Filing

open Contents

variable {τ : Type} {setup : Setup τ}

namespace Contents

/-- `copy` is new and looks like `source`, and all else that is new lies below it. -/
structure Duplicated (c c' : Contents) (source : EntityId) (copy : Folder) : Prop where
  fresh : c.has copy.id = false
  stored : c'.folder? copy.id = some copy
  outline : c'.outline copy.id = c.outline source
  same : c'.outline source = c.outline source
  grown : Grown c c' copy.id

/-- `target` was given all that `source` has and `target` had no place taken for. -/
structure Completed (c c' : Contents) (source target : EntityId) : Prop where
  outline : c'.outline target = c.outline target ∪
    {seen ∈ c.outline source | ¬ c.Occupied target (heading seen)}
  same : c'.outline source = c.outline source
  grown : Grown c c' target

variable {c c' : Contents} {source target there : EntityId} {folder copy : Folder}

theorem Filled.completed (filled : Filled c c' source target) (wf : c.WellFormed)
    (beside : Beside c source target) : Completed c c' source target where
  outline := by
    ext seen
    simpa using filled.into seen
  same := filled.outline_source wf beside
  grown := filled.grown

/-- A folder has everything that it has. -/
theorem Completed.refl (c : Contents) (id : EntityId) : Completed c c id id where
  outline := by
    ext seen
    simp only [Set.mem_union, Set.mem_sep_iff, iff_self_or]
    rintro ⟨here, free⟩
    exact absurd (Occupied.of_mem here) free
  same := rfl
  grown := .refl c id

/-- A new folder has no place taken, so all of `source` is in it. -/
theorem Filled.duplicated (filled : Filled (c.insert (.folder copy)) c' source copy.id)
    (unused : c.has copy.id = false) (tidy : c.Tidy) (stored : source ∈ c.folders)
    (place : ∀ parent, copy.parent = some parent → parent ∈ c.folders ∧
      c.FreeFolderName copy.name parent none ∧ ¬ c.Below parent source) :
    Duplicated c c' source copy := by
  have wf := tidy.wellFormed
  have elsewhere : copy.parent ≠ some copy.id := by
    intro up
    obtain ⟨f, there⟩ := (place _ up).1
    simp [folder?_eq_none_of_unused unused] at there
  have tidy' : Tidy (c.insert (.folder copy)) := by
    refine tidy.insert_folder unused fun parent up => ?_
    obtain ⟨there, free, _⟩ := place parent up
    exact ⟨there, free⟩
  have beside : Beside (c.insert (.folder copy)) source copy.id := by
    refine beside_insert_folder wf unused stored fun parent up => ?_
    obtain ⟨there, _, away⟩ := place parent up
    exact ⟨there, away⟩
  have empty := outline_insert_folder_self unused wf elsewhere
  have kept : outline (c.insert (.folder copy)) source = c.outline source :=
    outline_insert_folder unused fun parent up => (place parent up).2.2
  have made : Grown c (c.insert (.folder copy)) copy.id := grown_insert_folder unused (.inl rfl)
  refine ⟨unused, filled.grown.folder (by simp), ?_, ?_, made.trans filled.grown⟩
  · ext seen
    -- In the new folder only the folder itself is taken.
    have taken : Occupied (c.insert (.folder copy)) copy.id (heading seen) ↔ seen = ([], none) := by
      obtain ⟨path, found⟩ := seen
      simp [Occupied, empty, heading, eq_comm]
    rw [filled.into, kept, empty, taken]
    constructor
    · rintro (here | ⟨here, _⟩)
      · rw [here]
        exact mem_outline_self c source
      · exact here
    · intro here
      by_cases top : seen = ([], none)
      · exact .inl top
      · exact .inr ⟨here, trivial, top⟩
  · rw [filled.outline_source tidy'.wellFormed beside, kept]

end Contents

namespace Request

theorem cleanly_copying (depth : Nat) (folder target : EntityId) :
    Action.Cleanly (.quietCopy .bulk)
      (workAll setup.host depth .copy .bulk (taking folder (.ofFolder target))) fun s _ s' =>
        s.contents.Tidy → ∀ record, record.id = folder →
          s.contents.folder? record.id = some record →
            s.contents.CopiedInto record target s'.contents :=
  .inLevel (.workOff_one (Action.cleanly_copyFolder .bulk depth folder target))

theorem cleanly_copyingAs (depth : Nat) (folder : EntityId) (place : Option EntityId)
    (desired : EntityId) :
    Action.Cleanly (.quietCopy .single)
      (workAll setup.host depth .copy .single (taking folder ⟨place, some desired⟩)) fun s _ s' =>
        s.contents.Tidy → ∀ record, record.id = folder →
          s.contents.folder? folder = some record →
            ∃ id, Duplicated s.contents s'.contents folder
              ⟨id, desired.name.text, place <|> record.parent⟩ := by
  refine .inLevel (.workOff_one ?_)
  refine (Action.cleanly_copyFolderAs .single depth folder place desired).mono ?_
  rintro s _ s' reached tidy record rfl stored
  obtain ⟨id, unused, place, filled⟩ := reached tidy record stored
  exact ⟨id, Filled.duplicated filled unused tidy ⟨record, stored⟩ place⟩

/-- What all work on a request comes to cleanly has come of a request with a clean report. -/
theorem reached_of_ran {rules : Rules} {depth : Nat} {request : Request}
    {goal : MemoryStore → Unit → MemoryStore → Prop} {cabinet after : Cabinet τ} {report : Report}
    (cleanly : Action.Cleanly rules (workAll setup.host depth rules.operation rules.mode request) goal)
    (traces : Action.Traces rules (workAll setup.host depth rules.operation rules.mode request))
    (interactive : request.interactive = rules.interactive)
    (mode : request.modeIn cabinet.store.contents = rules.mode)
    (ran : request.classifyAndRun setup.host depth rules.operation cabinet = some (.ok report, after))
    (whole : report.cancelled = false) (unfailing : report.failures = []) :
    goal cabinet.store () after.store := by
  rcases classifyAndRun_cases ran with ⟨_, _, ⟨⟩, _⟩ | ⟨between, _, _, ⟨⟩, same, _, _, ran⟩
  rw [mode] at ran
  obtain ⟨result, desk, worked, rfl, rfl⟩ := work_of_run ran
  have start : (request.desk rules.operation rules.mode between).rules = rules := by
    change ⟨rules.operation, rules.mode, request.interactive⟩ = rules
    rw [interactive]
  -- Nothing had failed by the end, under the rules that held at the start.
  have clean : desk.Clean rules :=
    ⟨(traces _ start _ desk worked).rules.trans start, unfailing, whole⟩
  have ended := meets_workAll _ result desk worked
  rw [← same]
  exact (cleanly _ _ desk worked clean).2 () ended

theorem copy_exact (cabinet : Cabinet τ) (tidy : cabinet.store.contents.Tidy) (folder : Folder)
    (stored : cabinet.store.contents.folder? folder.id = some folder) :
    (∀ depth place desired report after,
      copy setup.host depth (taking folder.id ⟨place, some desired⟩) cabinet =
        some (.ok report, after) →
      report.cancelled = false → report.failures = [] →
      ∃ id, Duplicated cabinet.store.contents after.store.contents folder.id
        ⟨id, desired.name.text, place <|> folder.parent⟩) ∧
    ∀ depth target report after,
      copy setup.host depth (taking folder.id (.ofFolder target)) cabinet = some (.ok report, after) →
      report.cancelled = false → report.failures = [] →
      (target ∈ cabinet.store.contents.folders → folder.parent ≠ some target →
        (∀ there, ¬ cabinet.store.contents.Child target folder.name there) →
        ∃ id, Duplicated cabinet.store.contents after.store.contents folder.id
          ⟨id, folder.name, some target⟩) ∧
      ∀ there, cabinet.store.contents.Child target folder.name there →
        there = folder.id ∨ ¬ cabinet.store.contents.Below folder.id there →
        Completed cabinet.store.contents after.store.contents folder.id there := by
  constructor
  · intro depth place desired report after ran whole unfailing
    have traces : Action.Traces (.quietCopy .single)
        (workAll setup.host depth .copy .single (taking folder.id ⟨place, some desired⟩)) :=
      traces_workAll depth (taking folder.id ⟨place, some desired⟩) (by rintro ⟨⟩)
    exact reached_of_ran (cleanly_copyingAs depth folder.id place desired) traces rfl
      (modeIn_of_leaf rfl rfl _) ran whole unfailing tidy folder rfl stored
  · intro depth target report after ran whole unfailing
    have traces : Action.Traces (.quietCopy .bulk)
        (workAll setup.host depth .copy .bulk (taking folder.id (.ofFolder target))) :=
      traces_workAll depth (taking folder.id (.ofFolder target)) (by rintro ⟨⟩)
    have copied (destination : target ∈ cabinet.store.contents.folders) :
        cabinet.store.contents.CopiedInto folder target after.store.contents := by
      have mode : (taking folder.id (.ofFolder target)).modeIn cabinet.store.contents = .bulk := by
        obtain ⟨record, found⟩ := destination
        simp [modeIn, taking, Path.ofFolder, found]
      exact reached_of_ran (cleanly_copying depth folder.id target) traces rfl mode ran whole
        unfailing tidy folder rfl stored
    constructor
    -- Where no folder has the name, the copy is a new one.
    · intro destination elsewhere free
      cases copied destination with
      | stays there _ => exact absurd there elsewhere
      | copied elsewhere away copied =>
        have fits : cabinet.store.contents.Fits folder target :=
          ⟨stored, destination, away, elsewhere, fun there inside => absurd inside (free there)⟩
        cases copied fits with
        | anew unused vacant filled =>
          refine ⟨_, Filled.duplicated filled unused tidy ⟨folder, stored⟩ ?_⟩
          rintro _ ⟨⟩
          exact ⟨destination, vacant, away⟩
        | filled inside _ => exact absurd inside (free _)
    · intro there inside notUnder
      have destination : target ∈ cabinet.store.contents.folders :=
        tidy.wellFormed.stored_of_inside inside.inside
      cases copied destination with
      | stays up same =>
        -- The folder that has the name is the one that was to be copied.
        cases inside.unique tidy.distinct ⟨folder, stored, up, rfl⟩
        rw [same]
        exact .refl _ _
      | copied elsewhere away copied =>
        -- A folder that lies elsewhere is not the child that has its name here.
        have apart : ¬ cabinet.store.contents.Below folder.id there := by
          rcases notUnder with rfl | notUnder
          · obtain ⟨f, found, up, _⟩ := inside
            cases stored.symm.trans found
            exact absurd up elsewhere
          · exact notUnder
        have fits : cabinet.store.contents.Fits folder target :=
          ⟨stored, destination, away, elsewhere, fun other inside' =>
            inside.unique tidy.distinct inside' ▸ apart⟩
        cases copied fits with
        | anew unused free _ =>
          obtain ⟨f, found, up, same⟩ := inside
          exact absurd same (free found up (by simp))
        | filled inside' filled =>
          cases inside.unique tidy.distinct inside'
          exact filled.completed tidy.wellFormed (fits.beside inside)

end Request

open Sample in
theorem Request.copy_exact_nest :
    (∃ report after id, copy Setup.quiet.host 9 (taking note ⟨some docs, some memo⟩) ⟨nest, (), []⟩ =
        some (.ok report, after) ∧
      Duplicated nest.contents after.store.contents note ⟨id, "memo", some docs⟩) ∧
    ∃ report after, copy Setup.quiet.host 9 (taking note (.ofFolder docs)) ⟨nest, (), []⟩ =
        some (.ok report, after) ∧
      Completed nest.contents after.store.contents note inner := by
  have docsStored : nest.contents.folder? docs = some ⟨docs, "docs", none⟩ := by decide
  have noteStored : nest.contents.folder? note = some ⟨note, "note", none⟩ := by decide
  have away : ¬ nest.contents.Below docs note := fun below =>
    absurd (eq_of_below_top docsStored rfl below) (by decide)
  have notUnder : ¬ nest.contents.Below note inner := fun below =>
    absurd (eq_of_below_top noteStored rfl below) (by decide)
  have clean (destination : Path) (ran : ((copy Setup.quiet.host 9 (taking note destination)
      ⟨nest, (), []⟩).bind fun outcome => outcome.1.toOption.map fun report =>
        (report.cancelled, report.failures)) = some (false, [])) :
      ∃ report after, copy Setup.quiet.host 9 (taking note destination) ⟨nest, (), []⟩ =
        some (.ok report, after) ∧ report.cancelled = false ∧ report.failures = [] := by
    obtain ⟨⟨result, after⟩, ran, told⟩ := Option.bind_eq_some_iff.mp ran
    cases result with
    | error _ => cases told
    | ok report =>
      simp only [Except.toOption, Option.map_some, Option.some.injEq, Prod.mk.injEq] at told
      exact ⟨report, after, ran, told⟩
  obtain ⟨anew, into⟩ := copy_exact ⟨nest, (), []⟩ nest_tidy ⟨note, "note", none⟩ noteStored
  constructor
  · obtain ⟨report, after, ran, whole, unfailing⟩ := clean ⟨some docs, some memo⟩ (by decide +kernel)
    obtain ⟨id, duplicated⟩ := anew 9 (some docs) memo report after ran whole unfailing
    exact ⟨report, after, id, ran, duplicated⟩
  · obtain ⟨report, after, ran, whole, unfailing⟩ := clean (.ofFolder docs) (by decide +kernel)
    have went := (into 9 docs report after ran whole unfailing).2 inner
      ⟨⟨inner, "note", some docs⟩, by decide, rfl, rfl⟩
    exact ⟨report, after, ran, went (.inr notUnder)⟩

end Filing
