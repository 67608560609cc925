import Filing.Proofs.Integrity
import Filing.Proofs.Unhindered

/-!
# Moving one folder into another

The request that moves a folder is worked off without a failure if nothing is in the way, and then
the folder is in the destination as it was, or together with the one that had its name there
(`Request.move_exact`).
-/
namespace Filing

open Contents

variable {τ : Type} {setup : Setup τ}

namespace Contents

/-- Nothing is new, and nothing but places has changed. -/
structure Rearranged (c c' : Contents) : Prop where
  files : ∀ id, (c'.file? id).map (fun file => (file.name, file.content)) =
    (c.file? id).map fun file => (file.name, file.content)
  folders : ∀ {id folder}, c'.folder? id = some folder →
    ∃ before, c.folder? id = some before ∧ before.name = folder.name

/-- All of `source` that found room went over to `target`, and the rest stayed. -/
structure Combined (c c' : Contents) (source target : EntityId) : Prop where
  into : c'.view target = c.view target ∪ {seen ∈ c.view source | ¬ c.Taken target seen}
  left : c'.view source = {seen ∈ c.view source | c.Taken target seen}
  gone_iff : c'.folder? source = none ↔ c'.view source = ∅
  stays : c'.folder? source = none ∨ c'.folder? source = c.folder? source
  kept : ∀ y, ¬ c.Below y source → c'.folder? y = c.folder? y
  outside : ∀ y, ¬ c.Below y source → ¬ c.Below y target → Alike c c' (some source) y

variable {c c' c'' : Contents} {source target : EntityId}

theorem Rearranged.refl (c : Contents) : Rearranged c c :=
  ⟨fun _ => rfl, fun {_ folder} found => ⟨folder, found, rfl⟩⟩

theorem Rearranged.trans (first : Rearranged c c') (second : Rearranged c' c'') :
    Rearranged c c'' where
  files id := (second.files id).trans (first.files id)
  folders found := by
    obtain ⟨between, found, same⟩ := second.folders found
    obtain ⟨before, found, same'⟩ := first.folders found
    exact ⟨before, found, same'.trans same⟩

theorem Rearranged.insert_folder {folder : Folder} (stored : c.folder? folder.id = some folder)
    (parent : Option EntityId) : Rearranged c (c.insert (.folder { folder with parent })) := by
  constructor
  · intro id
    by_cases here : folder.id = id
    · subst here
      simp [file?_eq_none_of_folder? stored]
    · simp [here]
  · intro id other found
    by_cases here : folder.id = id
    · subst here
      simp only [folder?_insert_folder, ↓reduceIte, Option.some.injEq] at found
      exact ⟨folder, stored, by rw [← found]⟩
    · exact ⟨other, by simpa [here] using found, rfl⟩

theorem Rearranged.insert_file {file : File} (stored : c.file? file.id = some file)
    (parents : IdSet) : Rearranged c (c.insert (.file { file with parents })) := by
  constructor
  · intro id
    by_cases here : file.id = id
    · subst here
      simp [stored]
    · simp [here]
  · intro id folder found
    have noFolder : ¬ file.id = id := by
      rintro rfl
      simp at found
    exact ⟨folder, by simpa [noFolder] using found, rfl⟩

theorem Merged.combined (merged : Merged c c' source target) : Combined c c' source target := by
  have left : c'.view source = {seen ∈ c.view source | c.Taken target seen} := by
    ext seen
    simpa using merged.absorbs.left seen
  refine ⟨?_, left, ?_, merged.stays, merged.kept, merged.outside⟩
  · ext seen
    simpa using merged.absorbs.into seen
  · rw [merged.gone_iff, left, Set.eq_empty_iff_forall_notMem]
    simp

variable {folder : Folder} {there : EntityId}

theorem Arrived.eq_reparented (arrived : Arrived c folder target c')
    (free : ∀ there, ¬ c.Child target folder.name there) : c' = c.reparented folder target := by
  cases arrived with
  | whole _ => rfl
  | merged inside _ => exact absurd inside (free _)

theorem Arrived.merged_of_child (arrived : Arrived c folder target c') (distinct : c.DistinctNames)
    (stored : c.folder? folder.id = some folder) (elsewhere : folder.parent ≠ some target)
    (inside : c.Child target folder.name there) : Merged c c' folder.id there := by
  cases arrived with
  | whole free =>
    obtain ⟨other, found, up, same⟩ := inside
    refine absurd same (free found up ?_)
    rintro ⟨⟩
    cases stored.symm.trans found
    exact elsewhere up
  | merged inside' merged =>
    cases inside.unique distinct inside'
    exact merged

end Contents

/-- A step of a quiet move changes nothing but places. -/
theorem Step.rearranged {before after : Stage} (step : Step .quietMove before after) :
    Rearranged before.store.contents after.store.contents := by
  cases step with
  | relist _ _ relists _ => exact Rearranged.insert_file relists.stored _
  | reparent _ _ reparents _ => exact Rearranged.insert_folder reparents.stored _
  | merge _ => exact .refl _
  | @dissolve _ _ gone _ _ dissolves =>
    obtain ⟨folder, stored⟩ := dissolves.stored
    constructor
    · intro id
      by_cases here : gone = id
      · subst here
        simp [MemoryStore.discard, file?_eq_none_of_folder? stored]
      · simp [MemoryStore.discard, here]
    · intro id other found
      exact ⟨other, (folder?_erase_eq_some_iff.mp found).2, rfl⟩
  -- Nobody is asked here, and everything else is no part of a move into a folder.
  | evict _ displaces => cases displaces.asked
  | displace _ _ displaces _ => cases displaces.asked
  | relocateFolder _ single _ => cases single
  | relocateFile _ single _ => cases single
  | relabelFile _ single _ _ _ => cases single
  | retitleFile _ single _ => cases single
  | createFolder copy _ _ => cases copy
  | createFile copy _ _ _ => cases copy
  | replace copy _ _ => cases copy
  | deleteFolder delete _ => cases delete
  | takeOut delete _ _ _ => cases delete
  | deleteFile delete _ _ => cases delete

theorem Steps.rearranged {before after : Stage} (steps : Steps .quietMove before after) :
    Rearranged before.store.contents after.store.contents := by
  induction steps with
  | refl => exact .refl _
  | tail _ step ih => exact ih.trans step.rearranged

namespace Request

variable {desk : Desk (Cabinet τ)} {folder target : EntityId}

theorem cleanly_moving (depth : Nat) (folder target : EntityId) :
    Action.Cleanly .quietMove (workAll setup.host depth .move .bulk (taking folder (.ofFolder target)))
      fun s _ s' => s.contents.Tidy → ∀ record, record.id = folder →
        s.contents.Fits record target → s.contents.Arrived record target s'.contents :=
  .inLevel (.workOff_one (Action.cleanly_moveFolder depth folder target))

theorem ends_moving (reliable : setup.Reliable) (depth : Nat) (opened : desk.Open)
    (destination : target ∈ desk.world.store.contents.folders)
    (away : ¬ desk.world.store.contents.Below target folder)
    (enough : 2 * desk.world.store.contents.folders.ncard < depth) :
    (workAll setup.host depth .move .bulk (taking folder (.ofFolder target))).Ends desk
      (desk.Glides [folder]) := by
  refine .inLevel_glides opened fun pushed looked => ?_
  have start := (looked.kept.glides opened []).opened opened
  refine (Action.Ends.turn setup.job.isCancelled).bind ?_ (by rintro _ _ ⟨⟨_, ⟨⟩⟩, _⟩)
  rintro cancelled asked ⟨_, looked'⟩
  have glides := looked'.kept.glides start []
  refine Action.Ends.mono ?_ fun _ _ => glides.trans
  split
  -- A cancelled move leaves everything as it is.
  · refine ⟨⟨_, rfl⟩, .modify ?_⟩
    refine .of_same (glides.opened start) ?_ ?_ ?_ [folder] <;> rfl
  · have same : asked.world.store = desk.world.store := looked'.store.trans looked.store
    have now := glides.opened start
    have fewer := Set.ncard_le_ncard (beneath_subset_folders desk.world.store.contents folder)
      (finite_folders _)
    have ends : (Action.moveFolder setup.host depth folder target).Ends asked
        (asked.Glides [folder]) := by
      apply Action.ends_moveFolder reliable depth now
      · rwa [same]
      · rwa [same]
      · rw [same]
        omega
    refine (Action.Ends.item_glides now ends).bind (fun _ after glides => .pure ?_) ?_
    · exact glides
    · exact fun error after glides => glides

theorem move_exact (cabinet : Cabinet τ) (depth : Nat) (folder : Folder) (target : EntityId)
    (reliable : setup.Reliable) (permissive : cabinet.store.Permissive)
    (tidy : cabinet.store.contents.Tidy)
    (stored : cabinet.store.contents.folder? folder.id = some folder)
    (destination : target ∈ cabinet.store.contents.folders)
    (away : ¬ cabinet.store.contents.Below target folder.id)
    (elsewhere : folder.parent ≠ some target)
    (enough : 2 * cabinet.store.contents.folders.ncard < depth) :
    ∃ report after, plan setup.host depth (taking folder.id (.ofFolder target)) cabinet =
        some (.ok report, after) ∧
      report.failures = [] ∧
      (report.cancelled = false →
        Rearranged cabinet.store.contents after.store.contents ∧
        ((∀ there, ¬ cabinet.store.contents.Child target folder.name there) →
          after.store.contents = cabinet.store.contents.reparented folder target ∧
          after.store.contents.view folder.id = cabinet.store.contents.view folder.id) ∧
        ∀ there, cabinet.store.contents.Child target folder.name there →
          ¬ cabinet.store.contents.Below folder.id there →
          Combined cabinet.store.contents after.store.contents folder.id there) := by
  have fits (away' : ∀ there, cabinet.store.contents.Child target folder.name there →
      ¬ cabinet.store.contents.Below folder.id there) :
      cabinet.store.contents.Fits folder target := ⟨stored, destination, away, elsewhere, away'⟩
  -- The first look at the destination changes nothing that is stored.
  obtain ⟨between, same, _, sorted⟩ :=
    classifyAndRun_eq reliable depth .move (taking folder.id (.ofFolder target)) cabinet
  rw [← same] at permissive tidy stored destination away enough fits sorted ⊢
  have mode : (taking folder.id (.ofFolder target)).modeIn between.store.contents = .bulk := by
    obtain ⟨record, found⟩ := destination
    simp [modeIn, taking, Path.ofFolder, found]
  have opened : ((taking folder.id (.ofFolder target)).desk .move .bulk between).Open :=
    ⟨rfl, permissive, tidy.wellFormed⟩
  obtain ⟨result, desk, worked, glides⟩ :=
    (ends_moving reliable depth opened destination away enough).outcome
  refine ⟨desk.report, desk.world, ?_, glides.failures, fun whole => ?_⟩
  · rw [plan, sorted, mode, run_eq, worked]
    rfl
  -- From here on it is known that nothing failed and nothing was left out.
  have clean : desk.Clean .quietMove := ⟨glides.rules, glides.failures, whole⟩
  have traces : Action.Traces .quietMove
      (workAll setup.host depth .move .bulk (taking folder.id (.ofFolder target))) :=
    traces_workAll depth (taking folder.id (.ofFolder target)) (by rintro _ ⟨⟩)
  have steps := (traces _ rfl _ desk worked).steps
  obtain ⟨_, arrives⟩ := cleanly_moving depth folder.id target _ _ desk worked clean
  have arrived := arrives () glides.ended tidy folder rfl
  refine ⟨steps.rearranged, fun free => ?_, fun there inside notUnder => ?_⟩
  · have whole := (arrived (fits fun there inside => absurd inside (free there))).eq_reparented free
    refine ⟨whole, ?_⟩
    rw [whole]
    exact view_reparented stored away fun parent up => tidy.wellFormed.loopFree.not_below_of_inside up
  · refine Merged.combined ((arrived (fits ?_)).merged_of_child tidy.distinct stored elsewhere inside)
    intro other inside'
    cases inside.unique tidy.distinct inside'
    exact notUnder

end Request

namespace Sample

def inner : EntityId := ⟨drive, ⟨"inner", by decide⟩⟩

def memo : EntityId := ⟨drive, ⟨"memo", by decide⟩⟩

/-- Two folders beside each other, and in one of them a folder that has the name of the other. -/
def nested : Contents :=
  .ofList [.folder ⟨docs, "docs", none⟩, .folder ⟨note, "note", none⟩, .folder ⟨inner, "note", some docs⟩]

/-- The same, with a file in one of them. -/
def nest : MemoryStore :=
  { apart with contents := nested.insert (.file ⟨memo, "memo", [], .ofList [note]⟩) }

theorem folder?_nested (id : EntityId) : nested.folder? id =
    if id = inner then some ⟨inner, "note", some docs⟩
    else if id = note then some ⟨note, "note", none⟩
    else if id = docs then some ⟨docs, "docs", none⟩ else none := by
  simp only [nested, Catalogue.ofList, List.foldl_cons, List.foldl_nil]
  rw [folder?_insert_folder, folder?_insert_folder, folder?_insert_folder]
  have nothing : folder? Catalogue.empty id = none := rfl
  simp only [nothing, eq_comm]

theorem nested_wellFormed : nested.WellFormed := by
  refine WellFormed.insert_unused apart_wellFormed (by decide) ?_
  rintro _ ⟨⟩
  exact ⟨⟨docs, "docs", none⟩, by decide⟩

theorem nest_tidy : nest.contents.Tidy := by
  have noFile (id : EntityId) : nested.file? id = none := by
    simp only [nested, Catalogue.ofList, List.foldl_cons, List.foldl_nil, file?_insert_folder]
    simp [file?, Catalogue.find?, Catalogue.empty]
  -- Only the inner folder has a parent, so it has no siblings.
  have only {id parent : EntityId} {f : Folder} (found : nested.folder? id = some f)
      (up : f.parent = some parent) : id = inner := by
    rw [folder?_nested] at found
    split at found
    next here => exact here
    next =>
      split at found
      · cases found
        cases up
      · split at found
        · cases found
          cases up
        · cases found
  refine ⟨nested_wellFormed.insert_file (by decide) ?_, DistinctNames.insert_file ⟨?_, ?_⟩ ?_⟩
  · intro parent listed
    have here : parent = note := by
      simpa [Catalogue.ofList, Catalogue.empty, Catalogue.insert, Catalogue.place, IdSet.mem_def]
        using listed
    exact ⟨⟨note, "note", none⟩, by rw [here]; decide⟩
  · intro a b parent f g foundA foundB insideA insideB _
    exact (only foundA insideA).trans (only foundB insideB).symm
  · intro a b parent f g foundA
    simp [noFile] at foundA
  · intro parent _ id file found
    simp [noFile] at found

theorem ncard_folders_nest : nest.contents.folders.ncard ≤ 3 := by
  have few : nest.contents.folders ⊆ ({inner, note, docs} : Finset EntityId) := by
    rintro id ⟨f, found⟩
    simp only [nest, folder?_insert_file, folder?_nested] at found
    by_contra other
    simp only [Finset.coe_insert, Finset.coe_singleton, Set.mem_insert_iff, Set.mem_singleton_iff,
      not_or] at other
    simp [other] at found
  have bound := Set.ncard_le_ncard few (Finset.finite_toSet _)
  rw [Set.ncard_coe_finset] at bound
  exact bound.trans (by decide)

theorem nest_permissive : nest.Permissive := by
  intro permission id
  cases permission with
  | edit => rfl
  | delete => rfl

end Sample

open Sample in
theorem Request.move_exact_nest : ∃ report after,
    plan Setup.quiet.host 9 (taking note (.ofFolder docs)) ⟨nest, (), []⟩ = some (.ok report, after) ∧
    report.failures = [] ∧ Combined nest.contents after.store.contents note inner := by
  have moved : ((plan Setup.quiet.host 9 (taking note (.ofFolder docs)) ⟨nest, (), []⟩).map
      fun outcome => outcome.1.toOption.map (·.cancelled)) = some (some false) := by decide +kernel
  have few := ncard_folders_nest
  have docsStored : nest.contents.folder? docs = some ⟨docs, "docs", none⟩ := by decide
  have noteStored : nest.contents.folder? note = some ⟨note, "note", none⟩ := by decide
  obtain ⟨report, after, ran, unfailing, went⟩ := move_exact ⟨nest, (), []⟩ 9 ⟨note, "note", none⟩ docs
    Setup.quiet_reliable nest_permissive nest_tidy noteStored ⟨_, docsStored⟩
    (fun below => absurd (eq_of_below_top docsStored rfl below) (by decide)) (by simp)
    (by simpa using by omega)
  simp only [ran, Option.map_some, Except.toOption, Option.some.injEq] at moved
  refine ⟨report, after, ran, unfailing,
    (went moved).2.2 inner ⟨⟨inner, "note", some docs⟩, by decide, rfl, rfl⟩ fun below => ?_⟩
  exact absurd (eq_of_below_top noteStored rfl below) (by decide)

end Filing
