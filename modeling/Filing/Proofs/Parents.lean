import Filing.Proofs.Contents

/-!
# The folders that list a file

What reparenting a file and taking it out of a folder do to its parents, and to everything else that
is stored.
-/
namespace Filing

namespace File

variable {file : File} {parent target x : EntityId} {source : Option EntityId}

theorem isElsewhere_iff : file.isElsewhere parent = true ↔ ∃ p ∈ file.parents, p ≠ parent := by
  simp [isElsewhere, IdSet.mem_def]

theorem isElsewhere_eq_false_iff :
    file.isElsewhere parent = false ↔ ∀ p ∈ file.parents, p = parent := by
  simp [isElsewhere, IdSet.mem_def]

theorem mem_parents_reparent :
    x ∈ (file.reparent source target).1.parents ↔
      x = target ∨ x ∈ file.parents ∧ source ≠ some x := by
  cases source with
  | none => simp [reparent]
  | some source => simp [reparent, and_comm, eq_comm]

/-- There is nothing to save if the target is listed and no parent was to be taken out. -/
theorem reparent_flag_eq_false_iff : (file.reparent source target).2 = false ↔
    target ∈ file.parents ∧ ∀ p ∈ file.parents, source ≠ some p := by
  have has_iff {s : IdSet} {x : EntityId} : s.has x = true ↔ x ∈ s := by
    simp [Catalogue.has_eq_true_iff, IdSet.mem_def]
  simp only [reparent, Bool.or_eq_false_iff, Bool.not_eq_false']
  cases source with
  | none => simp [has_iff]
  | some source =>
    simp only [Option.any_some, ← Bool.not_eq_true, has_iff, IdSet.mem_erase]
    constructor
    · rintro ⟨absent, _, listed⟩
      refine ⟨listed, ?_⟩
      rintro p here ⟨⟩
      exact absent here
    · rintro ⟨listed, kept⟩
      exact ⟨fun here => kept source here rfl, fun same => kept target listed (same ▸ rfl), listed⟩

/-- The parents stay as they are if the target is among them and nothing else was to be taken out. -/
theorem parents_reparent_eq_iff : (file.reparent source target).1.parents = file.parents ↔
    target ∈ file.parents ∧ ∀ p ∈ file.parents, source = some p → p = target := by
  constructor
  · intro same
    have listed (x : EntityId) : x ∈ file.parents ↔ x = target ∨ x ∈ file.parents ∧ source ≠ some x := by
      rw [← mem_parents_reparent, same]
    refine ⟨(listed target).mpr (.inl rfl), fun p here goes => ?_⟩
    rcases (listed p).mp here with arrives | ⟨_, stays⟩
    · exact arrives
    · exact absurd goes stays
  · rintro ⟨listed, only⟩
    refine IdSet.ext fun x => mem_parents_reparent.trans ⟨?_, fun here => ?_⟩
    · rintro (rfl | ⟨here, _⟩)
      · exact listed
      · exact here
    · by_cases goes : source = some x
      · exact .inl (only x here goes)
      · exact .inr ⟨here, goes⟩

/-- A file that is where it should be has nothing to save. -/
theorem reparent_unchanged (listed : target ∈ file.parents)
    (left : ∀ p, source = some p → p ∉ file.parents) : (file.reparent source target).2 = false :=
  reparent_flag_eq_false_iff.mpr ⟨listed, fun p here goes => left p goes here⟩

/-- Nothing to save means that nothing changed. -/
theorem reparent_of_unchanged (unchanged : (file.reparent source target).2 = false) :
    (file.reparent source target).1 = file := by
  obtain ⟨listed, kept⟩ := reparent_flag_eq_false_iff.mp unchanged
  have same : (file.reparent source target).1.parents = file.parents :=
    parents_reparent_eq_iff.mpr ⟨listed, fun p here goes => absurd goes (kept p here)⟩
  have rest : (file.reparent source target).1 =
      { file with parents := (file.reparent source target).1.parents } := rfl
  rw [rest, same]

/-- Something is saved if the parents change, and also if a parent is put in again that was taken out. -/
theorem reparent_flag_iff : (file.reparent source target).2 = true ↔
    (file.reparent source target).1.parents ≠ file.parents ∨
      source = some target ∧ target ∈ file.parents := by
  cases flag : (file.reparent source target).2 with
  | false =>
    have same := congrArg File.parents (reparent_of_unchanged flag)
    have kept := (reparent_flag_eq_false_iff.mp flag).2
    simp only [Bool.false_eq_true, same, ne_eq, not_true_eq_false, false_or, false_iff, not_and]
    exact fun goes listed => kept target listed goes
  | true =>
    refine iff_of_true rfl ?_
    -- If the parents are the same, what was taken out can only have been the target.
    by_cases same : (file.reparent source target).1.parents = file.parents
    · obtain ⟨listed, only⟩ := parents_reparent_eq_iff.mp same
      refine .inr ⟨Decidable.byContradiction fun elsewhere => ?_, listed⟩
      have unchanged := reparent_flag_eq_false_iff.mpr
        ⟨listed, fun p here goes => elsewhere (only p here goes ▸ goes)⟩
      cases flag.symm.trans unchanged
    · exact .inl same

end File

/-- Takes `file` out of `parent`: it is deleted if nothing else lists it. -/
def MemoryStore.takeOut (s : MemoryStore) (file : File) (parent : EntityId) : MemoryStore :=
  if file.isElsewhere parent then
    s.save (.file { file with parents := file.parents.erase parent })
  else s.discard file.id

namespace MemoryStore

variable {s : MemoryStore} {file : File}

/-- Folders stay folders when a file is taken out of one of them. -/
theorem folder?_takeOut (stored : s.contents.file? file.id = some file) (parent id : EntityId) :
    (s.takeOut file parent).contents.folder? id = s.contents.folder? id := by
  have noFolder := Contents.folder?_eq_none_of_file? stored
  unfold takeOut
  split
  · by_cases same : file.id = id
    · simp [save, ← same, noFolder]
    · simp [save, same]
  · by_cases same : file.id = id
    · simp [discard, ← same, noFolder]
    · simp [discard, same]

theorem file?_takeOut (parent id : EntityId) :
    (s.takeOut file parent).contents.file? id =
      if file.id = id then
        if file.isElsewhere parent then some { file with parents := file.parents.erase parent }
        else none
      else s.contents.file? id := by
  unfold takeOut
  split <;> simp [save, discard]

end MemoryStore

end Filing
