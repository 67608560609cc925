import Filing.Proofs.Clearing
import Filing.Proofs.Outline

/-!
# Growing

Copying takes nothing away: what was stored stays as it is, and what is new lies below one folder
(`Contents.Grown`). So a folder that is neither above nor below that one looks as before
(`Grown.outline_eq`).
-/
namespace Filing.Contents

/-- All of `c` is still there, and all that is new lies below `root`. -/
structure Grown (c c' : Contents) (root : EntityId) : Prop where
  folder : ∀ {id f}, c.folder? id = some f → c'.folder? id = some f
  file : ∀ {id f}, c.file? id = some f → c'.file? id = some f
  newFolder : ∀ {id f}, c'.folder? id = some f → c.folder? id = none → c'.Below id root
  newFile : ∀ {id f}, c'.file? id = some f → c.file? id = none →
    ∃ parent, c'.Below parent root ∧ ∀ p, p ∈ f.parents ↔ p = parent

variable {c c' c'' : Contents} {id root y x w : EntityId} {name : String}

namespace Grown

theorem refl (c : Contents) (root : EntityId) : Grown c c root where
  folder found := found
  file found := found
  newFolder found fresh := by simp [found] at fresh
  newFile found fresh := by simp [found] at fresh

theorem inside (grown : Grown c c' root) (up : c.Inside y x) : c'.Inside y x := by
  obtain ⟨f, found, here⟩ := inside_iff.mp up
  exact inside_iff.mpr ⟨f, grown.folder found, here⟩

theorem below (grown : Grown c c' root) (below : c.Below y x) : c'.Below y x :=
  Relation.ReflTransGen.mono (fun _ _ up => grown.inside up) _ _ below

theorem trans (first : Grown c c' root) (second : Grown c' c'' root) : Grown c c'' root where
  folder found := second.folder (first.folder found)
  file found := second.file (first.file found)
  newFolder {id f} found fresh := by
    cases between : c'.folder? id with
    | none => exact second.newFolder found between
    | some g => exact second.below (first.newFolder between fresh)
  newFile {id f} found fresh := by
    cases between : c'.file? id with
    | none => exact second.newFile found between
    | some g =>
      cases found.symm.trans (second.file between)
      obtain ⟨parent, below, only⟩ := first.newFile between fresh
      exact ⟨parent, second.below below, only⟩

/-- What is below `root` is below what `root` is below. -/
theorem widen (grown : Grown c c' root) (up : c'.Below root x) : Grown c c' x where
  folder := grown.folder
  file := grown.file
  newFolder found fresh := (grown.newFolder found fresh).trans up
  newFile found fresh := by
    obtain ⟨parent, below, only⟩ := grown.newFile found fresh
    exact ⟨parent, below.trans up, only⟩

theorem mem_folders (grown : Grown c c' root) (stored : y ∈ c.folders) : y ∈ c'.folders := by
  obtain ⟨f, stored⟩ := stored
  exact ⟨f, grown.folder stored⟩

/-- What was stored goes up as before. -/
theorem below_iff (grown : Grown c c' root) (wf : c.WellFormed) (stored : y ∈ c.folders) :
    c'.Below y x ↔ c.Below y x :=
  below_congr fun _ above => parentOf_eq_of_kept wf.stored_of_inside grown.folder stored above

/-- Only what lies below `root` gets something new. -/
theorem unaltered (grown : Grown c c' root) (wf : c.WellFormed) (rooted : root ∈ c.folders)
    (stored : y ∈ c.folders) (apart : ¬ c.Below y root) : Unaltered c c' y := by
  have apart' : ¬ c'.Below y root := by rwa [grown.below_iff wf stored]
  constructor
  · intro name child
    constructor
    · rintro ⟨f, found, up, same⟩
      cases before : c.folder? child with
      | some g =>
        cases found.symm.trans (grown.folder before)
        exact ⟨f, before, up, same⟩
      | none =>
        -- A new child would have `root` above it, and hence above `y`.
        have differs : child ≠ root := by
          rintro rfl
          obtain ⟨g, rooted⟩ := rooted
          simp [before] at rooted
        have below := grown.newFolder found before
        exact absurd (below.parent_of_ne differs (inside_iff.mpr ⟨f, found, up⟩)) apart'
    · rintro ⟨f, found, up, same⟩
      exact ⟨f, grown.folder found, up, same⟩
  · intro found
    cases found with
    | none => exact Iff.rfl
    | some told =>
      constructor
      · rintro ⟨id, f, found, listed, same⟩
        cases before : c.file? id with
        | some g =>
          cases found.symm.trans (grown.file before)
          exact ⟨id, f, before, listed, same⟩
        | none =>
          obtain ⟨parent, below, only⟩ := grown.newFile found before
          rw [← (only y).mp listed] at below
          exact absurd below apart'
      · rintro ⟨id, f, found, listed, same⟩
        exact ⟨id, f, grown.file found, listed, same⟩

/-- What is beside `root` looks as before. -/
theorem outline_eq (grown : Grown c c' root) (wf : c.WellFormed) (rooted : root ∈ c.folders)
    (stored : w ∈ c.folders) (apart : ¬ c.Below root w) (apart' : ¬ c.Below w root) :
    c'.outline w = c.outline w := by
  refine outline_congr fun y below => ?_
  apply grown.unaltered wf rooted
  · rcases Contents.below_iff.mp below with rfl | ⟨_, inside, _⟩
    · exact stored
    · exact mem_folders_of_inside inside
  · intro here
    rcases below.comparable here with up | down
    · exact apart' up
    · exact apart down

end Grown

/-! ## A new folder -/

section

variable {folder : Folder} (unused : c.has folder.id = false)
include unused

theorem child_insert_folder : Child (c.insert (.folder folder)) y name w ↔
    c.Child y name w ∨ w = folder.id ∧ folder.parent = some y ∧ folder.name = name := by
  have missing := folder?_eq_none_of_unused unused
  unfold Child
  by_cases here : folder.id = w
  · subst here
    simp [missing]
  · simp [here, Ne.symm here]

/-- Nothing was there, so no file is gone. -/
theorem file?_insert_unused (id : EntityId) :
    file? (c.insert (.folder folder)) id = c.file? id := by
  by_cases here : folder.id = id
  · subst here
    simp [file?_eq_none_of_unused unused]
  · simp [here]

theorem holds_insert_folder {found : Find} :
    Holds (c.insert (.folder folder)) y found ↔ c.Holds y found := by
  cases found with
  | none => exact Iff.rfl
  | some told => simp only [Holds, file?_insert_unused unused]

/-- Only its parent gets a new folder. -/
theorem unaltered_insert_folder (elsewhere : folder.parent ≠ some y) :
    Unaltered c (c.insert (.folder folder)) y :=
  ⟨fun _ _ => by simp [child_insert_folder unused, elsewhere], fun _ => holds_insert_folder unused⟩

theorem grown_insert_folder (rooted : folder.id = root ∨ folder.parent = some root) :
    Grown c (c.insert (.folder folder)) root where
  folder {id f} found := by
    have differs : folder.id ≠ id := by
      rintro rfl
      simp [folder?_eq_none_of_unused unused] at found
    simpa [differs] using found
  file {id f} found := by rwa [file?_insert_unused unused]
  newFolder {id f} found fresh := by
    have here : folder.id = id := by
      by_contra differs
      simp [differs, fresh] at found
    subst here
    rcases rooted with rfl | up
    · exact below_refl _ _
    · exact Inside.below (inside_iff.mpr ⟨folder, by simp, up⟩)
  newFile {id f} found fresh := by
    rw [file?_insert_unused unused, fresh] at found
    cases found

/-- The new folder is empty. -/
theorem outline_insert_folder_self (wf : c.WellFormed) (elsewhere : folder.parent ≠ some folder.id) :
    outline (c.insert (.folder folder)) folder.id = {([], none)} := by
  have missing := folder?_eq_none_of_unused unused
  -- Parents are stored, so nothing can have the new folder as its parent yet.
  have noChild {name : String} {w : EntityId} : ¬ c.Child folder.id name w := by
    rintro ⟨f, found, up, _⟩
    obtain ⟨above, stored⟩ := wf.folderParent found up
    simp [missing] at stored
  ext ⟨path, found⟩
  cases path with
  | nil =>
    rw [mem_outline_nil, holds_insert_folder unused]
    cases found with
    | none => simp [Holds]
    | some told =>
      have noFile : ¬ c.Holds folder.id (some told) := by
        rintro ⟨id, f, found, listed, _⟩
        obtain ⟨above, stored⟩ := wf.fileParent found listed
        simp [missing] at stored
      simp [noFile]
  | cons name path =>
    simp [mem_outline_cons, child_insert_folder unused, noChild, elsewhere]

/-- What the new folder is not put into looks as before. -/
theorem outline_insert_folder (apart : ∀ parent, folder.parent = some parent → ¬ c.Below parent w) :
    outline (c.insert (.folder folder)) w = c.outline w := by
  refine outline_congr fun y below => unaltered_insert_folder unused fun up => ?_
  exact apart y up below

end

/-! ## A new file -/

section

variable {file : File} (unused : c.has file.id = false) {parent : EntityId}
  (only : ∀ p, p ∈ file.parents ↔ p = parent)
include unused only

theorem holds_insert_file {found : Find} : Holds (c.insert (.file file)) y found ↔
    c.Holds y found ∨ y = parent ∧ found = some (file.name, file.content) := by
  have missing := file?_eq_none_of_unused unused
  cases found with
  | none => simp [Holds]
  | some told =>
    obtain ⟨name, content⟩ := told
    constructor
    · rintro ⟨id, f, found, listed, rfl, rfl⟩
      rw [file?_insert_file] at found
      split at found
      · cases found
        exact .inr ⟨(only y).mp listed, rfl⟩
      · exact .inl ⟨id, f, found, listed, rfl, rfl⟩
    · rintro (⟨id, f, found, listed, same⟩ | ⟨rfl, same⟩)
      -- The new file takes nobody's place.
      · have differs : file.id ≠ id := by
          rintro rfl
          simp [missing] at found
        exact ⟨id, f, by simpa [differs] using found, listed, same⟩
      · cases same
        exact ⟨file.id, file, by simp, (only y).mpr rfl, rfl, rfl⟩

omit only in
theorem child_insert_file : Child (c.insert (.file file)) y name w ↔ c.Child y name w := by
  have missing := folder?_eq_none_of_unused unused
  unfold Child
  by_cases here : file.id = w
  · subst here
    simp [missing]
  · simp [here]

theorem grown_insert_file : Grown c (c.insert (.file file)) parent where
  folder {id f} found := by
    have differs : file.id ≠ id := by
      rintro rfl
      simp [folder?_eq_none_of_unused unused] at found
    simpa [differs] using found
  file {id f} found := by
    have differs : file.id ≠ id := by
      rintro rfl
      simp [file?_eq_none_of_unused unused] at found
    simpa [differs] using found
  newFolder {id f} found fresh := by
    simp [(folder?_insert_file_eq_some_iff.mp found).2] at fresh
  newFile {id f} found fresh := by
    have here : file.id = id := by
      by_contra differs
      simp [differs, fresh] at found
    subst here
    simp only [file?_insert_file, ↓reduceIte, Option.some.injEq] at found
    subst found
    exact ⟨parent, below_refl _ _, only⟩

end

end Filing.Contents
