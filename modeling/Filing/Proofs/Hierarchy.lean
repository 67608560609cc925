import Mathlib.Logic.Relation
import Mathlib.Tactic.ByContra
import Filing.Proofs.Contents

/-!
# The hierarchy of folders

A folder lies inside its parent and below everything that is reached by going up. Contents are well
formed if all parents are stored folders and going up never comes back.

## Main results

- `LoopFree.of_reparent`: giving one folder another parent closes no loop unless the new parent lies
  below the folder.
- `WellFormed.insert_folder`, `WellFormed.insert_file`, `WellFormed.erase`: what has to be checked
  before something is saved or deleted.
-/
namespace Filing.Contents

open Relation (ReflTransGen TransGen)

/-- The parent of the folder stored under `id`, be it stored or not. -/
def parentOf (c : Contents) (id : EntityId) : Option EntityId := (c.folder? id).bind (·.parent)

def Inside (c : Contents) (id parent : EntityId) : Prop := c.parentOf id = some parent

/-- `id` is `ancestor` or is led there by going up. -/
def Below (c : Contents) (id ancestor : EntityId) : Prop := ReflTransGen c.Inside id ancestor

def LoopFree (c : Contents) : Prop := ∀ id, ¬ TransGen c.Inside id id

structure WellFormed (c : Contents) : Prop where
  folderParent : ∀ {id parent folder}, c.folder? id = some folder → folder.parent = some parent →
    ∃ above, c.folder? parent = some above
  fileParent : ∀ {id parent file}, c.file? id = some file → parent ∈ file.parents →
    ∃ above, c.folder? parent = some above
  loopFree : c.LoopFree

/-- Neither two folders nor two files of one folder have the same display name. -/
structure DistinctNames (c : Contents) : Prop where
  folders : ∀ {a b parent f g}, c.folder? a = some f → c.folder? b = some g →
    f.parent = some parent → g.parent = some parent → f.name = g.name → a = b
  files : ∀ {a b parent f g}, c.file? a = some f → c.file? b = some g →
    parent ∈ f.parents → parent ∈ g.parents → f.name = g.name → a = b

variable {c c' : Contents} {id a b x y parent target : EntityId}

theorem inside_iff : c.Inside id parent ↔
    ∃ folder, c.folder? id = some folder ∧ folder.parent = some parent := by
  simp [Inside, parentOf, Option.bind_eq_some_iff]

theorem parentOf_of_folder? {folder : Folder} (found : c.folder? id = some folder) :
    c.parentOf id = folder.parent := by
  simp [parentOf, found]

theorem mem_childFolders_iff_inside : id ∈ c.childFolders parent ↔ c.Inside id parent :=
  mem_childFolders.trans inside_iff.symm

theorem inside_of_mem_listing {listing : Listing} (found : c.listing? parent = some listing)
    (member : id ∈ listing.childFolders) : c.Inside id parent := by
  rw [(listing?_eq_some_iff.mp found).2.1] at member
  exact mem_childFolders_iff_inside.mp member

theorem inside_unique (up : c.Inside id a) (up' : c.Inside id b) : a = b :=
  Option.some.inj (up.symm.trans up')

/-! ## Going up -/

theorem below_refl (c : Contents) (id : EntityId) : c.Below id id := .refl

theorem Inside.below (inside : c.Inside id parent) : c.Below id parent := .single inside

theorem Below.trans (first : c.Below a b) (second : c.Below b x) : c.Below a x :=
  ReflTransGen.trans first second

theorem Inside.trans_below (inside : c.Inside a b) (below : c.Below b x) : c.Below a x :=
  .head inside below

theorem below_iff : c.Below id a ↔ id = a ∨ ∃ parent, c.Inside id parent ∧ c.Below parent a := by
  constructor
  · intro below
    exact ReflTransGen.cases_head below
  · rintro (rfl | ⟨parent, inside, below⟩)
    · exact .refl
    · exact .head inside below

/-- What lies below two folders puts one of them below the other. -/
theorem Below.comparable (first : c.Below x a) (second : c.Below x b) :
    c.Below a b ∨ c.Below b a :=
  ReflTransGen.total_of_right_unique (fun _ _ _ up up' => inside_unique up up') first second

theorem Below.parent_of_ne (below : c.Below id a) (differs : id ≠ a) (inside : c.Inside id parent) :
    c.Below parent a := by
  rcases below_iff.mp below with same | ⟨up, inside', rest⟩
  · exact absurd same differs
  · rwa [inside_unique inside inside']

namespace LoopFree

theorem not_below_of_inside (loopFree : c.LoopFree) (inside : c.Inside id parent) :
    ¬ c.Below parent id :=
  fun below => loopFree id (.head' inside below)

/-- Two children of one folder have nothing below both. -/
theorem eq_of_siblings (loopFree : c.LoopFree) (insideA : c.Inside a parent)
    (insideB : c.Inside b parent) (belowA : c.Below x a) (belowB : c.Below x b) : a = b := by
  by_contra differs
  rcases belowA.comparable belowB with below | below
  · exact loopFree.not_below_of_inside insideB (below.parent_of_ne differs insideA)
  · exact loopFree.not_below_of_inside insideA (below.parent_of_ne (Ne.symm differs) insideB)

/-- Taking parents away closes no loop. -/
theorem of_fewer (loopFree : c.LoopFree)
    (fewer : ∀ {id parent}, c'.Inside id parent → c.Inside id parent) : c'.LoopFree :=
  fun id loop => loopFree id (TransGen.mono (fun _ _ inside => fewer inside) id id loop)

theorem congr (loopFree : c.LoopFree) (same : ∀ id, c'.folder? id = c.folder? id) : c'.LoopFree := by
  refine loopFree.of_fewer fun {id parent} inside => ?_
  rwa [Inside, parentOf, same] at inside

/-- A way up in the changed contents either was there before or goes through the changed folder. -/
private theorem way_of_reparent (others : ∀ y, y ≠ id → c'.parentOf y = c.parentOf y)
    (away : ∀ parent, c'.Inside id parent → ¬ c.Below parent id)
    (way : TransGen c'.Inside x y) :
    TransGen c.Inside x y ∨
      ∃ parent, c'.Inside id parent ∧ c.Below x id ∧ c.Below parent y := by
  -- Once the way has gone through `id`, it does not come back there.
  induction way with
  | @single y up =>
    by_cases here : x = id
    · subst here
      exact .inr ⟨y, up, .refl, .refl⟩
    · exact .inl (.single ((others x here).symm.trans up))
  | @tail b y _ up ih =>
    rcases ih with before | ⟨parent, inside, start, rest⟩
    · by_cases here : b = id
      · subst here
        exact .inr ⟨y, up, before.to_reflTransGen, .refl⟩
      · exact .inl (before.tail ((others b here).symm.trans up))
    · by_cases here : b = id
      · subst here
        exact absurd rest (away parent inside)
      · exact .inr ⟨parent, inside, start, rest.tail ((others b here).symm.trans up)⟩

theorem of_reparent (loopFree : c.LoopFree) (others : ∀ y, y ≠ id → c'.parentOf y = c.parentOf y)
    (away : ∀ parent, c'.Inside id parent → ¬ c.Below parent id) : c'.LoopFree := by
  intro x loop
  rcases way_of_reparent others away loop with before | ⟨parent, inside, start, rest⟩
  · exact loopFree x before
  · exact away parent inside (rest.trans start)

end LoopFree

/-- Nothing is above a folder without a parent. -/
theorem eq_of_below_top {folder : Folder} (stored : c.folder? a = some folder)
    (top : folder.parent = none) (below : c.Below a id) : a = id := by
  rcases below_iff.mp below with same | ⟨_, up, _⟩
  · exact same
  · obtain ⟨other, found, inside⟩ := inside_iff.mp up
    cases stored.symm.trans found
    simp [top] at inside

/-- Going up from `x` is the same in contents that keep the parents of all that lies above `x`. -/
theorem below_congr (same : ∀ y, c.Below x y → c'.parentOf y = c.parentOf y) :
    c'.Below x a ↔ c.Below x a := by
  constructor
  · intro below
    induction below with
    | refl => exact .refl
    | tail _ up ih => exact ih.tail ((same _ ih).symm.trans up)
  · intro below
    induction below with
    | refl => exact .refl
    | tail before up ih => exact ih.tail ((same _ before).trans up)

/-! ## Saving and deleting -/

@[simp] theorem parentOf_insert_folder (folder : Folder) :
    Contents.parentOf (c.insert (.folder folder)) id =
      if folder.id = id then folder.parent else c.parentOf id := by
  by_cases same : folder.id = id <;> simp [parentOf, same]

theorem parentOf_insert_file {file : File} (noFolder : c.folder? file.id = none) :
    Contents.parentOf (c.insert (.file file)) id = c.parentOf id := by
  by_cases same : file.id = id
  · simp [parentOf, same, same ▸ noFolder]
  · simp [parentOf, same]

theorem parentOf_erase :
    Contents.parentOf (c.erase a) id = if a = id then none else c.parentOf id := by
  by_cases same : a = id <;> simp [parentOf, same]

namespace LoopFree

theorem insert_folder (loopFree : c.LoopFree) {folder : Folder}
    (away : ∀ parent, folder.parent = some parent → ¬ c.Below parent folder.id) :
    LoopFree (c.insert (.folder folder)) := by
  have others (y : EntityId) (differs : y ≠ folder.id) :
      Contents.parentOf (c.insert (.folder folder)) y = c.parentOf y := by
    simp [Ne.symm differs]
  refine loopFree.of_reparent others fun up inside => ?_
  have above : folder.parent = some up := by simpa [Inside] using inside
  exact away up above

theorem erase (loopFree : c.LoopFree) (id : EntityId) : LoopFree (c.erase id) := by
  refine loopFree.of_fewer fun {x parent} inside => ?_
  rw [Inside, parentOf_erase] at inside
  split at inside
  · cases inside
  · exact inside

end LoopFree

namespace WellFormed

theorem empty : WellFormed (.empty : Contents) where
  folderParent found := by cases found
  fileParent found := by cases found
  loopFree := by
    intro id loop
    obtain ⟨_, up, _⟩ := TransGen.head'_iff.mp loop
    cases up

theorem stored_of_inside (wf : c.WellFormed) (inside : c.Inside id parent) :
    ∃ above, c.folder? parent = some above := by
  obtain ⟨folder, found, up⟩ := inside_iff.mp inside
  exact wf.folderParent found up

/-- Nothing points at what is not stored. -/
theorem not_below_of_unused (wf : c.WellFormed) (unused : c.has id = false)
    (stored : ∃ folder, c.folder? a = some folder) : ¬ c.Below a id := by
  intro below
  have missing := folder?_eq_none_of_unused unused
  rcases ReflTransGen.cases_tail below with same | ⟨parent, _, inside⟩
  · obtain ⟨folder, found⟩ := stored
    rw [← same, missing] at found
    cases found
  · obtain ⟨above, found⟩ := wf.stored_of_inside inside
    rw [missing] at found
    cases found

theorem insert_folder (wf : c.WellFormed) {folder : Folder}
    (parent : ∀ parent, folder.parent = some parent →
      (∃ above, c.folder? parent = some above) ∧ ¬ c.Below parent folder.id) :
    WellFormed (c.insert (.folder folder)) where
  folderParent {id up f} found inside := by
    have kept (above : Folder) (stored : c.folder? up = some above) :
        ∃ above, Contents.folder? (c.insert (.folder folder)) up = some above := by
      rw [folder?_insert_folder]
      split <;> simp [*]
    rw [folder?_insert_folder] at found
    split at found
    · cases found
      obtain ⟨⟨above, stored⟩, _⟩ := parent up inside
      exact kept above stored
    · obtain ⟨above, stored⟩ := wf.folderParent found inside
      exact kept above stored
  fileParent {id up f} found listed := by
    obtain ⟨above, stored⟩ := wf.fileParent (file?_insert_folder_eq_some_iff.mp found).2 listed
    rw [folder?_insert_folder]
    split <;> simp [*]
  loopFree := wf.loopFree.insert_folder fun up inside => (parent up inside).2

/-- Nothing can lie below a folder that is new. -/
theorem insert_unused (wf : c.WellFormed) {folder : Folder} (unused : c.has folder.id = false)
    (place : ∀ parent, folder.parent = some parent → ∃ above, c.folder? parent = some above) :
    WellFormed (c.insert (.folder folder)) :=
  wf.insert_folder fun parent up =>
    ⟨place parent up, wf.not_below_of_unused unused (place parent up)⟩

theorem insert_file (wf : c.WellFormed) {file : File} (noFolder : c.folder? file.id = none)
    (parents : ∀ parent ∈ file.parents, ∃ above, c.folder? parent = some above) :
    WellFormed (c.insert (.file file)) where
  folderParent {id up f} found inside := by
    obtain ⟨above, stored⟩ := wf.folderParent (folder?_insert_file_eq_some_iff.mp found).2 inside
    have differs : file.id ≠ up := fun same => by simp [← same, noFolder] at stored
    exact ⟨above, by simp [differs, stored]⟩
  fileParent {id up f} found listed := by
    -- No folder is lost, as there was none under the identifier of the file.
    have kept (above : Folder) (stored : c.folder? up = some above) :
        ∃ above, Contents.folder? (c.insert (.file file)) up = some above := by
      have differs : file.id ≠ up := fun same => by simp [← same, noFolder] at stored
      exact ⟨above, by simp [differs, stored]⟩
    rw [file?_insert_file] at found
    split at found
    · cases found
      obtain ⟨above, stored⟩ := parents up listed
      exact kept above stored
    · obtain ⟨above, stored⟩ := wf.fileParent found listed
      exact kept above stored
  loopFree := by
    refine wf.loopFree.of_fewer fun {id parent} inside => ?_
    rwa [Inside, parentOf_insert_file noFolder] at inside

theorem erase (wf : c.WellFormed) (noFolders : ∀ x, ¬ c.Inside x id)
    (noFiles : ∀ x file, c.file? x = some file → id ∉ file.parents) :
    WellFormed (c.erase id) where
  folderParent {x up f} found inside := by
    obtain ⟨_, found⟩ := folder?_erase_eq_some_iff.mp found
    obtain ⟨above, stored⟩ := wf.folderParent found inside
    -- Nothing lies in what goes, so no parent goes.
    have differs : id ≠ up := by
      rintro rfl
      exact noFolders x (inside_iff.mpr ⟨f, found, inside⟩)
    exact ⟨above, by simp [differs, stored]⟩
  fileParent {x up f} found listed := by
    obtain ⟨_, found⟩ := file?_erase_eq_some_iff.mp found
    obtain ⟨above, stored⟩ := wf.fileParent found listed
    have differs : id ≠ up := by
      rintro rfl
      exact noFiles x f found listed
    exact ⟨above, by simp [differs, stored]⟩
  loopFree := wf.loopFree.erase id

/-- Nothing lies in a file. -/
theorem erase_file (wf : c.WellFormed) {file : File} (found : c.file? id = some file) :
    WellFormed (c.erase id) := by
  have missing := folder?_eq_none_of_file? found
  refine wf.erase (fun x inside => ?_) fun x f stored listed => ?_
  · obtain ⟨above, stored⟩ := wf.stored_of_inside inside
    simp [missing] at stored
  · obtain ⟨above, stored⟩ := wf.fileParent stored listed
    simp [missing] at stored

end WellFormed

end Filing.Contents
