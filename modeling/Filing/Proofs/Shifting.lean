import Filing.Proofs.Merging

/-!
# What a change may have touched

`MemoryStore.Shifts` bounds what lies between two stores. Only what is `loose` may lie elsewhere, be
gone or have lost files, and only what is `filled` may have got something. Nothing has come into
being, and everything that is left has its display name. Such bounds add up (`Shifts.trans`), and what
lies below what can be read off them: a way up that is new leads through a loose folder
(`Shifts.below_or_through`).
-/
namespace Filing

open Contents

/-- Where something is missing from what it was or from where it was, that is `loose`, and what has
got more than it had is `filled`. -/
structure MemoryStore.Shifts (s s' : MemoryStore) (loose filled : Set EntityId) : Prop where
  allows : s'.allows = s.allows
  folders : ∀ y ∉ loose, s'.contents.folder? y = s.contents.folder? y
  known : ∀ {y folder}, s'.contents.folder? y = some folder →
    ∃ before, s.contents.folder? y = some before ∧ before.name = folder.name
  inside : ∀ {y p}, s'.contents.Inside y p → s.contents.Inside y p ∨ p ∈ filled
  names : ∀ file, s'.contents.fileName file = s.contents.fileName file
  lists : ∀ {p file}, s'.contents.Lists p file → s.contents.Lists p file ∨ p ∈ filled
  listed : ∀ {p file}, p ∉ loose → s.contents.Lists p file → s'.contents.Lists p file

namespace MemoryStore.Shifts

variable {s s' s'' : MemoryStore} {loose filled more fuller : Set EntityId} {y top : EntityId}

theorem refl (s : MemoryStore) (loose filled : Set EntityId) : s.Shifts s loose filled where
  allows := rfl
  folders _ _ := rfl
  known found := ⟨_, found, rfl⟩
  inside := .inl
  names _ := rfl
  lists := .inl
  listed _ listed := listed

theorem mono (shifts : s.Shifts s' loose filled) (looser : loose ⊆ more) (full : filled ⊆ fuller) :
    s.Shifts s' more fuller where
  allows := shifts.allows
  folders y out := shifts.folders y fun member => out (looser member)
  known := shifts.known
  inside inside := (shifts.inside inside).imp_right (full ·)
  names := shifts.names
  lists listed := (shifts.lists listed).imp_right (full ·)
  listed out := shifts.listed fun member => out (looser member)

theorem trans (first : s.Shifts s' loose filled) (second : s'.Shifts s'' more fuller) :
    s.Shifts s'' (loose ∪ more) (filled ∪ fuller) where
  allows := second.allows.trans first.allows
  folders y out := (second.folders y fun member => out (.inr member)).trans
    (first.folders y fun member => out (.inl member))
  known found := by
    obtain ⟨between, found', same'⟩ := second.known found
    obtain ⟨before, found, same⟩ := first.known found'
    exact ⟨before, found, same.trans same'⟩
  inside inside := by
    rcases second.inside inside with inside | late
    · exact (first.inside inside).imp_right .inl
    · exact .inr (.inr late)
  names file := (second.names file).trans (first.names file)
  lists listed := by
    rcases second.lists listed with listed | late
    · exact (first.lists listed).imp_right .inl
    · exact .inr (.inr late)
  listed out listed := second.listed (fun member => out (.inr member))
    (first.listed (fun member => out (.inl member)) listed)

/-! ## What lies below what -/

section

variable (shifts : s.Shifts s' loose filled)
include shifts

theorem missing (missing : s.contents.folder? y = none) : s'.contents.folder? y = none := by
  cases found : s'.contents.folder? y with
  | none => rfl
  | some folder =>
    obtain ⟨_, before, _⟩ := shifts.known found
    simp [missing] at before

theorem parentOf (out : y ∉ loose) : s'.contents.parentOf y = s.contents.parentOf y := by
  simp [Contents.parentOf, shifts.folders y out]

theorem inside_iff {p : EntityId} (out : y ∉ loose) :
    s'.contents.Inside y p ↔ s.contents.Inside y p := by
  rw [Inside, Inside, shifts.parentOf out]

theorem below_or_through (below : s'.contents.Below y top) :
    s.contents.Below y top ∨ ∃ z ∈ loose, s.contents.Below y z ∧ s'.contents.Below z top := by
  induction below using Relation.ReflTransGen.head_induction_on with
  | refl => exact .inl (below_refl _ top)
  | @head y above up rest ih =>
    -- The old way and the new one part at the first loose folder.
    by_cases member : y ∈ loose
    · exact .inr ⟨y, member, below_refl _ y, up.trans_below rest⟩
    · have before := (shifts.inside_iff member).mp up
      rcases ih with below | ⟨z, member, below, rest⟩
      · exact .inl (before.trans_below below)
      · exact .inr ⟨z, member, before.trans_below below, rest⟩

/-- What is loose all lay below the folder, so nothing has come below it. -/
theorem below_of_under (below : s'.contents.Below y top)
    (under : ∀ z ∈ loose, s.contents.Below z top) : s.contents.Below y top := by
  rcases shifts.below_or_through below with below | ⟨z, member, below, _⟩
  · exact below
  · exact below.trans (under z member)

/-- Nothing loose is met on the way up. -/
theorem below_iff (fast : ∀ z ∈ loose, ¬ s.contents.Below y z) :
    s'.contents.Below y top ↔ s.contents.Below y top :=
  below_congr fun z above => shifts.parentOf fun member => fast z member above

end

/-! ## Single changes -/

theorem reparent {folder : Folder} {target : EntityId}
    (stored : s.contents.folder? folder.id = some folder) :
    s.Shifts (s.save (.folder { folder with parent := some target })) {folder.id} {target} where
  allows := rfl
  folders y out := by
    have differs : folder.id ≠ y := fun same => out same.symm
    simp [save, differs]
  known {y found} here := by
    simp only [save, folder?_insert_folder] at here
    split at here
    next same =>
      cases here
      exact ⟨folder, same ▸ stored, rfl⟩
    next => exact ⟨found, here, rfl⟩
  inside {y p} inside := by
    simp only [save, Inside, parentOf_insert_folder] at inside
    split at inside
    next => exact .inr (Option.some.inj inside).symm
    next => exact .inl inside
  names := fileName_reparented stored
  lists := fun listed => .inl ((lists_reparented stored).mp listed)
  listed _ := (lists_reparented stored).mpr

theorem relist {file : File} {source : Option EntityId} {target : EntityId}
    (stored : s.contents.file? file.id = some file) :
    s.Shifts (s.save (.file (file.reparent source target).1)) {p | source = some p} {target} where
  allows := rfl
  folders y _ := folder?_relist stored source target y
  known found := ⟨_, (folder?_relist stored source target _).symm.trans found, rfl⟩
  inside {y p} inside := by
    exact .inl (by rwa [Inside, parentOf_relist stored] at inside)
  names := fileName_relist stored source target
  lists {p other} listed := by
    rw [lists_relist stored] at listed
    split at listed
    next here =>
      subst here
      exact listed.symm.imp_left And.left
    next => exact .inl listed
  listed {p other} out listed := by
    rw [lists_relist stored]
    split
    next here =>
      subst here
      exact .inr ⟨listed, out⟩
    next => exact listed

theorem discard {id : EntityId} {folder : Folder} (stored : s.contents.folder? id = some folder) :
    s.Shifts (s.discard id) {id} ∅ where
  allows := rfl
  folders y out := by
    have differs : id ≠ y := fun same => out same.symm
    simp [MemoryStore.discard, differs]
  known {y found} here := by
    simp only [MemoryStore.discard, folder?_erase] at here
    split at here
    next => cases here
    next => exact ⟨found, here, rfl⟩
  inside {y p} inside := by
    simp only [MemoryStore.discard, Inside, parentOf_erase] at inside
    split at inside
    next => cases inside
    next => exact .inl inside
  names other := by
    by_cases here : id = other
    · subst here
      simp [fileName, MemoryStore.discard, file?_eq_none_of_folder? stored]
    · simp [fileName, MemoryStore.discard, here]
  lists listed := .inl ((lists_erase (file?_eq_none_of_folder? stored)).mp listed)
  listed _ := (lists_erase (file?_eq_none_of_folder? stored)).mpr

end MemoryStore.Shifts

end Filing
