import Filing.Proofs.Tidiness

/-!
# What is seen from a folder

The view of a folder holds every file below it with the display names of the folders that lead there.
It is taken apart by the first of these names (`mem_view_cons`), and it stays the same as long as all
folders below have the same children (`view_congr`). With distinct names, a path leads to one folder
only (`Leads.unique`).
-/
namespace Filing.Contents

/-- `child` is a folder inside `id` and has the display name. -/
def Child (c : Contents) (id : EntityId) (name : String) (child : EntityId) : Prop :=
  ∃ folder, c.folder? child = some folder ∧ folder.parent = some id ∧ folder.name = name

def Lists (c : Contents) (id file : EntityId) : Prop := ∃ f, c.file? file = some f ∧ id ∈ f.parents

/-- Folders with these display names lead down from one folder to another. -/
inductive Leads (c : Contents) : EntityId → List String → EntityId → Prop
  | here (id) : Leads c id [] id
  | down {id name child path target} (inside : c.Child id name child)
      (rest : Leads c child path target) : Leads c id (name :: path) target

/-- The files below a folder, each with a path that leads to a folder that lists it. -/
def view (c : Contents) (id : EntityId) : Set (List String × EntityId) :=
  {seen | ∃ folder, c.Leads id seen.1 folder ∧ c.Lists folder seen.2}

/-- A folder has the same children in both, but for the folder `except`. -/
structure Alike (c c' : Contents) (except : Option EntityId) (id : EntityId) : Prop where
  folders : ∀ name child, some child ≠ except → (c'.Child id name child ↔ c.Child id name child)
  files : ∀ file, c'.Lists id file ↔ c.Lists id file

variable {c c' c'' : Contents} {id a b x child target file : EntityId} {name : String}
  {path : List String}

theorem Child.inside (inside : c.Child id name child) : c.Inside child id := by
  obtain ⟨folder, found, up, _⟩ := inside
  exact inside_iff.mpr ⟨folder, found, up⟩

theorem inside_iff_child : c.Inside child id ↔ ∃ name, c.Child id name child := by
  constructor
  · intro inside
    obtain ⟨folder, found, up⟩ := inside_iff.mp inside
    exact ⟨folder.name, folder, found, up, rfl⟩
  · rintro ⟨name, inside⟩
    exact inside.inside

theorem Child.unique (distinct : c.DistinctNames) (first : c.Child id name a)
    (second : c.Child id name b) : a = b := by
  obtain ⟨f, foundA, insideA, sameA⟩ := first
  obtain ⟨g, foundB, insideB, sameB⟩ := second
  exact distinct.folders foundA foundB insideA insideB (sameA.trans sameB.symm)

theorem Child.name_unique {other : String} (first : c.Child a name child)
    (second : c.Child b other child) : a = b ∧ name = other := by
  obtain ⟨f, found, up, rfl⟩ := first
  obtain ⟨g, found', up', rfl⟩ := second
  cases found.symm.trans found'
  exact ⟨Option.some.inj (up.symm.trans up'), rfl⟩

theorem child_iff_name {folder : Folder} (stored : c.folder? folder.id = some folder)
    (up : folder.parent = some id) : c.Child id name folder.id ↔ name = folder.name := by
  constructor
  · rintro ⟨f, found, _, rfl⟩
    cases stored.symm.trans found
    rfl
  · rintro rfl
    exact ⟨folder, stored, up, rfl⟩

theorem below_of_leads (leads : c.Leads id path target) : c.Below target id := by
  induction leads with
  | here id => exact below_refl c id
  | down inside _ ih => exact ih.trans inside.inside.below

/-- A path leads to one folder only. -/
theorem Leads.unique (distinct : c.DistinctNames) (first : c.Leads id path a)
    (second : c.Leads id path b) : a = b := by
  induction first with
  | here =>
    cases second
    rfl
  | down inside _ ih =>
    cases second with
    | down inside' rest =>
      cases inside.unique distinct inside'
      exact ih rest

theorem Leads.eq_nil (loopFree : c.LoopFree) (leads : c.Leads id path id) : path = [] := by
  cases leads with
  | here => rfl
  | down inside rest => exact absurd (below_of_leads rest) (loopFree.not_below_of_inside inside.inside)

/-! ## Views -/

theorem mem_view :
    (path, file) ∈ c.view id ↔ ∃ folder, c.Leads id path folder ∧ c.Lists folder file := Iff.rfl

theorem mem_view_nil : ([], file) ∈ c.view id ↔ c.Lists id file := by
  constructor
  · rintro ⟨folder, leads, listed⟩
    cases leads
    exact listed
  · intro listed
    exact ⟨id, .here id, listed⟩

theorem mem_view_of_child (inside : c.Child id name child) (distinct : c.DistinctNames) :
    (name :: path, file) ∈ c.view id ↔ (path, file) ∈ c.view child := by
  constructor
  · rintro ⟨folder, leads, listed⟩
    cases leads with
    | down inside' rest =>
      cases inside.unique distinct inside'
      exact ⟨folder, rest, listed⟩
  · rintro ⟨folder, leads, listed⟩
    exact ⟨folder, .down inside leads, listed⟩

theorem mem_view_cons :
    (name :: path, file) ∈ c.view id ↔ ∃ child, c.Child id name child ∧ (path, file) ∈ c.view child := by
  constructor
  · rintro ⟨folder, leads, listed⟩
    cases leads with
    | down inside rest => exact ⟨_, inside, folder, rest, listed⟩
  · rintro ⟨child, inside, folder, rest, listed⟩
    exact ⟨folder, .down inside rest, listed⟩

/-- What is seen through the children of one name depends on these children. -/
theorem mem_view_cons_congr (children : ∀ child, c'.Child id name child ↔ c.Child id name child)
    (same : ∀ child, c.Child id name child → c'.view child = c.view child) :
    (name :: path, file) ∈ c'.view id ↔ (name :: path, file) ∈ c.view id := by
  simp only [mem_view_cons, children]
  refine exists_congr fun child => and_congr_right fun inside => ?_
  rw [same child inside]

/-- What is seen from a folder depends on what lies below it. -/
theorem view_congr (same : ∀ y, c.Below y id → Alike c c' none y) : c'.view id = c.view id := by
  -- On the path, from any folder that lies below.
  have go (path : List String) (y : EntityId) (below : c.Below y id) (file : EntityId) :
      (path, file) ∈ c'.view y ↔ (path, file) ∈ c.view y := by
    induction path generalizing y with
    | nil =>
      rw [mem_view_nil, mem_view_nil]
      exact (same y below).files file
    | cons name path ih =>
      simp only [mem_view_cons]
      refine exists_congr fun child => ?_
      have children := (same y below).folders name child (by simp)
      constructor
      · rintro ⟨inside, seen⟩
        have inside := children.mp inside
        exact ⟨inside, (ih child (inside.inside.below.trans below)).mp seen⟩
      · rintro ⟨inside, seen⟩
        exact ⟨children.mpr inside, (ih child (inside.inside.below.trans below)).mpr seen⟩
  ext ⟨path, file⟩
  exact go path id (below_refl c id) file

/-- The display name of a file. -/
def fileName (c : Contents) (file : EntityId) : Option String := (c.file? file).map (·.name)

theorem eq_of_lists (distinct : c.DistinctNames) (first : c.Lists id a) (second : c.Lists id b)
    (same : c.fileName a = c.fileName b) : a = b := by
  obtain ⟨f, foundA, listedA⟩ := first
  obtain ⟨g, foundB, listedB⟩ := second
  simp only [fileName, foundA, foundB, Option.map_some, Option.some.injEq] at same
  exact distinct.files foundA foundB listedA listedB same

/-- At the end of a path, no two files have the same name. -/
theorem eq_of_mem_view (distinct : c.DistinctNames) (first : (path, a) ∈ c.view id)
    (second : (path, b) ∈ c.view id) (same : c.fileName a = c.fileName b) : a = b := by
  obtain ⟨folder, leads, listed⟩ := first
  obtain ⟨folder', leads', listed'⟩ := second
  cases leads.unique distinct leads'
  exact eq_of_lists distinct listed listed' same

/-! ## Listing a file elsewhere -/

section

variable {s : MemoryStore} {f : File} (stored : s.contents.file? f.id = some f)
  (source : Option EntityId) (target : EntityId)
include stored

theorem folder?_relist (y : EntityId) :
    (s.save (.file (f.reparent source target).1)).contents.folder? y = s.contents.folder? y := by
  have noFolder : s.contents.folder? (f.reparent source target).1.id = none :=
    folder?_eq_none_of_file? stored
  exact folder?_insert_file_of_noFolder noFolder y

theorem parentOf_relist (y : EntityId) :
    (s.save (.file (f.reparent source target).1)).contents.parentOf y = s.contents.parentOf y := by
  simp [parentOf, folder?_relist stored]

theorem below_relist (y top : EntityId) :
    (s.save (.file (f.reparent source target).1)).contents.Below y top ↔ s.contents.Below y top :=
  below_congr fun z _ => parentOf_relist stored source target z

theorem fileName_relist (other : EntityId) :
    (s.save (.file (f.reparent source target).1)).contents.fileName other =
      s.contents.fileName other := by
  by_cases here : f.id = other
  · subst here
    simp [fileName, MemoryStore.save, stored, File.reparent]
  · simp [fileName, MemoryStore.save, File.reparent, here]

theorem lists_relist (y other : EntityId) :
    (s.save (.file (f.reparent source target).1)).contents.Lists y other ↔
      if other = f.id then y = target ∨ s.contents.Lists y f.id ∧ source ≠ some y
      else s.contents.Lists y other := by
  have sameId : (f.reparent source target).1.id = f.id := rfl
  unfold Lists
  by_cases here : other = f.id
  · subst here
    simp only [MemoryStore.save, file?_insert_file, sameId, ↓reduceIte, Option.some.injEq,
      exists_eq_left', File.mem_parents_reparent, stored]
  · simp [MemoryStore.save, sameId, here, Ne.symm here]

end

end Filing.Contents
