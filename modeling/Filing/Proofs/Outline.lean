import Filing.Proofs.View

/-!
# The outline of a folder

What a folder looks like to someone who sees names and contents but no identifiers: the display names
that lead to each folder below it, and the name and content of each file there. Two folders with the
same outline are copies of each other.
-/
namespace Filing.Contents

/-- What is found at the end of a path: the folder itself or a file with this name and content. -/
abbrev Find := Option (String × List UInt8)

/-- The folder holds a file with this name and content. Every folder holds itself. -/
def Holds (c : Contents) (id : EntityId) : Find → Prop
  | none => True
  | some (name, content) => ∃ file f, c.file? file = some f ∧ id ∈ f.parents ∧
      f.name = name ∧ f.content = content

def outline (c : Contents) (id : EntityId) : Set (List String × Find) :=
  {seen | ∃ folder, c.Leads id seen.1 folder ∧ c.Holds folder seen.2}

/-- A folder or a file without its content. -/
def heading (seen : List String × Find) : List String × Option String :=
  (seen.1, seen.2.map Prod.fst)

/-- The folder has something under the heading. -/
def Occupied (c : Contents) (id : EntityId) (head : List String × Option String) : Prop :=
  ∃ seen ∈ c.outline id, heading seen = head

/-- The folder has the same child folders in both, and files of the same names and contents. -/
structure Unaltered (c c' : Contents) (id : EntityId) : Prop where
  folders : ∀ name child, c'.Child id name child ↔ c.Child id name child
  files : ∀ found, c'.Holds id found ↔ c.Holds id found

variable {c c' c'' : Contents} {id child target : EntityId} {name : String} {path : List String}
  {found : Find}

theorem mem_outline_nil : ([], found) ∈ c.outline id ↔ c.Holds id found := by
  constructor
  · rintro ⟨folder, leads, holds⟩
    cases leads
    exact holds
  · intro holds
    exact ⟨id, .here id, holds⟩

/-- Every folder is seen from itself. -/
theorem mem_outline_self (c : Contents) (id : EntityId) : ([], none) ∈ c.outline id :=
  mem_outline_nil.mpr trivial

theorem mem_outline_cons : (name :: path, found) ∈ c.outline id ↔
    ∃ child, c.Child id name child ∧ (path, found) ∈ c.outline child := by
  constructor
  · rintro ⟨folder, leads, holds⟩
    cases leads with
    | down inside rest => exact ⟨_, inside, folder, rest, holds⟩
  · rintro ⟨child, inside, folder, rest, holds⟩
    exact ⟨folder, .down inside rest, holds⟩

theorem mem_outline_of_child (inside : c.Child id name child) (distinct : c.DistinctNames) :
    (name :: path, found) ∈ c.outline id ↔ (path, found) ∈ c.outline child := by
  rw [mem_outline_cons]
  constructor
  · rintro ⟨other, inside', seen⟩
    cases inside.unique distinct inside'
    exact seen
  · intro seen
    exact ⟨child, inside, seen⟩

theorem occupied_of_child (inside : c.Child id name child) (distinct : c.DistinctNames)
    {file : Option String} :
    c.Occupied id (name :: path, file) ↔ c.Occupied child (path, file) := by
  constructor
  · rintro ⟨⟨path', found⟩, seen, same⟩
    cases same
    exact ⟨_, (mem_outline_of_child inside distinct).mp seen, rfl⟩
  · rintro ⟨⟨path', found⟩, seen, same⟩
    cases same
    exact ⟨_, (mem_outline_of_child inside distinct).mpr seen, rfl⟩

/-- A listed file occupies its name. -/
theorem occupied_of_lists {file : EntityId} (listed : c.Lists id file) :
    c.Occupied id ([], c.fileName file) := by
  obtain ⟨f, stored, listed⟩ := listed
  refine ⟨([], some (f.name, f.content)), ?_, by simp [heading, fileName, stored]⟩
  exact mem_outline_nil.mpr ⟨file, f, stored, listed, rfl, rfl⟩

/-- The outline of a folder depends on what lies below it. -/
theorem outline_congr (same : ∀ y, c.Below y id → Unaltered c c' y) : c'.outline id = c.outline id := by
  have go (path : List String) (y : EntityId) (below : c.Below y id) (found : Find) :
      (path, found) ∈ c'.outline y ↔ (path, found) ∈ c.outline y := by
    induction path generalizing y with
    | nil =>
      rw [mem_outline_nil, mem_outline_nil]
      exact (same y below).files found
    | cons name path ih =>
      simp only [mem_outline_cons, (same y below).folders]
      refine exists_congr fun child => and_congr_right fun inside => ?_
      exact ih child (inside.inside.below.trans below)
  ext ⟨path, found⟩
  exact go path id (below_refl c id) found

/-- Two files of a folder with the same name are the same. -/
theorem Holds.unique (distinct : c.DistinctNames) {content content' : List UInt8}
    (first : c.Holds id (some (name, content))) (second : c.Holds id (some (name, content'))) :
    content = content' := by
  obtain ⟨a, f, foundA, listedA, sameA, rfl⟩ := first
  obtain ⟨b, g, foundB, listedB, sameB, rfl⟩ := second
  cases distinct.files foundA foundB listedA listedB (sameA.trans sameB.symm)
  cases foundA.symm.trans foundB
  rfl

end Filing.Contents
