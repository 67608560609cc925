import Filing.Proofs.Returning

/-!
# Levels

In a forest, the level of a folder is the number of folders above it. Where folders only ever sprout
below one root (`Contents.Sprouted`), those that were there keep their levels.

## Main results

* `Contents.Sprouted.spans`: what sprouts below a root, and not too deep, does not add to the height of
  folders that are not above that root.
-/
namespace Filing.Contents

open Relation (TransGen)

/-- No loops, and no parents that are missing. -/
structure Forest (c : Contents) : Prop where
  stored : ∀ {id parent}, c.Inside id parent → parent ∈ c.folders
  loopFree : c.LoopFree

/-- What lies above a folder, without itself. -/
def above (c : Contents) (id : EntityId) : Set EntityId := {a | TransGen c.Inside id a}

noncomputable def level (c : Contents) (id : EntityId) : Nat := (c.above id).ncard

/-- The level of what lies in `place`. -/
noncomputable def levelIn (c : Contents) (place : Option EntityId) : Nat :=
  match place with
  | some parent => c.level parent + 1
  | none => 0

/-- No folder is more than `height` levels below `root`. -/
def Spans (c : Contents) (root : EntityId) (height : Nat) : Prop :=
  ∀ id, c.Below id root → c.level id ≤ c.level root + height

/-- All folders of `c` are still there, and new ones are below `root` and not below the level `bound`. -/
structure Sprouted (c c' : Contents) (root : EntityId) (bound : Nat) : Prop where
  forest : c'.Forest
  folder : ∀ {id f}, c.folder? id = some f → c'.folder? id = some f
  new : ∀ {id}, id ∈ c'.folders → id ∉ c.folders → c'.Below id root ∧ c'.level id ≤ bound

/-- A forest in which nothing is below the level `bound`. -/
structure Shallow (c : Contents) (bound : Nat) : Prop where
  forest : c.Forest
  level_le : ∀ id, c.level id ≤ bound

variable {c c' c'' : Contents} {folder : Folder} {id child parent a root top : EntityId}
  {height bound deeper : Nat}

theorem WellFormed.forest (wf : c.WellFormed) : c.Forest := ⟨wf.stored_of_inside, wf.loopFree⟩

theorem level_of_top (top : c.parentOf id = none) : c.level id = 0 := by
  have nothing : c.above id = ∅ := by
    apply Set.eq_empty_of_forall_notMem
    intro a way
    obtain ⟨parent, inside, _⟩ := TransGen.head'_iff.mp way
    cases top.symm.trans inside
  rw [level, nothing, Set.ncard_empty]

theorem level_of_missing (missing : id ∉ c.folders) : c.level id = 0 := by
  apply level_of_top
  by_contra up
  obtain ⟨parent, inside⟩ := Option.ne_none_iff_exists'.mp up
  exact missing (mem_folders_of_inside inside)

theorem folder?_insert_of_fresh (fresh : folder.id ∉ c.folders) {x : EntityId} {f : Folder}
    (found : c.folder? x = some f) : Contents.folder? (c.insert (.folder folder)) x = some f := by
  have differs : folder.id ≠ x := fun same => fresh ⟨f, same ▸ found⟩
  rw [folder?_insert_folder, if_neg differs, found]

/-- The level depends on the way up only. -/
theorem level_congr (same : ∀ y, c.Below id y → c'.parentOf y = c.parentOf y) :
    c'.level id = c.level id := by
  have up (parent : EntityId) : c'.Inside id parent ↔ c.Inside id parent := by
    rw [Inside, Inside, same id (below_refl c id)]
  have alike : c'.above id = c.above id := by
    ext a
    change TransGen c'.Inside id a ↔ TransGen c.Inside id a
    rw [TransGen.head'_iff, TransGen.head'_iff]
    simp only [up]
    refine exists_congr fun parent => and_congr_right fun inside => ?_
    exact below_congr fun y below => same y (inside.trans_below below)
  rw [level, level, alike]

namespace Forest

theorem congr (forest : c.Forest) (same : ∀ id, c'.folder? id = c.folder? id) : c'.Forest where
  stored {id parent} inside := by
    rw [Inside, parentOf, same] at inside
    obtain ⟨f, found⟩ := forest.stored inside
    exact ⟨f, (same parent).trans found⟩
  loopFree := forest.loopFree.congr same

theorem finite_above (forest : c.Forest) (id : EntityId) : (c.above id).Finite := by
  refine c.finite_folders.subset fun a way => ?_
  obtain ⟨_, _, inside⟩ := TransGen.tail'_iff.mp way
  exact forest.stored inside

theorem level_le_ncard (forest : c.Forest) (id : EntityId) : c.level id ≤ c.folders.ncard := by
  refine Set.ncard_le_ncard (fun a way => ?_) c.finite_folders
  obtain ⟨_, _, inside⟩ := TransGen.tail'_iff.mp way
  exact forest.stored inside

theorem level_child (forest : c.Forest) (inside : c.Inside child parent) :
    c.level child = c.level parent + 1 := by
  have split : c.above child = insert parent (c.above parent) := by
    ext a
    constructor
    · intro way
      obtain ⟨up, inside', below⟩ := TransGen.head'_iff.mp way
      cases inside_unique inside inside'
      exact (Relation.reflTransGen_iff_eq_or_transGen.mp below).imp_left id
    · rintro (rfl | way)
      · exact .single inside
      · exact .head inside way
  have once : parent ∉ c.above parent := forest.loopFree parent
  rw [level, split, Set.ncard_insert_of_notMem once (forest.finite_above parent), level]

theorem level_eq_levelIn (forest : c.Forest) (id : EntityId) :
    c.level id = c.levelIn (c.parentOf id) := by
  cases up : c.parentOf id with
  | none => exact level_of_top up
  | some parent => exact forest.level_child up

theorem level_le_of_below (forest : c.Forest) (below : c.Below id a) : c.level a ≤ c.level id := by
  induction below with
  | refl => exact le_rfl
  | tail _ inside ih =>
    have step := forest.level_child inside
    omega

theorem level_lt_of_below (forest : c.Forest) (below : c.Below id a) (differs : id ≠ a) :
    c.level a < c.level id := by
  obtain same | ⟨parent, inside, rest⟩ := below_iff.mp below
  · exact absurd same differs
  · have step := forest.level_child inside
    have above := forest.level_le_of_below rest
    omega

/-- What was stored keeps its level where everything stored is kept. -/
theorem level_eq_of_kept (forest : c.Forest)
    (kept : ∀ {x f}, c.folder? x = some f → c'.folder? x = some f) (stored : id ∈ c.folders) :
    c'.level id = c.level id :=
  level_congr fun _ above => parentOf_eq_of_kept forest.stored kept stored above

section

variable (forest : c.Forest) (fresh : folder.id ∉ c.folders)
  (place : ∀ parent, folder.parent = some parent → parent ∈ c.folders)
include forest fresh place

theorem insert_folder : Forest (c.insert (.folder folder)) where
  stored {id parent} inside := by
    have there : parent ∈ c.folders := by
      rw [Inside, parentOf_insert_folder] at inside
      split at inside
      · exact place parent inside
      · exact forest.stored inside
    obtain ⟨f, found⟩ := there
    exact ⟨f, folder?_insert_of_fresh fresh found⟩
  loopFree := forest.loopFree.insert_folder fun parent up below =>
    fresh (mem_folders_of_below forest.stored (place parent up) below)

theorem level_insert_folder :
    level (c.insert (.folder folder)) folder.id = c.levelIn folder.parent := by
  rw [(forest.insert_folder fresh place).level_eq_levelIn, parentOf_insert_folder, if_pos rfl]
  cases up : folder.parent with
  | none => rfl
  | some parent =>
    have same := forest.level_eq_of_kept (folder?_insert_of_fresh fresh) (place parent up)
    exact congrArg (· + 1) same

end

end Forest

theorem WellFormed.shallow (wf : c.WellFormed) : c.Shallow c.folders.ncard :=
  ⟨wf.forest, wf.forest.level_le_ncard⟩

theorem Shallow.mono (shallow : c.Shallow bound) (fits : bound ≤ deeper) : c.Shallow deeper :=
  ⟨shallow.forest, fun id => (shallow.level_le id).trans fits⟩

theorem Shallow.congr (shallow : c.Shallow bound) (same : ∀ id, c'.folder? id = c.folder? id) :
    c'.Shallow bound where
  forest := shallow.forest.congr same
  level_le id := by
    have alike : c'.level id = c.level id := level_congr fun y _ => by rw [parentOf, same, parentOf]
    rw [alike]
    exact shallow.level_le id

theorem Shallow.spans (shallow : c.Shallow bound) (root : EntityId) : c.Spans root bound := by
  intro id _
  have low := shallow.level_le id
  omega

namespace Spans

/-- Children are one level closer to everything below. -/
theorem inside (spans : c.Spans root (height + 1)) (forest : c.Forest) (inside : c.Inside child root) :
    c.Spans child height := by
  intro id below
  have least := spans id (below.trans inside.below)
  have step := forest.level_child inside
  omega

/-- A folder with something in it has some height. -/
theorem pos (spans : c.Spans root height) (forest : c.Forest) (inside : c.Inside child root) :
    0 < height := by
  have least := spans child inside.below
  have step := forest.level_child inside
  omega

end Spans

namespace Sprouted

theorem of_same (forest : c.Forest) (same : ∀ id, c'.folder? id = c.folder? id) :
    Sprouted c c' root bound where
  forest := forest.congr same
  folder found := (same _).trans found
  new := by
    rintro id ⟨f, found⟩ fresh
    exact absurd ⟨f, (same id).symm.trans found⟩ fresh

section

variable (sprouted : Sprouted c c' root bound) (forest : c.Forest)
include sprouted

theorem inside (inside : c.Inside id parent) : c'.Inside id parent := by
  obtain ⟨f, found, up⟩ := inside_iff.mp inside
  exact inside_iff.mpr ⟨f, sprouted.folder found, up⟩

theorem shallow (shallow : c.Shallow deeper) (fits : bound ≤ deeper) : c'.Shallow deeper where
  forest := sprouted.forest
  level_le id := by
    by_cases stored : id ∈ c.folders
    · rw [shallow.forest.level_eq_of_kept sprouted.folder stored]
      exact shallow.level_le id
    · by_cases new : id ∈ c'.folders
      · exact (sprouted.new new stored).2.trans fits
      · rw [level_of_missing new]
        exact Nat.zero_le _

include forest

theorem below_iff (stored : id ∈ c.folders) : c'.Below id a ↔ c.Below id a :=
  below_congr fun _ above => parentOf_eq_of_kept forest.stored sprouted.folder stored above

theorem level_eq (stored : id ∈ c.folders) : c'.level id = c.level id :=
  forest.level_eq_of_kept sprouted.folder stored

end

theorem trans (first : Sprouted c c' root bound) (second : Sprouted c' c'' root bound) :
    Sprouted c c'' root bound where
  forest := second.forest
  folder found := second.folder (first.folder found)
  new {id} stored fresh := by
    by_cases between : id ∈ c'.folders
    · rw [second.below_iff first.forest between, second.level_eq first.forest between]
      exact first.new between fresh
    · exact second.new stored between

theorem widen (sprouted : Sprouted c c' root bound) (up : c'.Below root top) (fits : bound ≤ deeper) :
    Sprouted c c' top deeper where
  forest := sprouted.forest
  folder := sprouted.folder
  new stored fresh := by
    obtain ⟨below, high⟩ := sprouted.new stored fresh
    exact ⟨below.trans up, high.trans fits⟩

theorem insert_folder (forest : c.Forest) (fresh : folder.id ∉ c.folders)
    (place : ∀ parent, folder.parent = some parent → parent ∈ c.folders) :
    Sprouted c (c.insert (.folder folder)) folder.id (c.levelIn folder.parent) where
  forest := forest.insert_folder fresh place
  folder := folder?_insert_of_fresh fresh
  new := by
    rintro id ⟨f, found⟩ missing
    have here : folder.id = id := by
      by_contra differs
      exact missing ⟨f, by simpa [differs] using found⟩
    subst here
    exact ⟨below_refl _ _, (forest.level_insert_folder fresh place).le⟩

/-- Below a folder that is not above the root, new folders are no deeper than old ones may be. For if they
are below it at all, it is itself below the root and closer to them. -/
theorem spans (sprouted : Sprouted c c' root bound) (forest : c.Forest) (rooted : root ∈ c.folders)
    (stored : id ∈ c.folders) (spans : c.Spans id height) (apart : ¬ c.Below root id)
    (fits : bound ≤ c.level root + height + 1) : c'.Spans id height := by
  intro x below
  rw [sprouted.level_eq forest stored]
  by_cases old : x ∈ c.folders
  · rw [sprouted.level_eq forest old]
    exact spans x ((sprouted.below_iff forest old).mp below)
  · by_cases new : x ∈ c'.folders
    · obtain ⟨under, high⟩ := sprouted.new new old
      -- The root and the folder are both above the new one, and so one of them is above the other.
      have up : c.Below id root := by
        rcases below.comparable under with up | down
        · exact (sprouted.below_iff forest stored).mp up
        · exact absurd ((sprouted.below_iff forest rooted).mp down) apart
      have lower := forest.level_lt_of_below up fun same => apart (same ▸ below_refl c id)
      omega
    · rw [level_of_missing new]
      exact Nat.zero_le _

end Sprouted

section

variable (forest : c.Forest) (fresh : folder.id ∉ c.folders) (rooted : root ∈ c.folders)
  (place : ∀ parent, folder.parent = some parent → parent ∈ c.folders ∧ ¬ c.Below parent root)
include forest fresh rooted place

/-- A new folder is below those only that its place is below. -/
theorem not_below_insert_folder : ¬ Below (c.insert (.folder folder)) folder.id root := by
  intro below
  rcases below_iff.mp below with same | ⟨parent, inside, rest⟩
  · exact fresh (same ▸ rooted)
  · obtain ⟨there, away⟩ := place parent (by simpa [Inside] using inside)
    have sprouted := Sprouted.insert_folder forest fresh fun parent up => (place parent up).1
    exact away ((sprouted.below_iff forest there).mp rest)

/-- A folder that is not above the place of a new one keeps its height. -/
theorem Spans.insert_folder (spans : c.Spans root height) :
    Spans (c.insert (.folder folder)) root height := by
  have sprouted := Sprouted.insert_folder forest fresh fun parent up => (place parent up).1
  intro x below
  rw [sprouted.level_eq forest rooted]
  by_cases old : x ∈ c.folders
  · rw [sprouted.level_eq forest old]
    exact spans x ((sprouted.below_iff forest old).mp below)
  · have differs : folder.id ≠ x := by
      rintro rfl
      exact not_below_insert_folder forest fresh rooted place below
    have missing : x ∉ folders (c.insert (.folder folder)) := by
      rintro ⟨f, found⟩
      exact old ⟨f, by simpa [differs] using found⟩
    rw [level_of_missing missing]
    exact Nat.zero_le _

end

end Filing.Contents
