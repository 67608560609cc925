import Mathlib.Order.BooleanAlgebra.Set
import Filing.Proofs.Step

/-!
# Clearing folders out

`Cleared` says what is left of some contents once certain folders are gone and files have left
certain folders. One clearing after another is a clearing again (`Cleared.trans`), whatever the
order, so that a deletion can be put together from its parts (`Cleared.folder`).
-/
namespace Filing

/-- These folders list the file, and no others do. -/
def File.OnlyIn (file : File) (folders : Set EntityId) : Prop :=
  (∃ parent, parent ∈ file.parents) ∧ ∀ parent ∈ file.parents, parent ∈ folders

theorem File.not_onlyIn_empty (file : File) : ¬ file.OnlyIn ∅ :=
  fun ⟨⟨parent, listed⟩, inside⟩ => inside parent listed

/-- What becomes of a file that leaves the folders. It goes for good if it was nowhere else. -/
inductive File.Leaves (folders : Set EntityId) : Option File → Option File → Prop
  | missing : Leaves folders none none
  | gone {file} (only : file.OnlyIn folders) : Leaves folders (some file) none
  | stays {file} {parents : IdSet} (beyond : ¬ file.OnlyIn folders)
      (rest : ∀ parent, parent ∈ parents ↔ parent ∈ file.parents ∧ parent ∉ folders) :
      Leaves folders (some file) (some { file with parents })

namespace File.Leaves

variable {folders more : Set EntityId} {before between after : Option File}

/-- A file that was in none of the folders stays as it is. -/
theorem of_apart (apart : ∀ file, before = some file → ∀ parent ∈ file.parents, parent ∉ folders) :
    Leaves folders before before := by
  cases before with
  | none => exact .missing
  | some file =>
    refine .stays ?_ fun parent => ?_
    · rintro ⟨⟨parent, listed⟩, inside⟩
      exact apart file rfl parent listed (inside parent listed)
    · exact ⟨fun listed => ⟨listed, apart file rfl parent listed⟩, And.left⟩

theorem trans (first : Leaves folders before between) (second : Leaves more between after) :
    Leaves (folders ∪ more) before after := by
  cases first with
  | missing =>
    cases second
    exact .missing
  | gone only =>
    cases second
    exact .gone ⟨only.1, fun parent listed => .inl (only.2 parent listed)⟩
  | @stays file parents beyond rest =>
    cases second with
    | gone only =>
      obtain ⟨⟨parent, listed⟩, inside⟩ := only
      -- A folder that listed the file was left early or is one of those it was last listed in.
      refine .gone ⟨⟨parent, ((rest parent).mp listed).1⟩, fun parent listed => ?_⟩
      by_cases early : parent ∈ folders
      · exact .inl early
      · exact .inr (inside parent ((rest parent).mpr ⟨listed, early⟩))
    | @stays _ parents' beyond' rest' =>
      refine Leaves.stays (?_ : ¬ file.OnlyIn (folders ∪ more)) fun parent => ?_
      · rintro ⟨listed, inside⟩
        have elsewhere : ∃ parent, parent ∈ file.parents ∧ parent ∉ folders := by
          by_contra nowhere
          exact beyond ⟨listed, fun parent listed => by_contra fun out => nowhere ⟨parent, listed, out⟩⟩
        obtain ⟨parent, listed, out⟩ := elsewhere
        refine beyond' ⟨⟨parent, (rest parent).mpr ⟨listed, out⟩⟩, fun parent listed => ?_⟩
        obtain ⟨listed, out⟩ := (rest parent).mp listed
        exact (inside parent listed).resolve_left out
      · rw [rest', rest, Set.mem_union, not_or, and_assoc]

theorem congr (leaves : Leaves folders before after)
    (same : ∀ file, before = some file → ∀ parent ∈ file.parents,
      (parent ∈ more ↔ parent ∈ folders)) : Leaves more before after := by
  cases leaves with
  | missing => exact .missing
  | gone only => exact .gone ⟨only.1, fun p listed => (same _ rfl p listed).mpr (only.2 p listed)⟩
  | stays beyond rest =>
    refine .stays (fun only => beyond ⟨only.1, fun p listed => ?_⟩) fun p => (rest p).trans ?_
    · exact (same _ rfl p listed).mp (only.2 p listed)
    · exact and_congr_right fun listed => not_congr (same _ rfl p listed).symm

/-- There is only one way to leave the folders. -/
theorem unique {other : Option File} (leaves : Leaves folders before after)
    (leaves' : Leaves folders before other) : after = other := by
  cases leaves with
  | missing =>
    cases leaves'
    rfl
  | gone only =>
    cases leaves' with
    | gone _ => rfl
    | stays beyond _ => exact absurd only beyond
  | @stays file parents beyond rest =>
    cases leaves' with
    | gone only => exact absurd only beyond
    | @stays _ parents' _ rest' =>
      have same : parents = parents' := IdSet.ext fun parent => (rest parent).trans (rest' parent).symm
      rw [same]

end File.Leaves

namespace Contents

/-- The folders in `gone` are no longer there, and each file has left its folders in `left`. -/
structure Cleared (c c' : Contents) (gone : Set EntityId) (left : EntityId → Set EntityId) : Prop where
  folders : ∀ id folder, c'.folder? id = some folder ↔ c.folder? id = some folder ∧ id ∉ gone
  files : ∀ id, File.Leaves (left id) (c.file? id) (c'.file? id)

/-- The folders that are stored. -/
def folders (c : Contents) : Set EntityId := {id | ∃ folder, c.folder? id = some folder}

/-- A stored folder and all that lies below it. -/
def under (c : Contents) (id : EntityId) : Set EntityId := {x | id ∈ c.folders ∧ c.Below x id}

variable {c c' c'' : Contents} {gone more : Set EntityId} {left left' : EntityId → Set EntityId}
  {id child x parent : EntityId}

namespace Cleared

theorem refl (c : Contents) : Cleared c c ∅ fun _ => ∅ where
  folders _ _ := by simp
  files _ := .of_apart (by simp)

theorem trans (first : Cleared c c' gone left) (second : Cleared c' c'' more left') :
    Cleared c c'' (gone ∪ more) fun id => left id ∪ left' id where
  folders id folder := by
    rw [second.folders, first.folders, Set.mem_union, not_or, and_assoc]
  files id := (first.files id).trans (second.files id)

theorem congr (cleared : Cleared c c' gone left) (same : more = gone)
    (sameFiles : ∀ {id file}, c.file? id = some file → ∀ parent ∈ file.parents,
      (parent ∈ left' id ↔ parent ∈ left id)) : Cleared c c' more left' where
  folders := same ▸ cleared.folders
  files id := (cleared.files id).congr fun _ => sameFiles

/-- What is left does not depend on how the folders were cleared out. -/
theorem unique (cleared : Cleared c c' gone left) (cleared' : Cleared c c'' gone left) : c' = c'' := by
  refine ext_folder?_file? (fun id => Option.ext fun folder => ?_) fun id => ?_
  · exact (cleared.folders id folder).trans (cleared'.folders id folder).symm
  · exact (cleared.files id).unique (cleared'.files id)

theorem inside_iff (cleared : Cleared c c' gone left) :
    c'.Inside x parent ↔ c.Inside x parent ∧ x ∉ gone := by
  simp only [Contents.inside_iff, cleared.folders]
  constructor
  · rintro ⟨folder, ⟨found, stays⟩, up⟩
    exact ⟨⟨folder, found, up⟩, stays⟩
  · rintro ⟨⟨folder, found, up⟩, stays⟩
    exact ⟨folder, ⟨found, stays⟩, up⟩

theorem loopFree (cleared : Cleared c c' gone left) (loopFree : c.LoopFree) : c'.LoopFree :=
  loopFree.of_fewer fun inside => (cleared.inside_iff.mp inside).1

/-- What lists a file now has listed it before and was not left. -/
theorem of_listed (cleared : Cleared c c' gone left) {file' : File}
    (found : c'.file? id = some file') (listed : parent ∈ file'.parents) :
    ∃ file, c.file? id = some file ∧ parent ∈ file.parents ∧ parent ∉ left id := by
  have leaves := cleared.files id
  rw [found] at leaves
  cases stored : c.file? id with
  | none =>
    rw [stored] at leaves
    cases leaves
  | some file =>
    rw [stored] at leaves
    cases leaves with
    | stays beyond rest => exact ⟨file, rfl, (rest parent).mp listed⟩

end Cleared

/-! ## What lies under a folder -/

/-- What lies under any of the folders. -/
def underAny (c : Contents) (ids : List EntityId) : Set EntityId := {x | ∃ id ∈ ids, x ∈ c.under id}

theorem under_of_not_mem_folders (missing : id ∉ c.folders) : c.under id = ∅ :=
  Set.eq_empty_iff_forall_notMem.mpr fun _ under => missing under.1

theorem underAny_concat (ids : List EntityId) :
    c.underAny (ids ++ [id]) = c.underAny ids ∪ c.under id := by
  ext x
  simp [underAny, or_and_right, exists_or]

theorem mem_underAny_of_below {ids : List EntityId} {y : EntityId} (member : x ∈ c.underAny ids)
    (below : c.Below y x) : y ∈ c.underAny ids := by
  obtain ⟨id, named, stored, under⟩ := member
  exact ⟨id, named, stored, below.trans under⟩

theorem mem_folders_of_inside (inside : c.Inside x parent) : x ∈ c.folders := by
  obtain ⟨folder, found, _⟩ := Contents.inside_iff.mp inside
  exact ⟨folder, found⟩

theorem mem_folders_of_below (parents : ∀ {x p}, c.Inside x p → p ∈ c.folders)
    (stored : id ∈ c.folders) (below : c.Below id x) : x ∈ c.folders := by
  induction below with
  | refl => exact stored
  | tail _ inside _ => exact parents inside

/-- Where everything stored is kept, the way up from it is kept, too. -/
theorem parentOf_eq_of_kept (parents : ∀ {x p}, c.Inside x p → p ∈ c.folders)
    (kept : ∀ {x f}, c.folder? x = some f → c'.folder? x = some f) (stored : id ∈ c.folders)
    (below : c.Below id x) : c'.parentOf x = c.parentOf x := by
  obtain ⟨f, found⟩ := mem_folders_of_below parents stored below
  rw [parentOf_of_folder? found, parentOf_of_folder? (kept found)]

/-- A folder and what lies under those inside it. -/
theorem under_eq (stored : id ∈ c.folders) :
    c.under id = c.underAny (c.childFolders id) ∪ {id} := by
  ext x
  simp only [Set.mem_union, Set.mem_singleton_iff]
  constructor
  · rintro ⟨_, below⟩
    rcases Relation.ReflTransGen.cases_tail below with same | ⟨child, below, inside⟩
    · exact .inr same.symm
    · exact .inl ⟨child, mem_childFolders_iff_inside.mpr inside, mem_folders_of_inside inside, below⟩
  · rintro (⟨child, member, _, below⟩ | rfl)
    · exact ⟨stored, below.trans (mem_childFolders_iff_inside.mp member).below⟩
    · exact ⟨stored, below_refl c x⟩

namespace Cleared

theorem mem_folders_iff (cleared : Cleared c c' gone left) :
    x ∈ c'.folders ↔ x ∈ c.folders ∧ x ∉ gone := by
  constructor
  · rintro ⟨folder, found⟩
    obtain ⟨stored, stays⟩ := (cleared.folders x folder).mp found
    exact ⟨⟨folder, stored⟩, stays⟩
  · rintro ⟨⟨folder, stored⟩, stays⟩
    exact ⟨folder, (cleared.folders x folder).mpr ⟨stored, stays⟩⟩

/-- Whole subtrees were cleared out, and another one loses only what is in them. -/
theorem under_eq_sdiff {ids : List EntityId} (cleared : Cleared c c' (c.underAny ids) left) :
    c'.under id = c.under id \ c.underAny ids := by
  ext x
  constructor
  · rintro ⟨stored, below⟩
    obtain ⟨stored, stays⟩ := cleared.mem_folders_iff.mp stored
    have before : c.Below x id :=
      Relation.ReflTransGen.mono (fun _ _ inside => (cleared.inside_iff.mp inside).1) _ _ below
    refine ⟨⟨stored, before⟩, fun away => ?_⟩
    rcases below_iff.mp below with rfl | ⟨_, inside, _⟩
    · exact stays away
    · exact (cleared.inside_iff.mp inside).2 away
  · rintro ⟨⟨stored, below⟩, stays⟩
    -- Whatever leads from `x` up to `id` is still there, because all below it would be gone.
    have after : c'.Below x id := by
      refine (below_congr fun y above => ?_).mpr below
      have present : y ∉ c.underAny ids := fun away => stays (mem_underAny_of_below away above)
      refine Option.ext fun up => ?_
      have same : c'.Inside y up ↔ c.Inside y up ∧ y ∉ c.underAny ids := cleared.inside_iff
      simpa [Inside, present] using same
    have present : id ∉ c.underAny ids := fun away => stays (mem_underAny_of_below away below)
    exact ⟨cleared.mem_folders_iff.mpr ⟨stored, present⟩, after⟩

/-- One more subtree is cleared out. -/
theorem concat {ids : List EntityId} (cleared : Cleared c c' (c.underAny ids) fun _ => c.underAny ids)
    (next : Cleared c' c'' (c'.under id) fun _ => c'.under id) :
    Cleared c c'' (c.underAny (ids ++ [id])) fun _ => c.underAny (ids ++ [id]) := by
  have union : c.underAny (ids ++ [id]) = c.underAny ids ∪ c'.under id := by
    rw [underAny_concat, cleared.under_eq_sdiff, Set.union_sdiff_self]
  refine (cleared.trans next).congr union fun _ parent _ => ?_
  rw [union]

variable {c₁ c₂ : Contents}

/-- With the folders in it cleared out and its files gone from it, nothing is left in a folder. -/
theorem vacant (stored : id ∈ c.folders) (loopFree : c.LoopFree)
    (folders : Cleared c c₁ (c.underAny (c.childFolders id)) fun _ => c.underAny (c.childFolders id))
    (files : Cleared c₁ c₂ ∅ fun x => {parent | x ∈ c.childFiles id ∧ parent = id}) :
    id ∈ c₂.folders ∧ c₂.Vacant id := by
  -- Without loops the folder itself does not lie under its children.
  have stays : id ∉ c.underAny (c.childFolders id) := by
    rintro ⟨child, member, _, below⟩
    exact loopFree.not_below_of_inside (mem_childFolders_iff_inside.mp member) below
  refine ⟨?_, fun x inside => ?_, fun {x file} found listed => ?_⟩
  · exact files.mem_folders_iff.mpr ⟨folders.mem_folders_iff.mpr ⟨stored, stays⟩, by simp⟩
  · obtain ⟨inside, away⟩ := folders.inside_iff.mp (files.inside_iff.mp inside).1
    exact away ⟨x, mem_childFolders_iff_inside.mpr inside, mem_folders_of_inside inside, below_refl c x⟩
  · obtain ⟨file₁, found₁, listed₁, left₁⟩ := files.of_listed found listed
    obtain ⟨file₀, found₀, listed₀, _⟩ := folders.of_listed found₁ listed₁
    exact left₁ ⟨mem_childFiles.mpr ⟨file₀, found₀, listed₀⟩, rfl⟩

/-- A folder is cleared out with everything under it: the folders in it, its files, then itself. -/
theorem folder (stored : id ∈ c.folders)
    (folders : Cleared c c₁ (c.underAny (c.childFolders id)) fun _ => c.underAny (c.childFolders id))
    (files : Cleared c₁ c₂ ∅ fun x => {parent | x ∈ c.childFiles id ∧ parent = id})
    (last : Cleared c₂ c' {id} fun _ => ∅) :
    Cleared c c' (c.under id) fun _ => c.under id := by
  rw [under_eq stored]
  refine ((folders.trans files).trans last).congr (by simp) fun {x file} found parent listed => ?_
  simp only [Set.mem_union, Set.mem_singleton_iff, Set.mem_ofPred_eq, Set.mem_empty_iff_false,
    or_false]
  have member (here : parent = id) : x ∈ c.childFiles id :=
    mem_childFiles.mpr ⟨file, found, here ▸ listed⟩
  exact or_congr_right ⟨fun here => ⟨member here, here⟩, And.right⟩

end Cleared

end Contents

/-! ## The changes of a deletion -/

namespace MemoryStore

open Contents

variable {s : MemoryStore} {file : File} {id parent : EntityId}

theorem cleared_takeOut (stored : s.contents.file? file.id = some file)
    (listed : parent ∈ file.parents) :
    Cleared s.contents (s.takeOut file parent).contents ∅
      fun x => {p | x = file.id ∧ p = parent} where
  folders x folder := by simp [folder?_takeOut stored]
  files x := by
    rw [file?_takeOut]
    by_cases here : file.id = x
    · subst here
      rw [if_pos rfl, stored]
      -- A file that is listed elsewhere only leaves the folder, any other one goes.
      cases elsewhere : file.isElsewhere parent with
      | true =>
        obtain ⟨other, listed', differs⟩ := File.isElsewhere_iff.mp elsewhere
        refine .stays (fun only => differs (only.2 other listed').2) fun p => ?_
        simp [and_comm]
      | false =>
        exact .gone ⟨⟨parent, listed⟩, fun p listed =>
          ⟨rfl, File.isElsewhere_eq_false_iff.mp elsewhere p listed⟩⟩
    · rw [if_neg here]
      exact .of_apart fun _ _ _ _ away => here away.1.symm

theorem cleared_discard (stored : id ∈ s.contents.folders) :
    Cleared s.contents (s.discard id).contents {id} fun _ => ∅ where
  folders x folder := by
    by_cases here : id = x <;> simp [discard, here, Ne.symm, eq_comm]
  files x := by
    obtain ⟨folder, stored⟩ := stored
    by_cases here : id = x
    · subst here
      simpa [discard, file?_eq_none_of_folder? stored] using File.Leaves.missing
    · simpa [discard, here] using .of_apart (by simp)

end MemoryStore

end Filing
