import Filing.Proofs.Clearing
import Filing.Proofs.View

/-!
# One folder absorbs another

`Absorbs` says in terms of views that some of the files seen from `source` have gone over to `target`:
exactly those whose name is not taken there. What was done bit by bit adds up (`Absorbs.trans`),
because files seen at one place have distinct names and so never get into each other's way.
-/
namespace Filing.Contents

/-- Neither of the two folders lies below the other. -/
structure Beside (c : Contents) (source target : EntityId) : Prop where
  stored : source ∈ c.folders
  destination : target ∈ c.folders
  apart : ¬ c.Below target source
  apart' : ¬ c.Below source target

/-- Seen from `target`, another file has the name at the same place. -/
def Taken (c : Contents) (target : EntityId) (seen : List String × EntityId) : Prop :=
  ∃ other, other ≠ seen.2 ∧ (seen.1, other) ∈ c.view target ∧ c.fileName other = c.fileName seen.2

/-- Of what is seen from `source`, `target` has got what is at issue and not taken there. -/
structure Absorbs (c c' : Contents) (source target : EntityId)
    (atIssue : List String × EntityId → Prop) : Prop where
  names : ∀ file, c'.fileName file = c.fileName file
  into : ∀ seen, seen ∈ c'.view target ↔
    seen ∈ c.view target ∨ seen ∈ c.view source ∧ atIssue seen ∧ ¬ c.Taken target seen
  left : ∀ seen, seen ∈ c'.view source ↔
    seen ∈ c.view source ∧ (atIssue seen → c.Taken target seen)

variable {c c' c'' : Contents} {source target : EntityId} {seen : List String × EntityId}
  {atIssue later : List String × EntityId → Prop}

namespace Beside

variable {a b w x : EntityId}

theorem ne (beside : Beside c source target) : source ≠ target := by
  rintro rfl
  exact beside.apart (below_refl c source)

/-- Neither folder lies below a child of one of them. -/
theorem not_below_child (beside : Beside c source target) (loopFree : c.LoopFree)
    (up : c.Inside w source ∨ c.Inside w target) : ¬ c.Below source w ∧ ¬ c.Below target w := by
  rcases up with up | up
  · exact ⟨loopFree.not_below_of_inside up, fun below => beside.apart (below.trans up.below)⟩
  · exact ⟨fun below => beside.apart' (below.trans up.below), loopFree.not_below_of_inside up⟩

/-- Two children of the folders have nothing below both. -/
theorem eq_of_children (beside : Beside c source target) (loopFree : c.LoopFree)
    (upA : c.Inside a source ∨ c.Inside a target) (upB : c.Inside b source ∨ c.Inside b target)
    (belowA : c.Below x a) (belowB : c.Below x b) : a = b := by
  by_contra differs
  -- One child would be below the other, and so would be the folder that the one is in.
  rcases belowA.comparable belowB with below | below
  · have away := beside.not_below_child loopFree upB
    rcases upA with up | up
    · exact away.1 (below.parent_of_ne differs up)
    · exact away.2 (below.parent_of_ne differs up)
  · have away := beside.not_below_child loopFree upA
    rcases upB with up | up
    · exact away.1 (below.parent_of_ne (Ne.symm differs) up)
    · exact away.2 (below.parent_of_ne (Ne.symm differs) up)

end Beside

namespace Absorbs

/-- What is taken stays. -/
theorem of_taken (taken : ∀ seen, atIssue seen → c.Taken target seen) :
    Absorbs c c source target atIssue where
  names _ := rfl
  into seen := by
    have never : ¬ (atIssue seen ∧ ¬ c.Taken target seen) := fun ⟨issue, free⟩ => free (taken seen issue)
    simp [never]
  left seen := by simpa using fun _ => taken seen

theorem congr (absorbs : Absorbs c c' source target atIssue)
    (same : ∀ seen ∈ c.view source, later seen ↔ atIssue seen) :
    Absorbs c c' source target later where
  names := absorbs.names
  into seen := by
    rw [absorbs.into]
    refine or_congr_right (and_congr_right fun here => ?_)
    rw [same seen here]
  left seen := by
    rw [absorbs.left]
    refine and_congr_right fun here => ?_
    rw [same seen here]

/-- What went over does not take the name of anything that is still to come. -/
theorem taken_iff (absorbs : Absorbs c c' source target atIssue) (distinct : c.DistinctNames)
    (here : seen ∈ c.view source) : c'.Taken target seen ↔ c.Taken target seen := by
  constructor
  · rintro ⟨other, differs, there, same⟩
    rw [absorbs.names, absorbs.names] at same
    rcases (absorbs.into _).mp there with before | ⟨came, _, _⟩
    · exact ⟨other, differs, before, same⟩
    · exact absurd (eq_of_mem_view distinct came here same) differs
  · rintro ⟨other, differs, there, same⟩
    refine ⟨other, differs, (absorbs.into _).mpr (.inl there), ?_⟩
    rw [absorbs.names, absorbs.names, same]

theorem trans (first : Absorbs c c' source target atIssue) (second : Absorbs c' c'' source target later)
    (distinct : c.DistinctNames) :
    Absorbs c c'' source target fun seen => atIssue seen ∨ later seen where
  names file := (second.names file).trans (first.names file)
  into seen := by
    rw [second.into, first.into, first.left]
    constructor
    · rintro ((before | ⟨here, early, free⟩) | ⟨⟨here, _⟩, late, free⟩)
      · exact .inl before
      · exact .inr ⟨here, .inl early, free⟩
      · exact .inr ⟨here, .inr late, fun taken => free ((first.taken_iff distinct here).mpr taken)⟩
    · rintro (before | ⟨here, early | late, free⟩)
      · exact .inl (.inl before)
      · exact .inl (.inr ⟨here, early, free⟩)
      -- What is at issue both times goes over the first time.
      · by_cases early : atIssue seen
        · exact .inl (.inr ⟨here, early, free⟩)
        · refine .inr ⟨⟨here, fun issue => absurd issue early⟩, late, fun taken => ?_⟩
          exact free ((first.taken_iff distinct here).mp taken)
  left seen := by
    rw [second.left, first.left, and_assoc]
    refine and_congr_right fun here => ?_
    rw [first.taken_iff distinct here]
    constructor
    · rintro ⟨early, late⟩ (issue | issue)
      · exact early issue
      · exact late issue
    · intro taken
      exact ⟨fun issue => taken (.inl issue), fun issue => taken (.inr issue)⟩

end Absorbs

/-- Only what is seen through folders of one name has gone over. -/
theorem Absorbs.of_part {name : String} (names : ∀ file, c'.fileName file = c.fileName file)
    (targetFiles : ∀ file, c'.Lists target file ↔ c.Lists target file)
    (sourceFiles : ∀ file, c'.Lists source file ↔ c.Lists source file)
    (targetOthers : ∀ other ≠ name, ∀ path file,
      (other :: path, file) ∈ c'.view target ↔ (other :: path, file) ∈ c.view target)
    (sourceOthers : ∀ other ≠ name, ∀ path file,
      (other :: path, file) ∈ c'.view source ↔ (other :: path, file) ∈ c.view source)
    (into : ∀ path file, (name :: path, file) ∈ c'.view target ↔
      (name :: path, file) ∈ c.view target ∨
        (name :: path, file) ∈ c.view source ∧ ¬ c.Taken target (name :: path, file))
    (left : ∀ path file, (name :: path, file) ∈ c'.view source ↔
      (name :: path, file) ∈ c.view source ∧ c.Taken target (name :: path, file)) :
    Absorbs c c' source target fun seen => seen.1.head? = some name where
  names := names
  into := by
    rintro ⟨path, file⟩
    cases path with
    | nil => simp [mem_view_nil, targetFiles]
    | cons other path =>
      -- Only paths that begin with the one name are touched.
      by_cases same : other = name
      · subst same
        simp [into]
      · simp [targetOthers other same, same]
  left := by
    rintro ⟨path, file⟩
    cases path with
    | nil => simp [mem_view_nil, sourceFiles]
    | cons other path =>
      by_cases same : other = name
      · subst same
        simp [left]
      · simp [sourceOthers other same, same]

/-! ## A folder goes over as a whole -/

section Reparent

variable {id y w child : EntityId} {name : String} {folder : Folder}

/-- The folder gets another parent. -/
def reparented (c : Contents) (folder : Folder) (target : EntityId) : Contents :=
  c.insert (.folder { folder with parent := some target })

theorem child_reparented (stored : c.folder? id = some folder) :
    (c.reparented folder target).Child y name w ↔
      if w = id then y = target ∧ name = folder.name else c.Child y name w := by
  have sameId := id_of_folder? stored
  unfold Child reparented
  by_cases here : w = id
  · subst here
    simp [sameId, eq_comm]
  · simp [sameId, here, Ne.symm here]

theorem lists_reparented (stored : c.folder? id = some folder) :
    (c.reparented folder target).Lists y w ↔ c.Lists y w := by
  have sameId := id_of_folder? stored
  unfold Lists reparented
  by_cases here : w = id
  · subst here
    simp [sameId, file?_eq_none_of_folder? stored]
  · simp [sameId, Ne.symm here]

theorem alike_reparented (stored : c.folder? id = some folder) (apart : y ≠ target)
    (outside : ¬ c.Inside id y) : Alike c (c.reparented folder target) none y where
  folders name child _ := by
    rw [child_reparented stored]
    split
    next here =>
      subst here
      simp only [apart, false_and, false_iff]
      exact fun inside => outside inside.inside
    next => exact Iff.rfl
  files file := lists_reparented stored

theorem fileName_reparented (stored : c.folder? id = some folder) (file : EntityId) :
    (c.reparented folder target).fileName file = c.fileName file := by
  have sameId := id_of_folder? stored
  unfold fileName reparented
  by_cases here : file = id
  · subst here
    simp [sameId, file?_eq_none_of_folder? stored]
  · simp [sameId, Ne.symm here]

/-- What lies below neither the new nor the old parent is seen as before. -/
theorem view_reparented (stored : c.folder? id = some folder) (apart : ¬ c.Below target w)
    (outside : ∀ parent, c.Inside id parent → ¬ c.Below parent w) :
    (c.reparented folder target).view w = c.view w := by
  refine view_congr fun y below => ?_
  apply alike_reparented stored
  · rintro rfl
    exact apart below
  · exact fun inside => outside y inside below

/-- The children of the old and of the new parent are seen as before. -/
theorem view_reparented_child (stored : c.folder? id = some folder)
    (inside : folder.parent = some source) (loopFree : c.LoopFree) (beside : Beside c source target)
    (up : c.Inside w source ∨ c.Inside w target) : (c.reparented folder target).view w = c.view w := by
  have away := beside.not_below_child loopFree up
  apply view_reparented stored away.2
  intro parent up' below
  cases inside_unique up' (inside_iff.mpr ⟨folder, stored, inside⟩)
  exact away.1 below

theorem absorbs_reparented (tidy : c.Tidy) (stored : c.folder? id = some folder)
    (inside : folder.parent = some source) (beside : Beside c source target)
    (free : c.FreeFolderName folder.name target (some id)) :
    Absorbs c (c.reparented folder target) source target
      fun seen => seen.1.head? = some folder.name := by
  have here : c.Child source folder.name id := ⟨folder, stored, inside, rfl⟩
  have same {w : EntityId} (up : c.Inside w source ∨ c.Inside w target) :
      (c.reparented folder target).view w = c.view w :=
    view_reparented_child stored inside tidy.wellFormed.loopFree beside up
  have elsewhere (name : String) : ¬ c.Child target name id :=
    fun inside' => beside.ne (inside_unique here.inside inside'.inside)
  have unnamed (w : EntityId) : ¬ c.Child target folder.name w := by
    rintro ⟨f, found, inside', same⟩
    refine free found inside' ?_ same
    rintro ⟨⟩
    exact elsewhere _ ⟨f, found, inside', same⟩
  have untaken {path : List String} (file : EntityId) :
      ¬ c.Taken target (folder.name :: path, file) := by
    rintro ⟨other, _, there, _⟩
    obtain ⟨w, inside', _⟩ := mem_view_cons.mp there
    exact unnamed w inside'
  have moved : (c.reparented folder target).Child target folder.name id := by
    rw [child_reparented stored, if_pos rfl]
    exact ⟨rfl, rfl⟩
  have movedOnly {w : EntityId} (inside' : (c.reparented folder target).Child target folder.name w) :
      w = id := by
    rw [child_reparented stored] at inside'
    split at inside'
    next here => exact here
    next => exact absurd inside' (unnamed w)
  have gone (w : EntityId) : ¬ (c.reparented folder target).Child source folder.name w := by
    rw [child_reparented stored]
    split
    next => exact fun same => beside.ne same.1
    next differs => exact fun inside' => differs (inside'.unique tidy.distinct here)
  -- Under other names nothing is seen that was not. Under its name the folder is seen in the one place
  -- instead of the other, and nothing was in its way there.
  refine .of_part (fileName_reparented stored) (fun file => lists_reparented stored)
    (fun file => lists_reparented stored) ?_ ?_ ?_ ?_
  · intro name differs path file
    apply mem_view_cons_congr
    · intro w
      rw [child_reparented stored]
      split
      next here =>
        subst here
        simp [differs, elsewhere]
      next => exact Iff.rfl
    · exact fun w inside' => same (.inr inside'.inside)
  · intro name differs path file
    apply mem_view_cons_congr
    · intro w
      rw [child_reparented stored]
      split
      next here' =>
        subst here'
        simp only [differs, and_false, false_iff]
        exact fun inside' => differs (inside'.name_unique here).2
      next => exact Iff.rfl
    · exact fun w inside' => same (.inl inside'.inside)
  · intro path file
    rw [mem_view_of_child here tidy.distinct]
    simp only [mem_view_cons, unnamed, untaken, false_and, exists_false, false_or, not_false_eq_true,
      and_true]
    constructor
    · rintro ⟨w, inside', seen⟩
      cases movedOnly inside'
      rwa [same (.inl here.inside)] at seen
    · intro seen
      exact ⟨id, moved, by rwa [same (.inl here.inside)]⟩
  · intro path file
    simp [mem_view_cons, gone, untaken]

end Reparent

/-! ## A folder is merged into another one -/

/-- `source` was merged into `target`, and it is gone unless something had to stay. -/
structure Merged (c c' : Contents) (source target : EntityId) : Prop where
  kept : ∀ y, ¬ c.Below y source → c'.folder? y = c.folder? y
  stays : c'.folder? source = none ∨ c'.folder? source = c.folder? source
  outside : ∀ y, ¬ c.Below y source → ¬ c.Below y target → Alike c c' (some source) y
  absorbs : Absorbs c c' source target fun _ => True
  gone_iff : c'.folder? source = none ↔ ∀ seen ∈ c.view source, ¬ c.Taken target seen

theorem taken_of_child {name : String} {child file : EntityId} {path : List String}
    (distinct : c.DistinctNames) (inside : c.Child target name child) :
    c.Taken target (name :: path, file) ↔ c.Taken child (path, file) := by
  simp only [Taken, mem_view_of_child inside distinct]

namespace Merged

variable {id there y w : EntityId} {name : String}

/-- A merged folder has its old parent, if it is still there. -/
theorem child_of_child (merged : Merged c c' id there) (inside : c'.Child y name id) :
    c.Child y name id := by
  obtain ⟨folder, found, up, same⟩ := inside
  rcases merged.stays with gone | stays
  · rw [gone] at found
    cases found
  · exact ⟨folder, stays ▸ found, up, same⟩

theorem alike (merged : Merged c c' id there) (notBelow : ¬ c.Below y id)
    (notThere : ¬ c.Below y there) (outside : ¬ c.Inside id y) : Alike c c' none y where
  folders other child _ := by
    by_cases here : child = id
    · subst here
      constructor
      · exact merged.child_of_child
      · exact fun inside => absurd inside.inside outside
    · exact (merged.outside y notBelow notThere).folders other child (by simpa using here)
  files := (merged.outside y notBelow notThere).files

/-- The other children of the two parents have nothing to do with the merge. -/
theorem view_other (merged : Merged c c' id there) (loopFree : c.LoopFree)
    (beside : Beside c source target) (here : c.Inside id source) (fits : c.Inside there target)
    (up : c.Inside w source ∨ c.Inside w target) (notId : w ≠ id) (notThere : w ≠ there) :
    c'.view w = c.view w := by
  refine view_congr fun y below => ?_
  apply merged.alike
  · exact fun below' => notId (beside.eq_of_children loopFree up (.inl here) below below')
  · exact fun below' => notThere (beside.eq_of_children loopFree up (.inr fits) below below')
  · intro inside
    cases inside_unique inside here
    exact (beside.not_below_child loopFree up).1 below

/-- A child that was merged into the child of its name counts for its parent. -/
theorem absorbs_parent (merged : Merged c c' id there) (tidy : c.Tidy)
    (distinct' : c'.DistinctNames) (here : c.Child source name id) (fits : c.Child target name there)
    (beside : Beside c source target) :
    Absorbs c c' source target fun seen => seen.1.head? = some name := by
  have loopFree := tidy.wellFormed.loopFree
  have distinct := tidy.distinct
  have awayFromId := beside.not_below_child loopFree (.inl here.inside)
  have awayFromThere := beside.not_below_child loopFree (.inr fits.inside)
  have targetAlike : Alike c c' none target := by
    apply merged.alike awayFromId.2 awayFromThere.2
    exact fun inside => beside.ne (inside_unique here.inside inside)
  have sourceAlike := merged.outside source awayFromId.1 awayFromThere.1
  have same (w : EntityId) (up : c.Inside w source ∨ c.Inside w target) (notId : w ≠ id)
      (notThere : w ≠ there) : c'.view w = c.view w :=
    merged.view_other loopFree beside here.inside fits.inside up notId notThere
  have fits' : c'.Child target name there := (targetAlike.folders name there (by simp)).mpr fits
  -- Under other names nothing has changed. Under this one, the one child has absorbed the other.
  refine .of_part merged.absorbs.names targetAlike.files sourceAlike.files ?_ ?_ ?_ ?_
  · intro other otherName path file
    apply mem_view_cons_congr fun w => targetAlike.folders other w (by simp)
    intro w inside
    apply same w (.inr inside.inside)
    · rintro rfl
      exact beside.ne (inside_unique here.inside inside.inside)
    · rintro rfl
      exact otherName (inside.name_unique fits).2
  · intro other otherName path file
    apply mem_view_cons_congr
    · intro w
      by_cases isId : w = id
      · subst isId
        constructor
        · exact merged.child_of_child
        · exact fun inside => absurd (inside.name_unique here).2 otherName
      · exact sourceAlike.folders other w (by simpa using isId)
    · intro w inside
      apply same w (.inl inside.inside)
      · rintro rfl
        exact otherName (inside.name_unique here).2
      · rintro rfl
        exact beside.ne (inside_unique inside.inside fits.inside)
  · intro path file
    rw [mem_view_of_child fits' distinct', mem_view_of_child fits distinct,
      mem_view_of_child here distinct, taken_of_child distinct fits, merged.absorbs.into]
    simp
  · intro path file
    rw [mem_view_of_child here distinct, taken_of_child distinct fits]
    have left := merged.absorbs.left (path, file)
    simp only [forall_const] at left
    -- The child is gone exactly if nothing of it had to stay.
    by_cases gone : c'.folder? id = none
    · have nothing (w : EntityId) : ¬ c'.Child source name w := by
        intro inside
        by_cases isId : w = id
        · subst isId
          obtain ⟨folder, found, _⟩ := inside
          simp [gone] at found
        · have inside := (sourceAlike.folders name w (by simpa using isId)).mp inside
          exact isId (inside.unique distinct here)
      simp only [mem_view_cons, nothing, false_and, exists_false, false_iff, not_and]
      exact merged.gone_iff.mp gone (path, file)
    · have stays := merged.stays.resolve_left gone
      have here' : c'.Child source name id := by
        obtain ⟨folder, found, up⟩ := here
        exact ⟨folder, stays ▸ found, up⟩
      rw [mem_view_of_child here' distinct', left]

end Merged

end Filing.Contents
