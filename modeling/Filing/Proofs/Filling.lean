import Filing.Proofs.Growing
import Filing.Proofs.Merging

/-!
# Filling a folder from another one

`Filling` is what holds while copies of what is in one folder go into another: of what is at issue so
far, everything has a copy there whose heading was not taken. The folder that is copied does not
change by that, so stretches of filling add up (`Filling.trans`).
-/
namespace Filing.Contents

structure Filling (c c' : Contents) (source target : EntityId)
    (atIssue : List String × Option String → Prop) : Prop where
  tidy : c'.Tidy
  grown : Grown c c' target
  into : ∀ seen, seen ∈ c'.outline target ↔ seen ∈ c.outline target ∨
    seen ∈ c.outline source ∧ atIssue (heading seen) ∧ ¬ c.Occupied target (heading seen)

/-- Everything in `source` has a copy in `target`, if its heading was not taken. -/
abbrev Filled (c c' : Contents) (source target : EntityId) : Prop :=
  Filling c c' source target fun _ => True

variable {c c' c'' : Contents} {source target child there id : EntityId} {name : String}
  {atIssue later : List String × Option String → Prop}

theorem Grown.beside (grown : Grown c c' target) (wf : c.WellFormed) (beside : Beside c source target) :
    Beside c' source target where
  stored := grown.mem_folders beside.stored
  destination := grown.mem_folders beside.destination
  apart := by
    rw [grown.below_iff wf beside.destination]
    exact beside.apart
  apart' := by
    rw [grown.below_iff wf beside.stored]
    exact beside.apart'

theorem Occupied.of_mem {seen : List String × Find} (here : seen ∈ c.outline target) :
    c.Occupied target (heading seen) := ⟨seen, here, rfl⟩

namespace Filling

theorem of_occupied (tidy : c.Tidy)
    (occupied : ∀ seen ∈ c.outline source, atIssue (heading seen) → c.Occupied target (heading seen)) :
    Filling c c source target atIssue where
  tidy := tidy
  grown := .refl c target
  into seen := by
    refine ⟨.inl, ?_⟩
    rintro (here | ⟨here, issue, free⟩)
    · exact here
    · exact absurd (occupied seen here issue) free

/-- What is taken need not be at issue. -/
theorem congr (filling : Filling c c' source target atIssue)
    (same : ∀ seen ∈ c.outline source, ¬ c.Occupied target (heading seen) →
      (later (heading seen) ↔ atIssue (heading seen))) :
    Filling c c' source target later where
  tidy := filling.tidy
  grown := filling.grown
  into seen := by
    rw [filling.into]
    refine or_congr_right (and_congr_right fun here => and_congr_left fun free => ?_)
    exact (same seen here free).symm

theorem occupied_iff (filling : Filling c c' source target atIssue)
    {head : List String × Option String} : c'.Occupied target head ↔
      c.Occupied target head ∨ (∃ seen ∈ c.outline source, heading seen = head) ∧ atIssue head := by
  constructor
  · rintro ⟨seen, here, rfl⟩
    rcases (filling.into seen).mp here with before | ⟨copied, issue, _⟩
    · exact .inl (.of_mem before)
    · exact .inr ⟨⟨seen, copied, rfl⟩, issue⟩
  · rintro (⟨seen, here, rfl⟩ | ⟨⟨seen, here, rfl⟩, issue⟩)
    · exact .of_mem ((filling.into seen).mpr (.inl here))
    · by_cases before : c.Occupied target (heading seen)
      · obtain ⟨other, here', same⟩ := before
        exact ⟨other, (filling.into other).mpr (.inl here'), same⟩
      · exact .of_mem ((filling.into seen).mpr (.inr ⟨here, issue, before⟩))

/-- One thing is new in `target`, and it is what `source` has under the heading. -/
theorem of_added {new : List String × Find} (tidy : c'.Tidy) (grown : Grown c c' target)
    (added : ∀ seen, seen ∈ c'.outline target ↔ seen ∈ c.outline target ∨ seen = new)
    (vacant : ¬ c.Occupied target (heading new)) (copied : new ∈ c.outline source)
    (only : ∀ seen ∈ c.outline source, heading seen = heading new → seen = new) :
    Filling c c' source target (· = heading new) where
  tidy := tidy
  grown := grown
  into seen := by
    rw [added]
    refine or_congr_right ⟨?_, ?_⟩
    · rintro rfl
      exact ⟨copied, rfl, vacant⟩
    · rintro ⟨here, same, _⟩
      exact only seen here same

/-- The folder that is copied stays as it is. -/
theorem outline_source (filling : Filling c c' source target atIssue) (wf : c.WellFormed)
    (beside : Beside c source target) : c'.outline source = c.outline source :=
  filling.grown.outline_eq wf beside.destination beside.stored beside.apart beside.apart'

theorem trans (first : Filling c c' source target atIssue)
    (second : Filling c' c'' source target later) (wf : c.WellFormed)
    (beside : Beside c source target) :
    Filling c c'' source target fun head => atIssue head ∨ later head where
  tidy := second.tidy
  grown := first.grown.trans second.grown
  into seen := by
    rw [second.into, first.into, first.outline_source wf beside, first.occupied_iff]
    have copied (here : seen ∈ c.outline source) :
        ∃ other ∈ c.outline source, heading other = heading seen := ⟨seen, here, rfl⟩
    tauto

end Filling

/-! ## The pieces -/

/-- A folder that is filled within `target` fills `target`. -/
theorem Filled.within (filled : Filled c c' child there) (tidy : c.Tidy)
    (here : c.Child source name child) (fits : c.Child target name there)
    (beside : Beside c source target) :
    Filling c c' source target fun head => head.1.head? = some name where
  tidy := filled.tidy
  grown := filled.grown.widen (filled.grown.inside fits.inside).below
  into := by
    have wf := tidy.wellFormed
    have rooted : there ∈ c.folders := mem_folders_of_inside fits.inside
    have unaltered : Unaltered c c' target :=
      filled.grown.unaltered wf rooted beside.destination (wf.loopFree.not_below_of_inside fits.inside)
    rintro ⟨path, found⟩
    cases path with
    | nil => simp [mem_outline_nil, unaltered.files, heading]
    | cons other path =>
      by_cases same : other = name
      · subst same
        have fits' := (unaltered.folders other there).mpr fits
        simp only [mem_outline_of_child fits' filled.tidy.distinct,
          mem_outline_of_child fits tidy.distinct, mem_outline_of_child here tidy.distinct, heading,
          occupied_of_child fits tidy.distinct, List.head?_cons, true_and, filled.into]
      -- Under another name nothing has changed: siblings have nothing in common below them.
      · have before : (other :: path, found) ∈ c'.outline target ↔
            (other :: path, found) ∈ c.outline target := by
          simp only [mem_outline_cons, unaltered.folders]
          refine exists_congr fun sibling => and_congr_right fun inside => ?_
          have differs : sibling ≠ there := by
            rintro rfl
            exact same (inside.name_unique fits).2
          rw [filled.grown.outline_eq wf rooted (mem_folders_of_inside inside.inside)]
          · exact fun below => differs (wf.loopFree.eq_of_siblings inside.inside fits.inside below (below_refl _ _))
          · exact fun below => differs (wf.loopFree.eq_of_siblings inside.inside fits.inside (below_refl _ _) below)
        simp [before, heading, same]

section

variable {folder : Folder} (unused : c.has folder.id = false) (tidy : c.Tidy)
  (up : folder.parent = some target) (stored : target ∈ c.folders)
include unused tidy up stored

theorem mem_outline_insert_folder (seen : List String × Find) :
    seen ∈ outline (c.insert (.folder folder)) target ↔
      seen ∈ c.outline target ∨ seen = ([folder.name], none) := by
  have elsewhere : folder.parent ≠ some folder.id := by
    rw [up]
    rintro ⟨⟩
    obtain ⟨f, stored⟩ := stored
    simp [folder?_eq_none_of_unused unused] at stored
  -- What is in the target already is not above the new folder, so it looks as before.
  have old {name : String} {w : EntityId} (inside : c.Child target name w) :
      outline (c.insert (.folder folder)) w = c.outline w := by
    apply outline_insert_folder unused
    rw [up]
    rintro _ ⟨⟩
    exact tidy.wellFormed.loopFree.not_below_of_inside inside.inside
  obtain ⟨path, found⟩ := seen
  cases path with
  | nil => simp [mem_outline_nil, holds_insert_folder unused]
  | cons name path =>
    rw [mem_outline_cons, mem_outline_cons]
    constructor
    · rintro ⟨w, inside, seen⟩
      rcases (child_insert_folder unused).mp inside with before | ⟨rfl, _, rfl⟩
      · rw [old before] at seen
        exact .inl ⟨w, before, seen⟩
      · rw [outline_insert_folder_self unused tidy.wellFormed elsewhere] at seen
        exact .inr (by simpa using seen)
    · rintro (⟨w, before, seen⟩ | same)
      · rw [← old before] at seen
        exact ⟨w, (child_insert_folder unused).mpr (.inl before), seen⟩
      · simp only [Prod.mk.injEq, List.cons.injEq] at same
        obtain ⟨⟨rfl, rfl⟩, rfl⟩ := same
        refine ⟨folder.id, (child_insert_folder unused).mpr (.inr ⟨rfl, up, rfl⟩), ?_⟩
        simp [outline_insert_folder_self unused tidy.wellFormed elsewhere]

/-- A folder is made for a child of `source`. -/
theorem filling_insert_folder (tidy' : Tidy (c.insert (.folder folder)))
    (here : c.Child source folder.name child) (free : c.FreeFolderName folder.name target none) :
    Filling c (c.insert (.folder folder)) source target (· = ([folder.name], none)) := by
  refine .of_added tidy' (grown_insert_folder unused (.inr up))
    (mem_outline_insert_folder unused tidy up stored) ?_ ?_ ?_
  · rintro ⟨⟨path, found⟩, seen, same⟩
    simp only [heading, Prod.mk.injEq] at same
    rw [same.1] at seen
    obtain ⟨w, ⟨f, found, inside, sameName⟩, _⟩ := mem_outline_cons.mp seen
    exact free found inside (by simp) sameName
  · exact mem_outline_cons.mpr ⟨child, here, mem_outline_nil.mpr trivial⟩
  · rintro ⟨path, found⟩ _ same
    simpa [heading] using same

end

/-- A file of `source` is copied. -/
theorem filling_insert_file {file : File} (unused : c.has file.id = false) (tidy : c.Tidy)
    (tidy' : Tidy (c.insert (.file file))) (only : ∀ p, p ∈ file.parents ↔ p = target)
    (here : c.Holds source (some (file.name, file.content)))
    (free : c.FreeFileName file.name target none) :
    Filling c (c.insert (.file file)) source target (· = ([], some file.name)) := by
  have old {name : String} {w : EntityId} (inside : c.Child target name w) :
      outline (c.insert (.file file)) w = c.outline w := by
    refine outline_congr fun y below => ⟨fun _ _ => child_insert_file unused, fun found => ?_⟩
    have differs : y ≠ target := by
      rintro rfl
      exact tidy.wellFormed.loopFree.not_below_of_inside inside.inside below
    simp [holds_insert_file unused only, differs]
  have added : Filling c (c.insert (.file file)) source target
      (· = heading ([], some (file.name, file.content))) := by
    -- Only the target itself lists the new file, and it is told from what is there by its name.
    refine .of_added tidy' (grown_insert_file unused only) ?_ ?_ (mem_outline_nil.mpr here) ?_
    · rintro ⟨path, found⟩
      cases path with
      | nil => simp [mem_outline_nil, holds_insert_file unused only]
      | cons name path =>
        simp only [mem_outline_cons, child_insert_file unused, Prod.mk.injEq, reduceCtorEq, false_and,
          or_false]
        refine exists_congr fun w => and_congr_right fun inside => ?_
        rw [old inside]
    · rintro ⟨⟨path, found⟩, seen, same⟩
      simp only [heading, Prod.mk.injEq, Option.map_some, Option.map_eq_some_iff] at same
      obtain ⟨rfl, ⟨told, rfl, sameName⟩⟩ := same
      obtain ⟨id, f, found, listed, named, _⟩ := mem_outline_nil.mp seen
      exact free found listed (by simp) (named.trans sameName)
    · rintro ⟨path, found⟩ seen same
      simp only [heading, Prod.mk.injEq, Option.map_some, Option.map_eq_some_iff] at same
      obtain ⟨rfl, ⟨⟨name, content⟩, rfl, rfl⟩⟩ := same
      rw [mem_outline_nil] at seen
      rw [seen.unique tidy.distinct here]
  exact added

end Filing.Contents
