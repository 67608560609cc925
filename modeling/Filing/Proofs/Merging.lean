import Filing.Proofs.Absorbing

/-!
# Merging piece by piece

`Merging` is what holds while a folder is being emptied into another one: some of its child folders
are done, and what is at issue so far has gone over. Each piece of work is such a stretch of merging,
and stretches add up (`Merging.trans`). With everything at issue the folder can be taken away if
nothing is left in it, and then it was merged (`Merging.merged`).
-/
namespace Filing.Contents

variable {c c' c'' : Contents} {source target id y : EntityId}
  {atIssue later : List String × EntityId → Prop} {done more : List EntityId}

structure Merging (c c' : Contents) (source target : EntityId) (done : List EntityId)
    (atIssue : List String × EntityId → Prop) : Prop where
  tidy : c'.Tidy
  kept : ∀ y, (∀ child ∈ done, ¬ c.Below y child) → c'.folder? y = c.folder? y
  outside : ∀ y, ¬ c.Below y source → ¬ c.Below y target → Alike c c' none y
  fewer : ∀ name child, c'.Child source name child → c.Child source name child
  absorbs : Absorbs c c' source target atIssue
  /-- A child that is done and still there has something in it that had to stay. -/
  spent : ∀ child ∈ done, ∀ name, c'.Child source name child →
    ∃ seen ∈ c.view source, seen.1.head? = some name ∧ c.Taken target seen

theorem Alike.trans (first : Alike c c' none y) (second : Alike c' c'' none y) :
    Alike c c'' none y where
  folders name child differs := (second.folders name child differs).trans (first.folders name child differs)
  files file := (second.files file).trans (first.files file)

theorem Alike.refl (c : Contents) (except : Option EntityId) (y : EntityId) : Alike c c except y :=
  ⟨fun _ _ _ => Iff.rfl, fun _ => Iff.rfl⟩

namespace Merging

theorem of_taken (tidy : c.Tidy) (taken : ∀ seen, atIssue seen → c.Taken target seen) :
    Merging c c source target [] atIssue where
  tidy := tidy
  kept _ _ := rfl
  outside y _ _ := .refl c none y
  fewer _ _ inside := inside
  absorbs := .of_taken taken
  spent := by simp

/-- What is not below a child that is done goes up as before. -/
theorem below_iff (merging : Merging c c' source target done atIssue)
    (apart : ∀ child ∈ done, ¬ c.Below y child) : c'.Below y id ↔ c.Below y id := by
  apply below_congr
  intro z above
  have same := merging.kept z fun child member below => apart child member (above.trans below)
  simp [parentOf, same]

theorem trans (first : Merging c c' source target done atIssue)
    (second : Merging c' c'' source target more later) (distinct : c.DistinctNames)
    (inside : ∀ child ∈ done, c.Below child source) :
    Merging c c'' source target (done ++ more) fun seen => atIssue seen ∨ later seen where
  tidy := second.tidy
  kept y apart := by
    have early (child : EntityId) (member : child ∈ done) : ¬ c.Below y child :=
      apart child (by simp [member])
    rw [← first.kept y early]
    apply second.kept
    intro child member
    rw [first.below_iff early]
    exact apart child (by simp [member])
  outside y notSource notTarget := by
    have early (child : EntityId) (member : child ∈ done) : ¬ c.Below y child :=
      fun below => notSource (below.trans (inside child member))
    apply (first.outside y notSource notTarget).trans
    apply second.outside
    · rwa [first.below_iff early]
    · rwa [first.below_iff early]
  fewer name child there := first.fewer name child (second.fewer name child there)
  absorbs := first.absorbs.trans second.absorbs distinct
  spent child member name there := by
    rcases List.mem_append.mp member with early | late
    · exact first.spent child early name (second.fewer name child there)
    -- What is in the way of a child later on was in its way at first.
    · obtain ⟨seen, here, head, taken⟩ := second.spent child late name there
      have before := ((first.absorbs.left seen).mp here).1
      exact ⟨seen, before, head, (first.absorbs.taken_iff distinct before).mp taken⟩

theorem congr (merging : Merging c c' source target done atIssue)
    (same : ∀ seen ∈ c.view source, later seen ↔ atIssue seen) :
    Merging c c' source target done later :=
  { merging with absorbs := merging.absorbs.congr same }

section

variable (merging : Merging c c' source target done atIssue) (loopFree : c.LoopFree)
  (children : ∀ child ∈ done, c.Inside child source)
include merging loopFree children

/-- A child that is not done yet is as it was. -/
theorem folder?_of_fresh (up : c.Inside id source) (fresh : id ∉ done) :
    c'.folder? id = c.folder? id := by
  apply merging.kept
  intro child member below
  have same := loopFree.eq_of_siblings up (children child member) (below_refl c id) below
  exact fresh (same ▸ member)

theorem beside (beside : Beside c source target) : Beside c' source target := by
  have away (child : EntityId) (member : child ∈ done) :
      ¬ c.Below source child ∧ ¬ c.Below target child :=
    beside.not_below_child loopFree (.inl (children child member))
  have sourceAway (child : EntityId) (member : child ∈ done) := (away child member).1
  have targetAway (child : EntityId) (member : child ∈ done) := (away child member).2
  constructor
  · simpa [folders, merging.kept source sourceAway] using beside.stored
  · simpa [folders, merging.kept target targetAway] using beside.destination
  · rw [merging.below_iff targetAway]
    exact beside.apart
  · rw [merging.below_iff sourceAway]
    exact beside.apart'

end

end Merging

/-! ## The pieces -/

/-- A file left `source` and is listed in `target`. -/
structure Relisted (c c' : Contents) (source target file : EntityId) : Prop where
  folders : ∀ y, c'.folder? y = c.folder? y
  names : ∀ other, c'.fileName other = c.fileName other
  lists : ∀ y other, c'.Lists y other ↔
    if other = file then y = target ∨ c.Lists y file ∧ y ≠ source else c.Lists y other

theorem child_congr (folders : ∀ y, c'.folder? y = c.folder? y) (name : String) (child : EntityId) :
    c'.Child y name child ↔ c.Child y name child := by
  unfold Child
  rw [folders]

theorem leads_congr (folders : ∀ y, c'.folder? y = c.folder? y) {path : List String} :
    c'.Leads id path y ↔ c.Leads id path y := by
  have go {c c' : Contents} (folders : ∀ y, c'.folder? y = c.folder? y) {id : EntityId}
      (leads : c'.Leads id path y) : c.Leads id path y := by
    induction leads with
    | here id => exact .here id
    | down inside _ ih => exact .down ((child_congr folders _ _).mp inside) ih
  exact ⟨go folders, go fun y => (folders y).symm⟩

namespace Relisted

variable {file : EntityId}

theorem absorbs (relisted : Relisted c c' source target file) (loopFree : c.LoopFree)
    (listed : c.Lists source file) (beside : Beside c source target)
    (free : ¬ c.Taken target ([], file)) :
    Absorbs c c' source target (· = ([], file)) where
  names := relisted.names
  into := by
    rintro ⟨path, other⟩
    simp only [mem_view, leads_congr relisted.folders, relisted.lists]
    by_cases here : other = file
    · subst here
      simp only [↓reduceIte]
      -- Without loops, only the empty path leads from a folder to itself.
      constructor
      · rintro ⟨folder, leads, rfl | ⟨listed', _⟩⟩
        · cases leads.eq_nil loopFree
          exact .inr ⟨⟨source, .here source, listed⟩, rfl, free⟩
        · exact .inl ⟨folder, leads, listed'⟩
      · rintro (⟨folder, leads, listed'⟩ | ⟨_, same, _⟩)
        · refine ⟨folder, leads, .inr ⟨listed', ?_⟩⟩
          rintro rfl
          exact beside.apart' (below_of_leads leads)
        · cases same
          exact ⟨target, .here target, .inl rfl⟩
    · simp [here]
  left := by
    rintro ⟨path, other⟩
    simp only [mem_view, leads_congr relisted.folders, relisted.lists]
    by_cases here : other = file
    · subst here
      simp only [↓reduceIte, Prod.mk.injEq, and_true]
      constructor
      · rintro ⟨folder, leads, rfl | ⟨listed', differs⟩⟩
        · exact absurd (below_of_leads leads) beside.apart
        · refine ⟨⟨folder, leads, listed'⟩, ?_⟩
          rintro rfl
          cases leads
          exact absurd rfl differs
      · rintro ⟨⟨folder, leads, listed'⟩, taken⟩
        refine ⟨folder, leads, .inr ⟨listed', ?_⟩⟩
        rintro rfl
        cases leads.eq_nil loopFree
        exact free (taken rfl)
    · simp [here]

theorem merging (relisted : Relisted c c' source target file) (loopFree : c.LoopFree)
    (tidy' : c'.Tidy) (listed : c.Lists source file) (beside : Beside c source target)
    (free : ¬ c.Taken target ([], file)) :
    Merging c c' source target [] (· = ([], file)) where
  tidy := tidy'
  kept y _ := relisted.folders y
  outside y notSource notTarget := by
    -- Every folder but the two has the same children as before and lists the same files.
    refine ⟨fun name child _ => child_congr relisted.folders name child, fun other => ?_⟩
    rw [relisted.lists]
    split
    next here =>
      subst here
      constructor
      · rintro (rfl | ⟨listed', _⟩)
        · exact absurd (below_refl c y) notTarget
        · exact listed'
      · intro listed'
        refine .inr ⟨listed', ?_⟩
        rintro rfl
        exact notSource (below_refl c y)
    next => exact Iff.rfl
  fewer name child := (child_congr relisted.folders name child).mp
  absorbs := relisted.absorbs loopFree listed beside free
  spent := by simp

end Relisted

theorem merging_reparented {folder : Folder} (tidy : c.Tidy)
    (tidy' : (c.reparented folder target).Tidy) (stored : c.folder? id = some folder)
    (inside : folder.parent = some source) (beside : Beside c source target)
    (free : c.FreeFolderName folder.name target (some id)) :
    Merging c (c.reparented folder target) source target [id]
      fun seen => seen.1.head? = some folder.name where
  tidy := tidy'
  kept y notBelow := by
    -- Only the folder itself was written to, and it lies below itself.
    have differs : folder.id ≠ y := by
      rintro rfl
      have sameId := id_of_folder? stored
      subst sameId
      exact notBelow _ (by simp) (below_refl c _)
    simp [reparented, differs]
  outside y notSource notTarget := by
    -- The two folders whose children change are its old parent and its new one.
    apply alike_reparented stored
    · rintro rfl
      exact notTarget (below_refl c y)
    · intro up
      have here : c.Inside id source := inside_iff.mpr ⟨folder, stored, inside⟩
      rw [inside_unique up here] at notSource
      exact notSource (below_refl c source)
  fewer name child there := by
    rw [child_reparented stored] at there
    split at there
    next => exact absurd there.1 beside.ne
    next => exact there
  absorbs := absorbs_reparented tidy stored inside beside free
  spent child member name there := by
    rw [List.mem_singleton] at member
    rw [child_reparented stored, if_pos member] at there
    exact absurd there.1 beside.ne

theorem Merged.merging {there : EntityId} {name : String} (merged : Merged c c' id there)
    (tidy : c.Tidy) (tidy' : c'.Tidy) (here : c.Child source name id)
    (fits : c.Child target name there) (beside : Beside c source target) :
    Merging c c' source target [id] fun seen => seen.1.head? = some name where
  tidy := tidy'
  kept y notBelow := merged.kept y (notBelow id (by simp))
  outside y notSource notTarget := by
    apply merged.alike
    · exact fun below => notSource (below.trans here.inside.below)
    · exact fun below => notTarget (below.trans fits.inside.below)
    · intro up
      rw [inside_unique up here.inside] at notSource
      exact notSource (below_refl c source)
  fewer other child inside := by
    by_cases isId : child = id
    · subst isId
      exact merged.child_of_child inside
    · have loopFree := tidy.wellFormed.loopFree
      have alike := merged.outside source (beside.not_below_child loopFree (.inl here.inside)).1
        (beside.not_below_child loopFree (.inr fits.inside)).1
      exact (alike.folders other child (by simpa using isId)).mp inside
  absorbs := merged.absorbs_parent tidy tidy'.distinct here fits beside
  spent child member other inside := by
    rw [List.mem_singleton] at member
    subst member
    -- The folder is still there, so something in it had to stay.
    have sameName := ((merged.child_of_child inside).name_unique here).2
    have stays : c'.folder? child ≠ none := by
      obtain ⟨folder, found, _⟩ := inside
      simp [found]
    have stuck : ∃ seen ∈ c.view child, c.Taken there seen := by
      by_contra nothing
      exact stays (merged.gone_iff.mpr fun seen below taken => nothing ⟨seen, below, taken⟩)
    obtain ⟨⟨path, file⟩, below, taken⟩ := stuck
    refine ⟨(name :: path, file), ?_, by simp [sameName], ?_⟩
    · exact (mem_view_of_child here tidy.distinct).mpr below
    · exact (taken_of_child tidy.distinct fits).mpr taken

/-- A folder may be moved into `target`, and what has its name there is not above it. -/
structure Fits (c : Contents) (folder : Folder) (target : EntityId) : Prop where
  stored : c.folder? folder.id = some folder
  destination : ∃ f, c.folder? target = some f
  away : ¬ c.Below target folder.id
  elsewhere : folder.parent ≠ some target
  notUnder : ∀ there, c.Child target folder.name there → ¬ c.Below folder.id there

theorem Fits.eq_of_listing {folder : Folder} {listing : Listing} (fits : Fits c folder target)
    (found : c.listing? folder.id = some listing) : folder = listing.toFolder :=
  Option.some.inj (fits.stored.symm.trans (listing?_eq_some_iff.mp found).1)

/-- A child of `source` can go into a folder beside `source`. -/
theorem Beside.fits {folder : Folder} (beside : Beside c source target)
    (stored : c.folder? folder.id = some folder) (up : folder.parent = some source) :
    Fits c folder target where
  stored := stored
  destination := beside.destination
  away below := beside.apart (below.trans (inside_iff.mpr ⟨folder, stored, up⟩).below)
  elsewhere here := beside.ne (Option.some.inj (up.symm.trans here))
  notUnder there fits below := by
    have inside : c.Inside folder.id source := inside_iff.mpr ⟨folder, stored, up⟩
    rcases Contents.below_iff.mp below with same | ⟨parent, inside', rest⟩
    · rw [← same] at fits
      exact beside.ne (inside_unique inside fits.inside)
    · cases inside_unique inside inside'
      exact beside.apart' (rest.trans fits.inside.below)

/-- The folder that has the name is beside the one that comes. -/
theorem Fits.beside {folder : Folder} {there : EntityId} (fits : Fits c folder target)
    (inside : c.Child target folder.name there) : Beside c folder.id there where
  stored := ⟨folder, fits.stored⟩
  destination := mem_folders_of_inside inside.inside
  apart below := by
    have differs : there ≠ folder.id := by
      rintro rfl
      obtain ⟨f, found, up, _⟩ := inside
      cases found.symm.trans fits.stored
      exact fits.elsewhere up
    exact fits.away (below.parent_of_ne differs inside.inside)
  apart' := fits.notUnder there inside

/-- The folder was put into `target` as it is, or merged into the one that has its name there. -/
inductive Arrived (c : Contents) (folder : Folder) (target : EntityId) : Contents → Prop
  | whole (free : c.FreeFolderName folder.name target (some folder.id)) :
      Arrived c folder target (c.reparented folder target)
  | merged {c' there} (fits : c.Child target folder.name there) (merged : Merged c c' folder.id there) :
      Arrived c folder target c'

theorem Arrived.merging {folder : Folder} (arrived : Arrived c folder target c') (tidy : c.Tidy)
    (tidy' : c'.Tidy) (stored : c.folder? folder.id = some folder)
    (inside : folder.parent = some source) (beside : Beside c source target) :
    Merging c c' source target [folder.id] fun seen => seen.1.head? = some folder.name := by
  cases arrived with
  | whole free => exact merging_reparented tidy tidy' stored inside beside free
  | merged fits merged =>
    exact merged.merging tidy tidy' ⟨folder, stored, inside, rfl⟩ fits beside

/-! ## At the end -/

theorem child_erase {name : String} {child : EntityId} :
    Child (c.erase id) y name child ↔ c.Child y name child ∧ child ≠ id := by
  unfold Child
  by_cases here : id = child
  · simp [here]
  · simp [here, Ne.symm here]

theorem lists_erase {file : EntityId} (noFile : c.file? id = none) :
    Lists (c.erase id) y file ↔ c.Lists y file := by
  unfold Lists
  by_cases here : id = file
  · subst here
    simp [noFile]
  · simp [here]

theorem alike_erase (noFile : c.file? id = none) (outside : ¬ c.Inside id y) :
    Alike c (c.erase id) none y where
  folders name child _ := by
    rw [child_erase]
    constructor
    · exact And.left
    · intro inside
      refine ⟨inside, ?_⟩
      rintro rfl
      exact outside inside.inside
  files file := lists_erase noFile

namespace Merging

/-- Nothing is left exactly if nothing had to stay. -/
theorem vacant_iff (merging : Merging c c' source target (c.childFolders source) atIssue)
    (all : ∀ seen ∈ c.view source, atIssue seen) :
    c'.Vacant source ↔ ∀ seen ∈ c.view source, ¬ c.Taken target seen := by
  constructor
  · intro vacant seen here taken
    have still : seen ∈ c'.view source := (merging.absorbs.left seen).mpr ⟨here, fun _ => taken⟩
    obtain ⟨path, file⟩ := seen
    cases path with
    | nil =>
      obtain ⟨f, found, listed⟩ := mem_view_nil.mp still
      exact vacant.files found listed
    | cons name path =>
      obtain ⟨child, inside, _⟩ := mem_view_cons.mp still
      exact vacant.folders child inside.inside
  · intro free
    constructor
    -- A child folder that is still there has something in it that had to stay.
    · intro child up
      obtain ⟨folder, found, up⟩ := inside_iff.mp up
      have inside := merging.fewer folder.name child ⟨folder, found, up, rfl⟩
      obtain ⟨seen, here, _, taken⟩ := merging.spent child
        (mem_childFolders_iff_inside.mpr inside.inside) folder.name ⟨folder, found, up, rfl⟩
      exact free seen here taken
    · intro file f found listed
      have still : ([], file) ∈ c'.view source := mem_view_nil.mpr ⟨f, found, listed⟩
      obtain ⟨here, taken⟩ := (merging.absorbs.left _).mp still
      exact free _ here (taken (all _ here))

/-- The emptied folder itself was not touched. -/
theorem folder?_source (merging : Merging c c' source target (c.childFolders source) atIssue)
    (loopFree : c.LoopFree) : c'.folder? source = c.folder? source := by
  apply merging.kept
  intro child member
  exact loopFree.not_below_of_inside (mem_childFolders_iff_inside.mp member)

/-- Something had to stay, so the folder stays as well. -/
theorem merged_of_filled (merging : Merging c c' source target (c.childFolders source) atIssue)
    (all : ∀ seen ∈ c.view source, atIssue seen) (loopFree : c.LoopFree)
    (stored : c.folder? source ≠ none) (filled : ¬ c'.Vacant source) : Merged c c' source target where
  kept y notBelow := by
    apply merging.kept
    intro child member below
    exact notBelow (below.trans (mem_childFolders_iff_inside.mp member).below)
  stays := .inr (merging.folder?_source loopFree)
  outside y notSource notTarget := by
    have alike := merging.outside y notSource notTarget
    exact ⟨fun name child _ => alike.folders name child (by simp), alike.files⟩
  absorbs := merging.absorbs.congr fun seen here => by simp [all seen here]
  gone_iff := by
    rw [merging.folder?_source loopFree, ← merging.vacant_iff all]
    simp [stored, filled]

/-- Nothing had to stay, and the folder was taken away. -/
theorem merged_of_vacant (merging : Merging c c' source target (c.childFolders source) atIssue)
    (all : ∀ seen ∈ c.view source, atIssue seen) (loopFree : c.LoopFree)
    (beside : Beside c source target) (vacant : c'.Vacant source) : Merged c (c'.erase source) source target := by
  have still := merging.folder?_source loopFree
  have noFile : c'.file? source = none := by
    obtain ⟨folder, stored⟩ := beside.stored
    exact file?_eq_none_of_folder? (still.trans stored)
  have above (child : EntityId) (member : child ∈ c.childFolders source) : ¬ c.Below source child :=
    loopFree.not_below_of_inside (mem_childFolders_iff_inside.mp member)
  -- Nothing was seen in the folder any more, so both views are as they were with it.
  have sameTarget : view (c'.erase source) target = c'.view target := by
    refine view_congr fun y below => alike_erase noFile fun inside => ?_
    exact beside.apart' ((merging.below_iff above).mp (inside.trans_below below))
  have sameSource : view (c'.erase source) source = c'.view source := by
    refine view_congr fun y below => alike_erase noFile fun inside => ?_
    rcases Relation.ReflTransGen.cases_tail below with rfl | ⟨child, _, up⟩
    · exact vacant.folders source inside
    · exact vacant.folders child up
  have filled := merging.vacant_iff all
  constructor
  · intro y notBelow
    have differs : source ≠ y := by
      rintro rfl
      exact notBelow (below_refl c source)
    rw [folder?_erase, if_neg differs]
    apply merging.kept
    intro child member below
    exact notBelow (below.trans (mem_childFolders_iff_inside.mp member).below)
  · exact .inl (by simp)
  · intro y notSource notTarget
    have alike := merging.outside y notSource notTarget
    constructor
    · intro name child differs
      rw [child_erase, alike.folders name child (by simp)]
      simp only [and_iff_left_iff_imp]
      rintro _ rfl
      exact differs rfl
    · intro file
      rw [lists_erase noFile, alike.files]
  · have absorbs : Absorbs c c' source target fun _ => True :=
      merging.absorbs.congr fun seen here => by simp [all seen here]
    constructor
    · intro file
      rw [← absorbs.names]
      by_cases here : source = file
      · subst here
        simp [fileName, noFile]
      · simp [fileName, here]
    · rw [sameTarget]
      exact absorbs.into
    · rw [sameSource]
      exact absorbs.left
  · simp only [folder?_erase, ↓reduceIte, true_iff]
    exact filled.mp vacant

end Merging

end Filing.Contents
