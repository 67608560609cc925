import Mathlib.Data.Set.Finite.Lattice
import Filing.Proofs.Returning
import Filing.Proofs.Requests

/-!
# What a deletion counts

Every deletion of a folder, every file that goes for good and every folder that a file leaves is
counted, so that the counts and what is still stored add up to the same all the time (`Balanced`),
also when something fails in between.
-/
namespace Filing

variable {τ : Type}

namespace Contents

/-- The files that are stored. -/
def files (c : Contents) : Set EntityId := {id | ∃ file, c.file? id = some file}

/-- Each stored file with each folder that lists it. -/
def listings (c : Contents) : Set (EntityId × EntityId) :=
  {l | ∃ file, c.file? l.1 = some file ∧ l.2 ∈ file.parents}

variable {c c' : Contents} {gone : Set EntityId} {left : EntityId → Set EntityId} {id parent : EntityId}

theorem mem_files : id ∈ c.files ↔ ∃ file, c.file? id = some file := Iff.rfl

theorem finite_files (c : Contents) : c.files.Finite := by
  refine c.finite_stored.subset ?_
  rintro id ⟨file, found⟩
  exact has_of_file? found

theorem finite_listings (c : Contents) : c.listings.Finite := by
  have lists (id : EntityId) : {l ∈ c.listings | l.1 = id}.Finite := by
    cases stored : c.file? id with
    | none =>
      refine Set.finite_empty.subset ?_
      rintro l ⟨⟨file, found, _⟩, rfl⟩
      simp [stored] at found
    | some file =>
      refine (file.parents.toList.map (id, ·)).finite_toSet.subset ?_
      rintro ⟨_, p⟩ ⟨⟨_, found, listed⟩, rfl⟩
      cases stored.symm.trans found
      exact List.mem_map.mpr ⟨p, listed, rfl⟩
  refine (c.finite_files.biUnion fun id _ => lists id).subset ?_
  rintro l ⟨file, found, listed⟩
  exact Set.mem_biUnion ⟨file, found⟩ ⟨⟨file, found, listed⟩, rfl⟩

namespace Cleared

theorem folders_eq (cleared : Cleared c c' gone left) : c'.folders = c.folders \ gone :=
  Set.ext fun _ => cleared.mem_folders_iff

theorem mem_files_iff (cleared : Cleared c c' gone left) :
    id ∈ c'.files ↔ ∃ file, c.file? id = some file ∧ ¬ file.OnlyIn (left id) := by
  have leaves := cleared.files id
  change (∃ file, c'.file? id = some file) ↔ _
  generalize c.file? id = before at leaves ⊢
  generalize c'.file? id = after at leaves ⊢
  cases leaves with
  | missing => simp
  | gone only => simp [only]
  | stays beyond _ => simp [beyond]

theorem listings_eq (cleared : Cleared c c' gone left) :
    c'.listings = c.listings \ {l | l.2 ∈ left l.1} := by
  ext ⟨id, parent⟩
  have leaves := cleared.files id
  simp only [listings, Set.mem_sdiff, Set.mem_ofPred_eq]
  generalize c.file? id = before at leaves ⊢
  generalize c'.file? id = after at leaves ⊢
  cases leaves with
  | missing => simp
  | gone only => simpa using only.2 parent
  | stays _ rest => simp [rest]

end Cleared

end Contents

open Contents

/-- Whether or not the file goes for good, it is one listing that is no longer there. -/
theorem MemoryStore.listings_takeOut {s : MemoryStore} {file : File} {parent : EntityId}
    (stored : s.contents.file? file.id = some file) (listed : parent ∈ file.parents) :
    (s.takeOut file parent).contents.listings = s.contents.listings \ {(file.id, parent)} := by
  rw [(cleared_takeOut stored listed).listings_eq]
  congr 1
  ext l
  simp [Prod.ext_iff]

/-- What was counted makes up for what is no longer stored. -/
structure Stage.Balanced (before after : Stage) : Prop where
  folders : after.tally.foldersDeleted + after.store.contents.folders.ncard =
    before.tally.foldersDeleted + before.store.contents.folders.ncard
  files : after.tally.filesDeleted + after.store.contents.files.ncard =
    before.tally.filesDeleted + before.store.contents.files.ncard
  listings : after.tally.filesDeleted + after.tally.filesDetached +
      after.store.contents.listings.ncard =
    before.tally.filesDeleted + before.tally.filesDetached + before.store.contents.listings.ncard

namespace Stage.Balanced

variable {s : MemoryStore} {tally : Tally} {first second third : Stage}

theorem refl (stage : Stage) : stage.Balanced stage := ⟨rfl, rfl, rfl⟩

theorem trans (balanced : first.Balanced second) (balanced' : second.Balanced third) :
    first.Balanced third :=
  ⟨balanced'.folders.trans balanced.folders, balanced'.files.trans balanced.files,
    balanced'.listings.trans balanced.listings⟩

theorem discard {id : EntityId} (stored : id ∈ s.contents.folders) :
    Balanced ⟨s, tally⟩ ⟨s.discard id, { tally with foldersDeleted := tally.foldersDeleted + 1 }⟩ := by
  -- Files are not touched, so all their listings are still there.
  have cleared := MemoryStore.cleared_discard stored
  have fewer := Set.ncard_sdiff_singleton_add_one stored s.contents.finite_folders
  rw [← cleared.folders_eq] at fewer
  refine ⟨?_, ?_, ?_⟩
  · dsimp only
    omega
  · have sameFiles : (s.discard id).contents.files = s.contents.files := by
      ext x
      simp [cleared.mem_files_iff, File.not_onlyIn_empty, mem_files]
    rw [sameFiles]
  · simp [cleared.listings_eq]

theorem takeOut {file : File} {parent : EntityId}
    (stored : s.contents.file? file.id = some file) (listed : parent ∈ file.parents) :
    Balanced ⟨s, tally⟩ ⟨s.takeOut file parent, file.countRemoval parent tally⟩ := by
  have cleared := MemoryStore.cleared_takeOut stored listed
  have sameFolders : (s.takeOut file parent).contents.folders = s.contents.folders := by
    simp [cleared.folders_eq]
  have oneListing := MemoryStore.listings_takeOut stored listed
  have member : (file.id, parent) ∈ s.contents.listings := ⟨file, stored, listed⟩
  have fewer := Set.ncard_sdiff_singleton_add_one member s.contents.finite_listings
  rw [← oneListing] at fewer
  -- Just one listing goes. Whether the file goes as well depends on where else it is listed.
  cases elsewhere : file.isElsewhere parent with
  | true =>
    have sameFiles : (s.takeOut file parent).contents.files = s.contents.files := by
      ext x
      by_cases here : file.id = x
      · subst here
        simp [mem_files, MemoryStore.file?_takeOut, elsewhere, stored]
      · simp [mem_files, MemoryStore.file?_takeOut, here]
    rw [File.countRemoval_of_elsewhere elsewhere]
    refine ⟨?_, ?_, ?_⟩
    · simp only [sameFolders]
    · simp only [sameFiles]
    · dsimp only
      omega
  | false =>
    have oneFile : (s.takeOut file parent).contents.files = s.contents.files \ {file.id} := by
      ext x
      by_cases here : file.id = x
      · subst here
        simp [mem_files, MemoryStore.file?_takeOut, elsewhere]
      · simp [mem_files, MemoryStore.file?_takeOut, here, Ne.symm here]
    have here : file.id ∈ s.contents.files := ⟨file, stored⟩
    have fewerFiles := Set.ncard_sdiff_singleton_add_one here s.contents.finite_files
    rw [← oneFile] at fewerFiles
    rw [File.countRemoval_of_only elsewhere]
    refine ⟨?_, ?_, ?_⟩
    · simp only [sameFolders]
    · dsimp only
      omega
    · dsimp only
      omega

end Stage.Balanced

namespace Desk

def Balanced (before after : Desk (Cabinet τ)) : Prop := before.stage.Balanced after.stage

variable {first second : Desk (Cabinet τ)} {extra : List Entry} {store : MemoryStore}
  {change : Tally → Tally}

theorem Kept.balanced (kept : first.Kept second extra) : first.Balanced second := by
  rw [Balanced, kept.stage]
  exact .refl first.stage

theorem Changed.balanced (changed : first.Changed second store change)
    (balanced : first.stage.Balanced ⟨store, change first.report.tally⟩) :
    first.Balanced second := by
  have stage : second.stage = ⟨store, change first.report.tally⟩ := by
    simp [Desk.stage, changed.store_eq, changed.tally]
  rwa [Balanced, stage]

theorem Failed.balanced {faults : Faults τ} {reason : RequestError → Prop} {error : RequestError}
    (failed : first.Failed faults reason error second) : first.Balanced second := by
  obtain ⟨_, kept, _⟩ := failed
  exact kept.balanced

theorem link_balanced : Link (Balanced : Desk (Cabinet τ) → Desk (Cabinet τ) → Prop) where
  refl desk := Stage.Balanced.refl desk.stage
  trans first second := Stage.Balanced.trans first second
  failing desk _ := Stage.Balanced.refl desk.stage
  leftOff desk := Stage.Balanced.refl desk.stage

theorem chain_balanced (setup : Setup τ) : Chain setup (Balanced : Desk (Cabinet τ) → _ → Prop) :=
  link_balanced.chain Kept.balanced setup

end Desk

namespace Action

variable {setup : Setup τ}

theorem balanced_deleteFile (id parent : EntityId) :
    Links Desk.Balanced (deleteFile setup.host id (some parent)) := by
  intro desk
  refine (meets_deleteFile id (some parent)).mono fun result after ended => ?_
  match result, ended with
  | .error _, failed => exact failed.balanced
  | .ok _, .inl ⟨_, kept, _⟩ => exact kept.balanced
  | .ok _, .inr ⟨file, stored, listed, _, changed⟩ =>
    cases id_of_file? stored
    exact changed.balanced (.takeOut stored listed)

theorem balanced_deleteEmptied (id : EntityId) :
    Links Desk.Balanced (deleteEmptied setup.host id) := by
  intro desk
  refine (meets_deleteEmptied id).mono fun result after ended => ?_
  match result, ended with
  | .error _, failed => exact failed.balanced
  | .ok _, .inl ⟨_, kept, _⟩ => exact kept.balanced
  | .ok _, .inr ⟨dissolves, changed⟩ => exact changed.balanced (.discard dissolves.stored)

theorem balanced_deleteFolder (depth : Nat) (id : EntityId) :
    Links Desk.Balanced (deleteFolder setup.host depth id) := by
  have chain := Desk.chain_balanced setup
  have job := chain.toJobLink
  have link := job.toLink
  induction depth generalizing id with
  | zero => exact fun _ => .tooDeep
  | succ depth ih =>
    unfold deleteFolder
    refine .bind link (.look chain fun store => looks_folder setup store id) fun found => ?_
    split
    next => exact .pure link ()
    next listing =>
      refine .bind link (.look chain fun store => looks_require setup store .delete id) fun _ => ?_
      refine .inLevel job (.bind link (.forM link fun child _ => .item job (ih child)) fun _ => ?_)
      refine .bind link (.forM link fun child _ => .item job (balanced_deleteFile child id)) fun _ => ?_
      exact .item job (balanced_deleteEmptied id)

end Action

end Filing
