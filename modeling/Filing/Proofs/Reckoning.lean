import Filing.Proofs.Counting
import Filing.Proofs.Halting

/-!
# What is stored and what was counted

The counts of a report tell how many folders and files came and went. They do so whichever calls fail,
because a change is counted right after it, and what failed has changed nothing.

That a file was overwritten does not say whether it is gone: it may be listed in other folders, too. So
the steps of a request are told with the files that left a folder at each of them (`Ledger`).
-/
namespace Filing

variable {τ : Type}

/-! ## Sets of identifiers -/

namespace Contents

variable {c : Contents} {id : EntityId}

theorem not_mem_files (stored : id ∈ c.folders) : id ∉ c.files := by
  rintro ⟨file, found⟩
  obtain ⟨folder, found'⟩ := stored
  simp [file?_eq_none_of_folder? found'] at found

theorem not_mem_of_unused (unused : c.has id = false) : id ∉ c.folders ∧ id ∉ c.files := by
  constructor
  · rintro ⟨folder, found⟩
    simp [folder?_eq_none_of_unused unused] at found
  · rintro ⟨file, found⟩
    simp [file?_eq_none_of_unused unused] at found

@[simp] theorem folders_insert_folder (folder : Folder) :
    Contents.folders (c.insert (.folder folder)) = insert folder.id c.folders := by
  ext x
  by_cases here : folder.id = x
  · simp [folders, here]
  · simp [folders, here, Ne.symm here]

theorem files_insert_folder {folder : Folder} (noFile : folder.id ∉ c.files) :
    Contents.files (c.insert (.folder folder)) = c.files := by
  ext x
  by_cases here : folder.id = x
  · subst here
    exact iff_of_false (by simp [files]) noFile
  · simp [files, here]

theorem folders_insert_file {file : File} (noFolder : file.id ∉ c.folders) :
    Contents.folders (c.insert (.file file)) = c.folders := by
  ext x
  by_cases here : file.id = x
  · subst here
    exact iff_of_false (by simp [folders]) noFolder
  · simp [folders, here]

@[simp] theorem files_insert_file (file : File) :
    Contents.files (c.insert (.file file)) = insert file.id c.files := by
  ext x
  by_cases here : file.id = x
  · simp [files, here]
  · simp [files, here, Ne.symm here]

@[simp] theorem folders_erase : Contents.folders (c.erase id) = c.folders \ {id} := by
  ext x
  by_cases here : id = x
  · simp [folders, here]
  · simp [folders, here, Ne.symm here]

@[simp] theorem files_erase : Contents.files (c.erase id) = c.files \ {id} := by
  ext x
  by_cases here : id = x
  · simp [files, here]
  · simp [files, here, Ne.symm here]

theorem mem_files_of_listed {l : EntityId × EntityId} (listed : l ∈ c.listings) : l.1 ∈ c.files := by
  obtain ⟨file, found, _⟩ := listed
  exact ⟨file, found⟩

theorem listings_erase : Contents.listings (c.erase id) = {l ∈ c.listings | l.1 ≠ id} := by
  ext l
  by_cases here : id = l.1
  · simp [listings, here]
  · simp [listings, here, Ne.symm here]

/-- What is stored under the identifier of a file is no folder. -/
theorem not_mem_folders (stored : id ∈ c.files) : id ∉ c.folders :=
  fun here => not_mem_files here stored

end Contents

namespace MemoryStore

variable {s : MemoryStore} {file : File} {parent : EntityId}

theorem folders_takeOut (stored : s.contents.file? file.id = some file) :
    (s.takeOut file parent).contents.folders = s.contents.folders := by
  simp [Contents.folders, folder?_takeOut stored]

theorem files_takeOut_of_elsewhere (stored : s.contents.file? file.id = some file)
    (elsewhere : file.isElsewhere parent = true) :
    (s.takeOut file parent).contents.files = s.contents.files := by
  have here : file.id ∈ s.contents.files := ⟨file, stored⟩
  simp [takeOut, elsewhere, save, here]

theorem files_takeOut_of_only (only : file.isElsewhere parent = false) :
    (s.takeOut file parent).contents.files = s.contents.files \ {file.id} := by
  simp [takeOut, only, discard]

end MemoryStore

/-- What is stored again under its own identifier is no more and no less than before. -/
theorem MemoryStore.same_save_file {s : MemoryStore} {file changed : File}
    (stored : s.contents.file? file.id = some file) (sameId : changed.id = file.id) :
    (s.save (.file changed)).contents.folders = s.contents.folders ∧
      (s.save (.file changed)).contents.files = s.contents.files := by
  have here : file.id ∈ s.contents.files := ⟨file, stored⟩
  constructor
  · exact Contents.folders_insert_file (sameId ▸ Contents.not_mem_folders here)
  · simp [save, sameId, here]

theorem MemoryStore.same_save_folder {s : MemoryStore} {folder changed : Folder}
    (stored : s.contents.folder? folder.id = some folder) (sameId : changed.id = folder.id) :
    (s.save (.folder changed)).contents.folders = s.contents.folders ∧
      (s.save (.folder changed)).contents.files = s.contents.files := by
  have here : folder.id ∈ s.contents.folders := ⟨folder, stored⟩
  constructor
  · simp [save, sameId, here]
  · exact Contents.files_insert_folder (sameId ▸ Contents.not_mem_files here)

/-! ## Files that leave folders -/

/-- A file, as it is before it leaves a folder. -/
structure Departure where
  file : File
  folder : EntityId

namespace Departure

def listing (leaving : Departure) : EntityId × EntityId := (leaving.file.id, leaving.folder)

/-- No other folder lists the file, so that it goes for good. -/
def last (leaving : Departure) : Bool := !leaving.file.isElsewhere leaving.folder

end Departure

theorem Departure.ncard_files {s : MemoryStore} {leaving : Departure}
    (stored : s.contents.file? leaving.file.id = some leaving.file) :
    (s.takeOut leaving.file leaving.folder).contents.files.ncard + (if leaving.last then 1 else 0) =
      s.contents.files.ncard := by
  unfold last
  cases elsewhere : leaving.file.isElsewhere leaving.folder with
  | true => rw [MemoryStore.files_takeOut_of_elsewhere stored elsewhere, if_neg (by simp), Nat.add_zero]
  | false =>
    have here : leaving.file.id ∈ s.contents.files := ⟨_, stored⟩
    rw [MemoryStore.files_takeOut_of_only elsewhere, if_pos (by simp)]
    exact Set.ncard_sdiff_singleton_add_one here s.contents.finite_files

/-- A file leaves a folder, and another one may get there in its place. -/
structure Stage.Overwrites (before : Stage) (leaving : Departure) (after : Stage) : Prop where
  stored : before.store.contents.file? leaving.file.id = some leaving.file
  listed : leaving.folder ∈ leaving.file.parents
  left : after.store = before.store.takeOut leaving.file leaving.folder ∨
    ∃ newcomer, after.store = (before.store.takeOut leaving.file leaving.folder).save (.file newcomer)

/-- A file leaves a folder and stays in others. -/
structure Stage.Detaches (before : Stage) (leaving : Departure) (after : Stage) : Prop where
  stored : before.store.contents.file? leaving.file.id = some leaving.file
  listed : leaving.folder ∈ leaving.file.parents
  elsewhere : leaving.last = false
  left : after.store = before.store.takeOut leaving.file leaving.folder

/-- Steps from one stage to another, and what happened at those that added to `counter`. -/
inductive Ledger (rules : Rules) (counter : Tally → Nat)
    (happens : Stage → Departure → Stage → Prop) : Stage → List Departure → Stage → Prop
  | done (stage) : Ledger rules counter happens stage [] stage
  | other {first second last departures} (step : Step rules first second)
      (same : counter second.tally = counter first.tally)
      (rest : Ledger rules counter happens second departures last) :
      Ledger rules counter happens first departures last
  | counted {first second last leaving departures} (step : Step rules first second)
      (once : counter second.tally = counter first.tally + 1) (left : happens first leaving second)
      (rest : Ledger rules counter happens second departures last) :
      Ledger rules counter happens first (leaving :: departures) last

theorem Ledger.length {rules : Rules} {counter : Tally → Nat}
    {happens : Stage → Departure → Stage → Prop} {first last : Stage} {departures : List Departure}
    (ledger : Ledger rules counter happens first departures last) :
    counter first.tally + departures.length = counter last.tally := by
  induction ledger with
  | done _ => rfl
  | other _ same _ ih => omega
  | counted _ once _ _ ih =>
    rw [List.length_cons]
    omega

/-! ## Copies -/

/-- What was copied makes up for what is stored by now, if `lost` files are gone. -/
structure Stage.Added (before : Stage) (lost : Nat) (after : Stage) : Prop where
  folders : after.store.contents.folders.ncard + before.tally.foldersCopied =
    before.store.contents.folders.ncard + after.tally.foldersCopied
  files : after.store.contents.files.ncard + lost + before.tally.filesCopied =
    before.store.contents.files.ncard + after.tally.filesCopied

namespace Stage.Added

variable {first second third : Stage} {lost lost' : Nat} {s : MemoryStore} {tally : Tally}
  {id : EntityId} {name : String} {parent : Option EntityId}

theorem refl (stage : Stage) : stage.Added 0 stage := ⟨rfl, rfl⟩

theorem trans (added : first.Added lost second) (added' : second.Added lost' third) :
    first.Added (lost + lost') third where
  folders := by
    have := added.folders
    have := added'.folders
    omega
  files := by
    have := added.files
    have := added'.files
    omega

theorem newFolder (creates : Creates s id parent) : Added ⟨s, tally⟩ 0
    ⟨s.save (.folder ⟨id, name, parent⟩), { tally with foldersCopied := tally.foldersCopied + 1 }⟩ where
  folders := by
    have absent := (Contents.not_mem_of_unused creates.unused).1
    have more := Set.ncard_insert_of_notMem absent s.contents.finite_folders
    simp only [MemoryStore.save, Contents.folders_insert_folder, more]
    omega
  files := by
    have absent : (⟨id, name, parent⟩ : Folder).id ∉ s.contents.files :=
      (Contents.not_mem_of_unused creates.unused).2
    simp only [MemoryStore.save, Contents.files_insert_folder absent]
    omega

theorem newFile {source : File} (creates : Creates s id parent) : Added ⟨s, tally⟩ 0
    ⟨s.save (.file (source.copyTo id name parent)),
      { tally with filesCopied := tally.filesCopied + 1 }⟩ where
  folders := by
    have absent : (source.copyTo id name parent).id ∉ s.contents.folders :=
      (Contents.not_mem_of_unused creates.unused).1
    simp only [MemoryStore.save, Contents.folders_insert_file absent]
  files := by
    have absent : (source.copyTo id name parent).id ∉ s.contents.files :=
      (Contents.not_mem_of_unused creates.unused).2
    have more := Set.ncard_insert_of_notMem absent s.contents.finite_files
    simp only [MemoryStore.save, Contents.files_insert_file, more]
    omega

theorem evicted (leaving : Departure)
    (stored : s.contents.file? leaving.file.id = some leaving.file) :
    Added ⟨s, tally⟩ (if leaving.last then 1 else 0) ⟨s.takeOut leaving.file leaving.folder,
      { tally with filesOverwritten := tally.filesOverwritten + 1 }⟩ where
  folders := by simp only [MemoryStore.folders_takeOut stored]
  files := by
    have fewer := leaving.ncard_files stored
    simp only [fewer]

end Stage.Added

theorem Displaces.overwrites {rules : Rules} {s : MemoryStore} {file existing : File}
    {target : EntityId} {tally tally' : Tally} {store : MemoryStore}
    (displaces : Displaces rules s file existing target)
    (left : store = s.takeOut existing target ∨
      ∃ newcomer, store = (s.takeOut existing target).save (.file newcomer)) :
    Stage.Overwrites ⟨s, tally⟩ ⟨existing, target⟩ ⟨store, tally'⟩ :=
  ⟨displaces.storedExisting, displaces.listed, left⟩

/-- A step of a copy, with the file that is overwritten if one is. -/
theorem Step.added {rules : Rules} {first second : Stage} (step : Step rules first second)
    (copy : rules.operation = .copy) :
    second.tally.filesOverwritten = first.tally.filesOverwritten ∧ first.Added 0 second ∨
      ∃ leaving, second.tally.filesOverwritten = first.tally.filesOverwritten + 1 ∧
        first.Overwrites leaving second ∧ first.Added (if leaving.last then 1 else 0) second := by
  cases step with
  | @evict s tally file existing target _ displaces =>
    exact .inr ⟨⟨existing, target⟩, rfl, displaces.overwrites (.inl rfl),
      .evicted ⟨existing, target⟩ displaces.storedExisting⟩
  | merge _ => exact .inl ⟨rfl, rfl, rfl⟩
  | createFolder _ creates _ => exact .inl ⟨rfl, .newFolder creates⟩
  | createFile _ _ creates _ => exact .inl ⟨rfl, .newFile creates⟩
  | @replace s tally source existing id target _ displaces creates =>
    have evicted : Stage.Added ⟨s, tally⟩ _ _ :=
      .evicted ⟨existing, target⟩ displaces.storedExisting
    exact .inr ⟨⟨existing, target⟩, rfl, displaces.overwrites (.inr ⟨_, rfl⟩),
      evicted.trans (.newFile creates)⟩
  | deleteFolder other | takeOut other | deleteFile other => simp [other] at copy
  | relist other | displace other | reparent other | dissolve other => simp [other] at copy
  | relocateFolder other | relocateFile other | relabelFile other | retitleFile other =>
    simp [other] at copy

theorem Steps.added {rules : Rules} {first last : Stage} (steps : Steps rules first last)
    (copy : rules.operation = .copy) :
    ∃ overwritten, Ledger rules Tally.filesOverwritten Stage.Overwrites first overwritten last ∧
      first.Added (overwritten.countP Departure.last) last := by
  induction steps using Relation.ReflTransGen.head_induction_on with
  | refl => exact ⟨[], .done last, .refl last⟩
  | head step _ ih =>
    obtain ⟨overwritten, ledger, added⟩ := ih
    rcases step.added copy with ⟨same, here⟩ | ⟨leaving, once, overwrites, here⟩
    · refine ⟨overwritten, .other step same ledger, ?_⟩
      simpa using here.trans added
    · refine ⟨leaving :: overwritten, .counted step once overwrites ledger, ?_⟩
      rw [List.countP_cons, Nat.add_comm]
      exact here.trans added

/-! ## Deletions -/

/-- Nothing has come, what was deleted makes up for what is gone, and the listings that are gone, too,
are those of files that are gone and those that were `detached`. -/
structure Stage.Removed (before : Stage) (detached : List Departure) (after : Stage) : Prop where
  foldersLeft : after.store.contents.folders ⊆ before.store.contents.folders
  filesLeft : after.store.contents.files ⊆ before.store.contents.files
  folders : after.store.contents.folders.ncard + after.tally.foldersDeleted =
    before.store.contents.folders.ncard + before.tally.foldersDeleted
  files : after.store.contents.files.ncard + after.tally.filesDeleted =
    before.store.contents.files.ncard + before.tally.filesDeleted
  listings : ∀ l, l ∈ after.store.contents.listings ↔ l ∈ before.store.contents.listings ∧
    l.1 ∈ after.store.contents.files ∧ l ∉ detached.map Departure.listing
  once : (detached.map Departure.listing).Nodup
  taken : ∀ l ∈ detached.map Departure.listing, l ∈ before.store.contents.listings

namespace Stage.Removed

variable {first second third : Stage} {detached later : List Departure} {s : MemoryStore}
  {tally : Tally} {id : EntityId} {file : File} {parent : EntityId}

theorem refl (stage : Stage) : stage.Removed [] stage where
  foldersLeft := subset_rfl
  filesLeft := subset_rfl
  folders := rfl
  files := rfl
  listings l := by
    have stored : l ∈ stage.store.contents.listings → l.1 ∈ stage.store.contents.files :=
      fun ⟨file, found, _⟩ => ⟨file, found⟩
    simpa using stored
  once := .nil
  taken := by simp

theorem trans (removed : first.Removed detached second) (removed' : second.Removed later third) :
    first.Removed (detached ++ later) third where
  foldersLeft := removed'.foldersLeft.trans removed.foldersLeft
  filesLeft := removed'.filesLeft.trans removed.filesLeft
  folders := removed'.folders.trans removed.folders
  files := removed'.files.trans removed.files
  listings l := by
    rw [removed'.listings, removed.listings, List.map_append, List.mem_append, not_or]
    have left : l.1 ∈ third.store.contents.files → l.1 ∈ second.store.contents.files :=
      fun stored => removed'.filesLeft stored
    tauto
  once := by
    rw [List.map_append]
    refine removed.once.append removed'.once fun l early late => ?_
    -- What was detached before is not listed any more.
    exact ((removed.listings l).mp (removed'.taken l late)).2.2 early
  taken l member := by
    rw [List.map_append, List.mem_append] at member
    rcases member with early | late
    · exact removed.taken l early
    · exact ((removed.listings l).mp (removed'.taken l late)).1

theorem ofFolder (stored : id ∈ s.contents.folders) : Removed ⟨s, tally⟩ [] ⟨s.discard id,
    { tally with foldersDeleted := tally.foldersDeleted + 1 }⟩ := by
  have balanced : Balanced ⟨s, tally⟩ ⟨s.discard id, _⟩ := .discard stored
  have sameFiles : (s.discard id).contents.files = s.contents.files := by
    simp [MemoryStore.discard, Contents.not_mem_files stored]
  have sameListings : (s.discard id).contents.listings = s.contents.listings := by
    refine Contents.listings_erase.trans (Set.sep_eq_self_iff_mem_true.mpr fun l listed => ?_)
    rintro rfl
    exact Contents.not_mem_files stored (Contents.mem_files_of_listed listed)
  refine ⟨?_, sameFiles.subset, ?_, ?_, fun l => ?_, .nil, by simp⟩
  · simp [MemoryStore.discard]
  · have := balanced.folders
    omega
  · simp only [sameFiles]
  · simp only [sameListings, sameFiles]
    exact (refl ⟨s, tally⟩).listings l

theorem ofFile (stored : s.contents.file? id = some file) : Removed ⟨s, tally⟩ [] ⟨s.discard id,
    { tally with filesDeleted := tally.filesDeleted + 1 }⟩ := by
  have here : id ∈ s.contents.files := ⟨file, stored⟩
  have fewer := Set.ncard_sdiff_singleton_add_one here s.contents.finite_files
  have sameFolders : (s.discard id).contents.folders = s.contents.folders := by
    simp [MemoryStore.discard, Contents.not_mem_folders here]
  refine ⟨sameFolders.subset, ?_, ?_, ?_, fun l => ?_, .nil, by simp⟩
  · simp [MemoryStore.discard]
  · simp only [sameFolders]
  · simp only [MemoryStore.discard, Contents.files_erase]
    omega
  · simp only [MemoryStore.discard, Contents.listings_erase, Contents.files_erase]
    have stays : l ∈ s.contents.listings → l.1 ∈ s.contents.files := Contents.mem_files_of_listed
    simp
    tauto

theorem ofListing (stored : s.contents.file? file.id = some file) (listed : parent ∈ file.parents)
    (elsewhere : file.isElsewhere parent = true) : Removed ⟨s, tally⟩ [⟨file, parent⟩]
      ⟨s.takeOut file parent, { tally with filesDetached := tally.filesDetached + 1 }⟩ := by
  have sameFolders := @MemoryStore.folders_takeOut s file parent stored
  have sameFiles := MemoryStore.files_takeOut_of_elsewhere stored elsewhere
  have fewer := MemoryStore.listings_takeOut stored listed
  refine ⟨sameFolders.subset, sameFiles.subset, ?_, ?_, fun l => ?_, by simp, ?_⟩
  · simp only [sameFolders]
  · simp only [sameFiles]
  · have stays : l ∈ s.contents.listings → l.1 ∈ s.contents.files := Contents.mem_files_of_listed
    simp only [fewer, sameFiles]
    simp [Departure.listing]
    tauto
  · intro l member
    rw [List.map_singleton, List.mem_singleton] at member
    exact member ▸ ⟨file, stored, listed⟩

end Stage.Removed

/-- A step of a deletion, with the file that is detached if one is. -/
theorem Step.removed {rules : Rules} {first second : Stage} (step : Step rules first second)
    (delete : rules.operation = .delete) :
    second.tally.filesDetached = first.tally.filesDetached ∧ first.Removed [] second ∨
      ∃ leaving, second.tally.filesDetached = first.tally.filesDetached + 1 ∧
        first.Detaches leaving second ∧ first.Removed [leaving] second := by
  cases step with
  | deleteFolder _ dissolves => exact .inl ⟨rfl, .ofFolder dissolves.stored⟩
  | deleteFile _ stored _ => exact .inl ⟨rfl, .ofFile stored⟩
  | @takeOut s tally file parent _ stored listed _ =>
    cases elsewhere : file.isElsewhere parent with
    | true =>
      rw [File.countRemoval_of_elsewhere elsewhere]
      refine .inr ⟨⟨file, parent⟩, rfl, ⟨stored, listed, ?_, rfl⟩, .ofListing stored listed elsewhere⟩
      simp [Departure.last, elsewhere]
    | false =>
      rw [File.countRemoval_of_only elsewhere, MemoryStore.takeOut, if_neg (by simp [elsewhere])]
      exact .inl ⟨rfl, .ofFile stored⟩
  | evict other | merge other => exact absurd delete other
  | createFolder other | createFile other | replace other => simp [other] at delete
  | relist other | displace other | reparent other | dissolve other => simp [other] at delete
  | relocateFolder other | relocateFile other | relabelFile other | retitleFile other =>
    simp [other] at delete

theorem Steps.removed {rules : Rules} {first last : Stage} (steps : Steps rules first last)
    (delete : rules.operation = .delete) :
    ∃ detached, Ledger rules Tally.filesDetached Stage.Detaches first detached last ∧
      first.Removed detached last := by
  induction steps using Relation.ReflTransGen.head_induction_on with
  | refl => exact ⟨[], .done last, .refl last⟩
  | head step _ ih =>
    obtain ⟨detached, ledger, removed⟩ := ih
    rcases step.removed delete with ⟨same, here⟩ | ⟨leaving, once, detaches, here⟩
    · exact ⟨detached, .other step same ledger, here.trans removed⟩
    · exact ⟨leaving :: detached, .counted step once detaches ledger, here.trans removed⟩

/-! ## Moves into a folder -/

/-- Nothing has come, and no more files are gone than were overwritten. -/
structure Stage.Thinned (before after : Stage) : Prop where
  folders : after.store.contents.folders ⊆ before.store.contents.folders
  files : after.store.contents.files ⊆ before.store.contents.files
  overwritten : before.store.contents.files.ncard + before.tally.filesOverwritten ≤
    after.store.contents.files.ncard + after.tally.filesOverwritten

namespace Stage.Thinned

variable {first second third : Stage} {s : MemoryStore} {tally : Tally} {file : File}

theorem refl (stage : Stage) : stage.Thinned stage := ⟨subset_rfl, subset_rfl, le_rfl⟩

theorem trans (thinned : first.Thinned second) (thinned' : second.Thinned third) :
    first.Thinned third where
  folders := thinned'.folders.trans thinned.folders
  files := thinned'.files.trans thinned.files
  overwritten := thinned.overwritten.trans thinned'.overwritten

/-- The same identifiers are in use. -/
theorem of_same (folders : second.store.contents.folders = first.store.contents.folders)
    (files : second.store.contents.files = first.store.contents.files)
    (overwritten : second.tally.filesOverwritten = first.tally.filesOverwritten) :
    first.Thinned second := ⟨folders.subset, files.subset, by rw [files, overwritten]⟩

theorem evicted (leaving : Departure)
    (stored : s.contents.file? leaving.file.id = some leaving.file) :
    Thinned ⟨s, tally⟩ ⟨s.takeOut leaving.file leaving.folder,
      { tally with filesOverwritten := tally.filesOverwritten + 1 }⟩ where
  folders := (MemoryStore.folders_takeOut stored).subset
  files := by
    cases elsewhere : leaving.file.isElsewhere leaving.folder with
    | true => exact (MemoryStore.files_takeOut_of_elsewhere stored elsewhere).subset
    | false =>
      rw [MemoryStore.files_takeOut_of_only elsewhere]
      exact Set.sdiff_subset
  overwritten := by
    have fewer := leaving.ncard_files stored
    dsimp only
    split at fewer
    · omega
    · omega

end Stage.Thinned

theorem Step.thinned {rules : Rules} {first second : Stage} (step : Step rules first second)
    (move : rules.operation = .move) (bulk : rules.mode = .bulk) : first.Thinned second := by
  cases step with
  | @evict s tally file existing target _ displaces =>
    exact .evicted ⟨existing, target⟩ displaces.storedExisting
  | @relist s _ file source target _ _ relists _ =>
    obtain ⟨folders, files⟩ := MemoryStore.same_save_file relists.stored
      (rfl : (file.reparent source target).1.id = file.id)
    exact .of_same folders files rfl
  | @displace s tally file existing source target _ _ displaces relists =>
    have evicted : Stage.Thinned ⟨s, tally⟩ ⟨s.takeOut existing target, _⟩ :=
      .evicted ⟨existing, target⟩ displaces.storedExisting
    -- The other file is still there to be listed in its new place.
    have there : (s.takeOut existing target).contents.file? file.id = some file := by
      rw [MemoryStore.file?_takeOut, if_neg displaces.differs, relists.stored]
    obtain ⟨folders, files⟩ := MemoryStore.same_save_file there
      (rfl : (file.reparent source target).1.id = file.id)
    exact evicted.trans (.of_same folders files rfl)
  | @reparent s _ folder target _ _ reparents _ =>
    obtain ⟨folders, files⟩ := MemoryStore.same_save_folder reparents.stored
      (rfl : (folder.into target).id = folder.id)
    exact .of_same folders files rfl
  | merge _ => exact .of_same rfl rfl rfl
  | @dissolve s _ id _ _ dissolves =>
    have sameFiles : (s.discard id).contents.files = s.contents.files := by
      simp [MemoryStore.discard, Contents.not_mem_files dissolves.stored]
    exact ⟨by simp [MemoryStore.discard], sameFiles.subset, by simp only [sameFiles, le_refl]⟩
  | createFolder other | createFile other | replace other => simp [other] at move
  | deleteFolder other | takeOut other | deleteFile other => simp [other] at move
  | relocateFolder _ other | relocateFile _ other | relabelFile _ other | retitleFile _ other =>
    simp [other] at bulk

theorem Steps.thinned {rules : Rules} {first last : Stage} (steps : Steps rules first last)
    (move : rules.operation = .move) (bulk : rules.mode = .bulk) : first.Thinned last := by
  induction steps with
  | refl => exact .refl first
  | tail _ step ih => exact ih.trans (step.thinned move bulk)

end Filing
