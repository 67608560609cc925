import Filing.Store.Memory

/-!
# Looking things up in contents

What `folder?`, `file?` and the child lists of a listing say about contents, and what they say after
an entity was put in or taken out.
-/
namespace Filing.Contents

variable {c : Contents} {id other : EntityId}

theorem folder?_eq_some_iff {folder : Folder} :
    c.folder? id = some folder ↔ c.find? id = some (.folder folder) := by
  unfold folder?
  split <;> simp_all

theorem file?_eq_some_iff {file : File} :
    c.file? id = some file ↔ c.find? id = some (.file file) := by
  unfold file?
  split <;> simp_all

theorem id_of_folder? {folder : Folder} (found : c.folder? id = some folder) : folder.id = id := by
  have same : Entity.id (.folder folder) = id := Catalogue.key_of_find? (folder?_eq_some_iff.mp found)
  exact same

theorem id_of_file? {file : File} (found : c.file? id = some file) : file.id = id := by
  have same : Entity.id (.file file) = id := Catalogue.key_of_find? (file?_eq_some_iff.mp found)
  exact same

theorem file?_eq_none_of_folder? {folder : Folder} (found : c.folder? id = some folder) :
    c.file? id = none := by
  simp [file?, folder?_eq_some_iff.mp found]

theorem folder?_eq_none_of_file? {file : File} (found : c.file? id = some file) :
    c.folder? id = none := by
  simp [folder?, file?_eq_some_iff.mp found]

theorem has_of_folder? {folder : Folder} (found : c.folder? id = some folder) : c.has id = true := by
  simp [Catalogue.has, folder?_eq_some_iff.mp found]

theorem has_of_file? {file : File} (found : c.file? id = some file) : c.has id = true := by
  simp [Catalogue.has, file?_eq_some_iff.mp found]

theorem find?_eq_none_iff : c.find? id = none ↔ c.folder? id = none ∧ c.file? id = none := by
  unfold folder? file?
  cases c.find? id with
  | none => simp
  | some entity => cases entity <;> simp

theorem folder?_eq_none_of_unused (unused : c.has id = false) : c.folder? id = none := by
  have missing : c.find? id = none := by simpa [Catalogue.has] using unused
  exact (find?_eq_none_iff.mp missing).1

theorem file?_eq_none_of_unused (unused : c.has id = false) : c.file? id = none := by
  have missing : c.find? id = none := by simpa [Catalogue.has] using unused
  exact (find?_eq_none_iff.mp missing).2

/-- What is saved under an identifier that nobody uses replaces nothing. -/
theorem find?_insert_of_unused {entity stored : Entity} (unused : c.has entity.id = false)
    (found : c.find? id = some stored) : (c.insert entity).find? id = some stored := by
  have differs : ¬ entity.id = id := by
    rintro rfl
    simp [Catalogue.has, found] at unused
  simpa [differs] using found

/-- Contents are known by their folders and their files. -/
theorem ext_folder?_file? {c c' : Contents} (folders : ∀ id, c.folder? id = c'.folder? id)
    (files : ∀ id, c.file? id = c'.file? id) : c = c' := by
  refine Catalogue.ext_find? fun id => Option.ext fun entity => ?_
  cases entity with
  | folder folder =>
    rw [← folder?_eq_some_iff, ← folder?_eq_some_iff, folders]
  | file file =>
    rw [← file?_eq_some_iff, ← file?_eq_some_iff, files]

/-! ## Putting in and taking out -/

@[simp] theorem folder?_insert_folder (folder : Folder) :
    Contents.folder? (c.insert (.folder folder)) id =
      if folder.id = id then some folder else c.folder? id := by
  by_cases same : folder.id = id <;> simp [folder?, Entity.id, same]

@[simp] theorem file?_insert_folder (folder : Folder) :
    Contents.file? (c.insert (.folder folder)) id =
      if folder.id = id then none else c.file? id := by
  by_cases same : folder.id = id <;> simp [file?, Entity.id, same]

@[simp] theorem folder?_insert_file (file : File) :
    Contents.folder? (c.insert (.file file)) id =
      if file.id = id then none else c.folder? id := by
  by_cases same : file.id = id <;> simp [folder?, Entity.id, same]

@[simp] theorem file?_insert_file (file : File) :
    Contents.file? (c.insert (.file file)) id =
      if file.id = id then some file else c.file? id := by
  by_cases same : file.id = id <;> simp [file?, Entity.id, same]

@[simp] theorem folder?_erase :
    Contents.folder? (c.erase other) id = if other = id then none else c.folder? id := by
  by_cases same : other = id <;> simp [folder?, same]

@[simp] theorem file?_erase :
    Contents.file? (c.erase other) id = if other = id then none else c.file? id := by
  by_cases same : other = id <;> simp [file?, same]

/-! What is found after all was there before. -/

theorem file?_insert_folder_eq_some_iff {folder : Folder} {file : File} :
    Contents.file? (c.insert (.folder folder)) id = some file ↔
      ¬ folder.id = id ∧ c.file? id = some file := by
  rw [file?_insert_folder, Option.ite_none_left_eq_some]

theorem folder?_insert_file_eq_some_iff {file : File} {folder : Folder} :
    Contents.folder? (c.insert (.file file)) id = some folder ↔
      ¬ file.id = id ∧ c.folder? id = some folder := by
  rw [folder?_insert_file, Option.ite_none_left_eq_some]

theorem folder?_erase_eq_some_iff {folder : Folder} :
    Contents.folder? (c.erase other) id = some folder ↔
      ¬ other = id ∧ c.folder? id = some folder := by
  rw [folder?_erase, Option.ite_none_left_eq_some]

theorem file?_erase_eq_some_iff {file : File} :
    Contents.file? (c.erase other) id = some file ↔ ¬ other = id ∧ c.file? id = some file := by
  rw [file?_erase, Option.ite_none_left_eq_some]

/-- Files come and go without any folder noticing. -/
theorem folder?_insert_file_of_noFolder {file : File} (noFolder : c.folder? file.id = none)
    (id : EntityId) : Contents.folder? (c.insert (.file file)) id = c.folder? id := by
  rw [folder?_insert_file]
  split
  next here => rw [← here, noFolder]
  next => rfl

theorem folder?_erase_of_noFolder {gone : EntityId} (noFolder : c.folder? gone = none)
    (id : EntityId) : Contents.folder? (c.erase gone) id = c.folder? id := by
  rw [folder?_erase]
  split
  next here => rw [← here, noFolder]
  next => rfl

/-! ## Children -/

theorem mem_toList_folder {folder : Folder} :
    .folder folder ∈ c.toList ↔ c.folder? folder.id = some folder := by
  rw [folder?_eq_some_iff, Catalogue.find?_eq_some_iff]
  simp [Entity.id]

theorem mem_toList_file {file : File} :
    .file file ∈ c.toList ↔ c.file? file.id = some file := by
  rw [file?_eq_some_iff, Catalogue.find?_eq_some_iff]
  simp [Entity.id]

theorem mem_childFolders {parent : EntityId} :
    id ∈ c.childFolders parent ↔ ∃ folder, c.folder? id = some folder ∧ folder.parent = some parent := by
  simp only [childFolders, List.mem_filterMap]
  constructor
  · rintro ⟨entity, member, picked⟩
    cases entity with
    | file file => cases picked
    | folder folder =>
      simp only [Option.ite_none_right_eq_some, Option.some.injEq] at picked
      obtain ⟨inside, rfl⟩ := picked
      exact ⟨folder, mem_toList_folder.mp member, inside⟩
  · rintro ⟨folder, found, inside⟩
    have same := id_of_folder? found
    subst same
    exact ⟨.folder folder, mem_toList_folder.mpr found, by simp [inside]⟩

theorem mem_childFiles {parent : EntityId} :
    id ∈ c.childFiles parent ↔ ∃ file, c.file? id = some file ∧ parent ∈ file.parents := by
  simp only [childFiles, List.mem_filterMap]
  constructor
  · rintro ⟨entity, member, picked⟩
    cases entity with
    | folder folder => cases picked
    | file file =>
      simp only [Option.ite_none_right_eq_some, Option.some.injEq] at picked
      obtain ⟨listed, rfl⟩ := picked
      exact ⟨file, mem_toList_file.mp member, listed⟩
  · rintro ⟨file, found, listed⟩
    have same := id_of_file? found
    subst same
    exact ⟨.file file, mem_toList_file.mpr found, by simp [listed]⟩

theorem sorted_childFolders (c : Contents) (parent : EntityId) :
    (c.childFolders parent).Pairwise (· < ·) := by
  refine c.sorted.filterMap _ ?_
  intro a b before x pickedA y pickedB
  cases a with
  | file file => cases pickedA
  | folder folder =>
    cases b with
    | file file => cases pickedB
    | folder other =>
      simp only [Option.ite_none_right_eq_some, Option.some.injEq] at pickedA pickedB
      rw [← pickedA.2, ← pickedB.2]
      exact before

theorem sorted_childFiles (c : Contents) (parent : EntityId) :
    (c.childFiles parent).Pairwise (· < ·) := by
  refine c.sorted.filterMap _ ?_
  intro a b before x pickedA y pickedB
  cases a with
  | folder folder => cases pickedA
  | file file =>
    cases b with
    | folder folder => cases pickedB
    | file other =>
      simp only [Option.ite_none_right_eq_some, Option.some.injEq] at pickedA pickedB
      rw [← pickedA.2, ← pickedB.2]
      exact before

theorem nodup_childFolders (c : Contents) (parent : EntityId) : (c.childFolders parent).Nodup :=
  (c.sorted_childFolders parent).imp EntityId.ne_of_lt

theorem nodup_childFiles (c : Contents) (parent : EntityId) : (c.childFiles parent).Nodup :=
  (c.sorted_childFiles parent).imp EntityId.ne_of_lt

theorem listing?_eq_some_iff {listing : Listing} :
    c.listing? id = some listing ↔ c.folder? id = some listing.toFolder ∧
      listing.childFolders = c.childFolders id ∧ listing.childFiles = c.childFiles id := by
  simp only [listing?, Option.map_eq_some_iff]
  constructor
  · rintro ⟨folder, found, rfl⟩
    exact ⟨found, rfl, rfl⟩
  · rintro ⟨found, folders, files⟩
    refine ⟨listing.toFolder, found, ?_⟩
    cases listing
    simp_all

theorem id_of_listing? {listing : Listing} (found : c.listing? id = some listing) :
    listing.id = id :=
  id_of_folder? (listing?_eq_some_iff.mp found).1

theorem listing?_eq_none_iff : c.listing? id = none ↔ c.folder? id = none := by
  simp [listing?]

end Filing.Contents
