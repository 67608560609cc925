import Filing.Proofs.Renaming

/-!
# One item under another identifier

An item is put in a place (`Entity.relocate`) and given an identifier (`Entity.relabel`), and what lies in
it follows (`Entity.repoint`). `Contents.Renames` says that nothing else has changed. What lay in what is
the same as before, read with the new identifier in place of the old one (`Renames.isIn`).
-/
namespace Filing

/-- The folders that list the file once it has gone from one folder to another. It goes nowhere unless
both are known. -/
def File.parentsAfter (file : File) (source target : Option EntityId) : IdSet :=
  match source, target with
  | some source, some target =>
    if source = target then file.parents else (file.parents.erase source).insert target
  | _, _ => file.parents

theorem File.relocate_eq (file : File) (source target : Option EntityId) :
    file.relocate source target = { file with parents := file.parentsAfter source target } := by
  cases source with
  | none => cases target <;> simp [relocate, Action.relocation, parentsAfter]
  | some source =>
    cases target with
    | none => simp [relocate, Action.relocation, parentsAfter]
    | some target =>
      by_cases same : source = target
      · simp [relocate, Action.relocation, parentsAfter, Option.filter, same]
      · simp [relocate, Action.relocation, parentsAfter, Option.filter, same, reparent]

namespace Entity

/-- The entity lies in the folder. -/
def IsIn (parent : EntityId) : Entity → Prop
  | folder f => f.parent = some parent
  | file f => parent ∈ f.parents

/-- The item in the place it should have. -/
def relocate (source target : Option EntityId) : Entity → Entity
  | folder f => .folder { f with parent := target <|> f.parent }
  | file f => .file { f with parents := f.parentsAfter source target }

/-- The item under its new identifier. It keeps its display name if no other identifier was desired. -/
def relabel (desired new : EntityId) : Entity → Entity
  | folder f =>
    .folder { f with id := new, name := if desired = f.id then f.name else desired.name.text }
  | file f => .file { f with id := new, name := if desired = f.id then f.name else desired.name.text }

/-- The entity with a new identifier of the folder it lies in. -/
def repoint (id renamed : EntityId) : Entity → Entity
  | folder f => .folder (f.repoint id renamed)
  | file f => .file (f.repoint id renamed)

/-- What becomes of another entity when the item gets a new identifier. Nothing lies in a file. -/
def trail (item : Entity) (renamed : EntityId) (other : Entity) : Entity :=
  match item with
  | folder f => other.repoint f.id renamed
  | file _ => other

/-- Counts that the item was moved. -/
def countMove : Entity → Tally → Tally
  | folder _, tally => { tally with foldersMoved := tally.foldersMoved + 1 }
  | file _, tally => { tally with filesMoved := tally.filesMoved + 1 }

@[simp] theorem id_relocate (item : Entity) (source target : Option EntityId) :
    (item.relocate source target).id = item.id := by
  cases item <;> rfl

@[simp] theorem id_relabel (item : Entity) (desired new : EntityId) :
    (item.relabel desired new).id = new := by
  cases item <;> rfl

theorem relabel_self (item : Entity) : item.relabel item.id item.id = item := by
  cases item <;> simp [relabel, Entity.id]

/-- What lay in the folder lies in it under its new identifier, and what lay elsewhere still does. -/
theorem isIn_repoint {id renamed parent : EntityId} {entity : Entity} :
    (entity.repoint id renamed).IsIn parent ↔
      ∃ before, entity.IsIn before ∧ parent = Contents.Relabelled.follow id renamed before := by
  cases entity with
  | folder f =>
    simp only [repoint, IsIn, Folder.repoint, Contents.Relabelled.follow]
    by_cases inside : f.parent = some id
    · simp [inside, Folder.into, eq_comm]
    · simp only [inside, if_false]
      constructor
      · intro up
        refine ⟨parent, up, ?_⟩
        have differs : parent ≠ id := fun same => inside (same ▸ up)
        simp [differs]
      · rintro ⟨before, up, same⟩
        have differs : before ≠ id := fun same => inside (same ▸ up)
        rw [same, if_neg differs, up]
  | file f =>
    simp only [repoint, IsIn, File.repoint, Contents.Relabelled.follow]
    by_cases listed : id ∈ f.parents
    · rw [if_pos listed, File.mem_parents_reparent]
      grind
    · rw [if_neg listed]
      grind

theorem repoint_of_not_isIn {id : EntityId} {entity : Entity} (outside : ¬ entity.IsIn id)
    (renamed : EntityId) : entity.repoint id renamed = entity := by
  cases entity with
  | folder f => exact congrArg folder (if_neg outside)
  | file f => exact congrArg file (if_neg outside)

theorem repoint_self (id : EntityId) (entity : Entity) : entity.repoint id id = entity := by
  by_cases inside : entity.IsIn id
  · cases entity with
    | folder f =>
      have up : f.parent = some id := inside
      simp only [repoint, Folder.repoint, up, if_true, Folder.into]
      rw [← up]
    | file f =>
      have listed : id ∈ f.parents := inside
      have parents : (f.reparent (some id) id).1.parents = f.parents := by
        apply IdSet.ext
        intro x
        rw [File.mem_parents_reparent]
        grind
      have rest : (f.reparent (some id) id).1 =
          { f with parents := (f.reparent (some id) id).1.parents } := rfl
      rw [repoint, File.repoint, if_pos listed, rest, parents]
  · exact repoint_of_not_isIn inside id

end Entity

/-- The path is that of this stored item. -/
inductive Path.Names (c : Contents) : Path → Entity → Prop
  | folder {id : EntityId} {folder : Folder} (found : c.folder? id = some folder) :
      Names c (.ofFolder id) (.folder folder)
  | file {source : Option EntityId} {id : EntityId} {file : File} (found : c.file? id = some file) :
      Names c ⟨source, some id⟩ (.file file)

namespace Contents

/-- What was stored under `id` is `renamed` now, and all the rest is what `follow` makes of it. -/
def Renames (c c' : Contents) (id : EntityId) (renamed : Entity) (follow : Entity → Entity) : Prop :=
  ∀ x, c'.find? x =
    if x = renamed.id then some renamed else if x = id then none else (c.find? x).map follow

variable {c c' between : Contents}

theorem find?_of_names {path : Path} {item : Entity} (names : path.Names c item) :
    c.find? item.id = some item := by
  cases names with
  | folder found =>
    cases id_of_folder? found
    exact folder?_eq_some_iff.mp found
  | file found =>
    cases id_of_file? found
    exact file?_eq_some_iff.mp found

theorem names_unique {path : Path} {item other : Entity} (names : path.Names c item)
    (names' : path.Names c other) : item = other := by
  cases names with
  | folder found =>
    cases names' with
    | folder found' => exact congrArg Entity.folder (Option.some.inj (found.symm.trans found'))
  | file found =>
    cases names' with
    | file found' => exact congrArg Entity.file (Option.some.inj (found.symm.trans found'))

namespace Renames

variable {id x : EntityId} {renamed entity : Entity} {follow follow' : Entity → Entity}

theorem arrived (renames : c.Renames c' id renamed follow) : c'.find? renamed.id = some renamed := by
  rw [renames, if_pos rfl]

theorem gone (renames : c.Renames c' id renamed follow) (differs : id ≠ renamed.id) :
    c'.find? id = none := by
  rw [renames, if_neg differs, if_pos rfl]

theorem others (renames : c.Renames c' id renamed follow) (elsewhere : x ≠ renamed.id)
    (differs : x ≠ id) : c'.find? x = (c.find? x).map follow := by
  rw [renames, if_neg elsewhere, if_neg differs]

theorem congr (renames : c.Renames c' id renamed follow)
    (same : ∀ {x entity}, c.find? x = some entity → follow entity = follow' entity) :
    c.Renames c' id renamed follow' := by
  intro x
  rw [renames x]
  cases found : c.find? x with
  | none => rfl
  | some entity => simp [same found]

/-- Everything else lies where it lay, with the new identifier in place of the old one. -/
theorem isIn (renames : c.Renames c' id renamed (.repoint id renamed.id))
    (found : c.find? x = some entity) (differs : x ≠ id) (elsewhere : x ≠ renamed.id) :
    ∃ later, c'.find? x = some later ∧ ∀ parent, later.IsIn parent ↔
      ∃ before, entity.IsIn before ∧ parent = Relabelled.follow id renamed.id before := by
  refine ⟨entity.repoint id renamed.id, ?_, fun parent => Entity.isIn_repoint⟩
  rw [renames.others elsewhere differs, found]
  rfl

end Renames

/-- What an entity lies in is a stored folder, and that is no file. -/
theorem WellFormed.trail_eq_repoint (wf : c.WellFormed) {path : Path} {item : Entity}
    (names : path.Names c item) (renamed : EntityId) {x : EntityId} {entity : Entity}
    (found : c.find? x = some entity) :
    item.trail renamed entity = entity.repoint item.id renamed := by
  cases names with
  | folder _ => rfl
  | @file _ id file stored =>
    cases id_of_file? stored
    have noFolder := folder?_eq_none_of_file? stored
    have outside : ¬ entity.IsIn file.id := by
      intro inside
      cases entity with
      | folder f =>
        obtain ⟨_, above⟩ := wf.folderParent (folder?_eq_some_iff.mpr found) inside
        simp [noFolder] at above
      | file f =>
        obtain ⟨_, above⟩ := wf.fileParent (file?_eq_some_iff.mpr found) inside
        simp [noFolder] at above
    exact (Entity.repoint_of_not_isIn outside renamed).symm

/-- The folder is put in its place, and then it gets its identifier. -/
theorem Renames.of_relabelled {folder placed : Folder} {new : EntityId} {name : String}
    (stored : between.folder? folder.id = some placed)
    (folders : ∀ x, x ≠ folder.id → between.folder? x = c.folder? x)
    (files : ∀ x, between.file? x = c.file? x)
    (relabelled : between.Relabelled c' folder.id new name) :
    c.Renames c' folder.id (.folder { placed with id := new, name })
      (.repoint folder.id new) := by
  intro x
  have folderHere := relabelled.folders x
  have fileHere := relabelled.files x
  rw [files] at fileHere
  change c'.find? x = if x = new then _ else if x = folder.id then none else _
  -- The folder has its new identifier, nothing has the old one, and the others keep theirs.
  by_cases here : x = new
  · rw [if_pos here] at folderHere ⊢
    rw [stored] at folderHere
    exact folder?_eq_some_iff.mp folderHere
  rw [if_neg here] at folderHere ⊢
  by_cases old : x = folder.id
  · rw [if_pos old] at folderHere ⊢
    have noFile : c.file? x = none := by
      rw [← files, old]
      exact file?_eq_none_of_folder? stored
    rw [noFile] at fileHere
    exact find?_eq_none_iff.mpr ⟨folderHere, fileHere⟩
  rw [if_neg old] at folderHere ⊢
  rw [folders x old] at folderHere
  cases found : c.find? x with
  | none =>
    obtain ⟨noFolder, noFile⟩ := find?_eq_none_iff.mp found
    rw [noFolder] at folderHere
    rw [noFile] at fileHere
    exact find?_eq_none_iff.mpr ⟨folderHere, fileHere⟩
  | some entity =>
    cases entity with
    | folder other =>
      rw [folder?_eq_some_iff.mpr found] at folderHere
      exact folder?_eq_some_iff.mp folderHere
    | file other =>
      rw [file?_eq_some_iff.mpr found] at fileHere
      exact file?_eq_some_iff.mp fileHere

/-- The file is put in its place, and then it gets its identifier and its name. -/
theorem Renames.of_labelled {file placed : File} {new : EntityId} {name : String}
    (others : ∀ x, x ≠ file.id → between.find? x = c.find? x) :
    c.Renames (Catalogue.insert ((between.erase file.id).insert (.file { placed with id := new }))
      (.file { placed with id := new, name })) file.id (.file { placed with id := new, name }) id := by
  intro x
  change _ = if x = new then _ else if x = file.id then none else _
  simp only [Catalogue.find?_insert, Catalogue.find?_erase, Entity.id]
  by_cases here : x = new
  · simp [here]
  by_cases old : x = file.id
  · subst old
    simp [here, Ne.symm here]
  · simp [here, old, Ne.symm here, Ne.symm old, others x old]

end Contents

end Filing
