import Filing.Proofs.Lookup
import Filing.Proofs.Parents

/-!
# The steps of a request

`Step` lists everything that work on a request may do to what is stored, each with what was made sure
of at that moment. The guards speak of what is stored when the change is made, not of what was looked
up earlier. A file that takes the place of another is one step when it gets there and a step of the
other file alone when it does not.
-/
namespace Filing

/-- Nobody is given or denied anything when a file is taken out of a folder. -/
theorem MemoryStore.allows_takeOut (s : MemoryStore) (file : File) (parent : EntityId) :
    (s.takeOut file parent).allows = s.allows := by
  unfold takeOut
  split
  · rfl
  · rfl

/-- What is stored and what was counted so far. -/
structure Stage where
  store : MemoryStore
  tally : Tally

/-- What stays the same while a request is worked on. -/
structure Rules where
  operation : Operation
  mode : Mode
  interactive : Bool

def Desk.rules {σ : Type} (desk : Desk σ) : Rules where
  operation := desk.report.operation
  mode := desk.report.mode
  interactive := desk.interactive

namespace Contents

/-- No folder inside `parent` has the display name, but for `except`. -/
def FreeFolderName (c : Contents) (name : String) (parent : EntityId) (except : Option EntityId) :
    Prop :=
  ∀ {id folder}, c.folder? id = some folder → folder.parent = some parent → some id ≠ except →
    folder.name ≠ name

/-- No file listed in `parent` has the display name, but for `except`. -/
def FreeFileName (c : Contents) (name : String) (parent : EntityId) (except : Option EntityId) :
    Prop :=
  ∀ {id file}, c.file? id = some file → parent ∈ file.parents → some id ≠ except →
    file.name ≠ name

/-- Nothing lies in the folder. -/
structure Vacant (c : Contents) (id : EntityId) : Prop where
  folders : ∀ x, ¬ c.Inside x id
  files : ∀ {x file}, c.file? x = some file → id ∉ file.parents

end Contents

/-- `file` may take the place of `existing` in `target`, and it was decided that it does. -/
structure Displaces (rules : Rules) (store : MemoryStore) (file existing : File)
    (target : EntityId) : Prop where
  asked : rules.interactive = true
  stored : store.contents.file? file.id = some file
  storedExisting : store.contents.file? existing.id = some existing
  listed : target ∈ existing.parents
  differs : existing.id ≠ file.id
  sameName : existing.name = file.name
  permitted : store.allows (existing.removalPermission target) existing.id = true

/-- A file goes from `source` to `target` and changes by that. -/
structure Relists (store : MemoryStore) (file : File) (source : Option EntityId)
    (target : EntityId) : Prop where
  stored : store.contents.file? file.id = some file
  destination : ∃ folder, store.contents.folder? target = some folder
  permitted : store.allows .edit file.id = true
  changes : (file.reparent source target).2 = true

/-- A folder goes into `target`, which is not below it. -/
structure Reparents (store : MemoryStore) (folder : Folder) (target : EntityId) : Prop where
  stored : store.contents.folder? folder.id = some folder
  destination : ∃ folder, store.contents.folder? target = some folder
  away : ¬ store.contents.Below target folder.id
  permitted : store.allows .edit folder.id = true
  changes : folder.parent ≠ some target

theorem Reparents.loopFree {store : MemoryStore} {folder : Folder} {target : EntityId}
    (reparents : Reparents store folder target) (loopFree : store.contents.LoopFree) :
    Contents.LoopFree (store.contents.insert (.folder { folder with parent := some target })) := by
  apply loopFree.insert_folder
  rintro _ ⟨⟩
  exact reparents.away

/-- Something new may go under `id` into `parent`. -/
structure Creates (store : MemoryStore) (id : EntityId) (parent : Option EntityId) : Prop where
  unused : store.has id = false
  permitted : store.allows .edit id = true
  destination : ∀ target, parent = some target → ∃ folder, store.contents.folder? target = some folder

/-- A folder may be deleted. -/
structure Dissolves (store : MemoryStore) (id : EntityId) : Prop where
  stored : ∃ folder, store.contents.folder? id = some folder
  vacant : store.contents.Vacant id
  permitted : store.allows .delete id = true

/-- Counts that a file left the folder, or that it went for good. -/
def File.countRemoval (file : File) (parent : EntityId) (tally : Tally) : Tally :=
  if file.isElsewhere parent then { tally with filesDetached := tally.filesDetached + 1 }
  else { tally with filesDeleted := tally.filesDeleted + 1 }

theorem File.countRemoval_of_elsewhere {file : File} {parent : EntityId}
    (elsewhere : file.isElsewhere parent = true) :
    file.countRemoval parent = fun tally => { tally with filesDetached := tally.filesDetached + 1 } := by
  funext tally
  simp [countRemoval, elsewhere]

theorem File.countRemoval_of_only {file : File} {parent : EntityId}
    (only : file.isElsewhere parent = false) :
    file.countRemoval parent = fun tally => { tally with filesDeleted := tally.filesDeleted + 1 } := by
  funext tally
  simp [countRemoval, only]

/-- The copy of a file under a new identifier. -/
def File.copyTo (source : File) (id : EntityId) (name : String) (parent : Option EntityId) : File :=
  { id, name, content := source.content, parents := Catalogue.ofList parent.toList }

theorem File.mem_parents_copyTo {source : File} {id x : EntityId} {name : String}
    {parent : Option EntityId} : x ∈ (source.copyTo id name parent).parents ↔ parent = some x := by
  cases parent with
  | none => simp [copyTo, Catalogue.ofList, Catalogue.empty, IdSet.mem_def]
  | some folder =>
    simp [copyTo, Catalogue.ofList, Catalogue.empty, Catalogue.insert, Catalogue.place, IdSet.mem_def,
      eq_comm]

inductive Step (rules : Rules) : Stage → Stage → Prop
  /-- A file leaves a folder because another one is to take its place. -/
  | evict {store tally file existing target} (notDelete : rules.operation ≠ .delete)
      (displaces : Displaces rules store file existing target) :
      Step rules ⟨store, tally⟩ ⟨store.takeOut existing target,
        { tally with filesOverwritten := tally.filesOverwritten + 1 }⟩
  | relist {store tally file source target} (move : rules.operation = .move)
      (bulk : rules.mode = .bulk) (relists : Relists store file source target)
      (free : store.contents.FreeFileName file.name target (some file.id)) :
      Step rules ⟨store, tally⟩ ⟨store.save (.file (file.reparent source target).1),
        { tally with filesMoved := tally.filesMoved + 1 }⟩
  /-- A file leaves a folder, and another one takes its place. -/
  | displace {store tally file existing source target} (move : rules.operation = .move)
      (bulk : rules.mode = .bulk) (displaces : Displaces rules store file existing target)
      (relists : Relists store file source target) :
      Step rules ⟨store, tally⟩
        ⟨(store.takeOut existing target).save (.file (file.reparent source target).1),
          { tally with
            filesOverwritten := tally.filesOverwritten + 1
            filesMoved := tally.filesMoved + 1 }⟩
  | reparent {store tally folder target} (move : rules.operation = .move)
      (bulk : rules.mode = .bulk) (reparents : Reparents store folder target)
      (free : store.contents.FreeFolderName folder.name target (some folder.id)) :
      Step rules ⟨store, tally⟩ ⟨store.save (.folder { folder with parent := some target }),
        { tally with foldersMoved := tally.foldersMoved + 1 }⟩
  /-- A folder is going to be emptied into another one, or filled from it. -/
  | merge {store tally} (notDelete : rules.operation ≠ .delete) :
      Step rules ⟨store, tally⟩ ⟨store, { tally with foldersMerged := tally.foldersMerged + 1 }⟩
  /-- A folder that was merged into another one goes. -/
  | dissolve {store tally id} (move : rules.operation = .move) (bulk : rules.mode = .bulk)
      (dissolves : Dissolves store id) : Step rules ⟨store, tally⟩ ⟨store.discard id, tally⟩
  | createFolder {store tally id name parent} (copy : rules.operation = .copy)
      (creates : Creates store id parent)
      (free : ∀ target, parent = some target → store.contents.FreeFolderName name target none) :
      Step rules ⟨store, tally⟩ ⟨store.save (.folder { id, name, parent }),
        { tally with foldersCopied := tally.foldersCopied + 1 }⟩
  | createFile {store tally source id name parent} (copy : rules.operation = .copy)
      (stored : store.contents.file? source.id = some source) (creates : Creates store id parent)
      (free : ∀ target, parent = some target → store.contents.FreeFileName name target none) :
      Step rules ⟨store, tally⟩ ⟨store.save (.file (source.copyTo id name parent)),
        { tally with filesCopied := tally.filesCopied + 1 }⟩
  /-- A file leaves a folder, and a copy of another one takes its place. -/
  | replace {store tally source existing id target} (copy : rules.operation = .copy)
      (displaces : Displaces rules store source existing target)
      (creates : Creates (store.takeOut existing target) id (some target)) :
      Step rules ⟨store, tally⟩
        ⟨(store.takeOut existing target).save (.file (source.copyTo id source.name (some target))),
          { tally with
            filesOverwritten := tally.filesOverwritten + 1
            filesCopied := tally.filesCopied + 1 }⟩
  | deleteFolder {store tally id} (delete : rules.operation = .delete)
      (dissolves : Dissolves store id) :
      Step rules ⟨store, tally⟩
        ⟨store.discard id, { tally with foldersDeleted := tally.foldersDeleted + 1 }⟩
  /-- A file leaves a deleted folder. -/
  | takeOut {store tally file parent} (delete : rules.operation = .delete)
      (stored : store.contents.file? file.id = some file) (listed : parent ∈ file.parents)
      (permitted : store.allows (file.removalPermission parent) file.id = true) :
      Step rules ⟨store, tally⟩ ⟨store.takeOut file parent, file.countRemoval parent tally⟩
  /-- A file goes, whatever lists it. -/
  | deleteFile {store tally id file} (delete : rules.operation = .delete)
      (stored : store.contents.file? id = some file)
      (permitted : store.allows .delete id = true) :
      Step rules ⟨store, tally⟩
        ⟨store.discard id, { tally with filesDeleted := tally.filesDeleted + 1 }⟩
  | relocateFolder {store tally folder target} (move : rules.operation = .move)
      (single : rules.mode = .single) (reparents : Reparents store folder target) :
      Step rules ⟨store, tally⟩ ⟨store.save (.folder { folder with parent := some target }),
        { tally with foldersMoved := tally.foldersMoved + 1 }⟩
  | relocateFile {store tally file source target} (move : rules.operation = .move)
      (single : rules.mode = .single) (relists : Relists store file source target) :
      Step rules ⟨store, tally⟩ ⟨store.save (.file (file.reparent source target).1),
        { tally with filesMoved := tally.filesMoved + 1 }⟩
  /-- A file gets its new identifier. -/
  | relabelFile {store tally file id} (move : rules.operation = .move)
      (single : rules.mode = .single) (stored : store.contents.file? file.id = some file)
      (unused : store.has id = false) (permitted : store.allows .edit id = true) :
      Step rules ⟨store, tally⟩
        ⟨(store.discard file.id).save (.file { file with id }), tally⟩
  /-- A file gets its new display name. -/
  | retitleFile {store tally file name} (move : rules.operation = .move)
      (single : rules.mode = .single) (stored : store.contents.file? file.id = some file) :
      Step rules ⟨store, tally⟩ ⟨store.save (.file { file with name }),
        { tally with itemsRenamed := tally.itemsRenamed + 1 }⟩

/-- Any number of steps. -/
abbrev Steps (rules : Rules) : Stage → Stage → Prop := Relation.ReflTransGen (Step rules)

end Filing
