import Filing.Request.Overwrite

/-!
Deleting. A file leaves the folder it is named in and goes for good once no other folder lists it. A
folder goes with everything below it; what may not be deleted stays, and so does every folder that
still has something in it.
-/
namespace Filing.Action

variable {σ : Type} (host : Host σ)

/-- Deletes the folder once nothing is left in it, and says whether it did. -/
def removeIfEmpty (id : EntityId) : Action σ Bool := do
  -- Looked up again, because children that failed are still there.
  match ← call (host.store.folder id) with
  | none => return false
  | some folder =>
    if folder.isEmpty then
      require host .delete id
      call (host.store.delete id)
      return true
    else return false

def deleteFile (id : EntityId) (parent : Option EntityId) : Action σ Unit := do
  match ← call (host.store.file id), parent with
  | none, _ => return
  -- Named without a folder, the file goes for good, whoever lists it.
  | some _, none =>
    require host .delete id
    call (host.store.delete id)
    count fun t => { t with filesDeleted := t.filesDeleted + 1 }
  | some file, some parent =>
    if parent ∈ file.parents then
      require host (file.removalPermission parent) id
      if ← detachOrDelete host file parent then
        count fun t => { t with filesDeleted := t.filesDeleted + 1 }
      else
        count fun t => { t with filesDetached := t.filesDetached + 1 }

/-- The emptied folder itself, as the last item of its own level. -/
def deleteEmptied (id : EntityId) : Action σ Unit := do
  if ← removeIfEmpty host id then
    count fun t => { t with foldersDeleted := t.foldersDeleted + 1 }

def deleteFolder : (depth : Nat) → EntityId → Action σ Unit
  | 0, _ => tooDeep
  | depth + 1, id => do
    match ← call (host.store.folder id) with
    | none => return
    | some folder =>
      require host .delete id
      inLevel host.job (folder.childCount + 1) do
        folder.childFolders.forM fun child => item host.job (deleteFolder depth child)
        folder.childFiles.forM fun child => item host.job (deleteFile host child (some id))
        item host.job (deleteEmptied host id)

def deletePath (depth : Nat) : Path → Action σ Unit
  | { leaf := some file, folder } => deleteFile host file folder
  | { leaf := none, folder := some folder } => deleteFolder host depth folder
  | { leaf := none, folder := none } => return

end Filing.Action
