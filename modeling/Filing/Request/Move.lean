import Filing.Request.Delete

/-!
Moving into a folder. A file changes one parent for another. A folder changes its parent, unless the
destination has a folder with its name: then its children move into that folder, and it is deleted
once it is empty.
-/
namespace Filing.Action

variable {σ : Type} (host : Host σ)

def moveFile (id : EntityId) (source : Option EntityId) (target : EntityId) : Action σ Unit := do
  match ← call (host.store.file id) with
  | none => return
  | some file =>
    if source = some target then return
    else
      require host .edit id
      match ← call (host.store.folder target) with
      | none => throw (.destinationMissing target)
      | some destination =>
        if ← makeRoom host file destination target (some id) then
          let (moved, changed) := file.reparent source target
          if changed then
            call (host.store.save (.file moved))
            count fun t => { t with filesMoved := t.filesMoved + 1 }

/-- Moves every child of `source` into `target`, each by `moveFolder` or `moveFile`. -/
def mergeFolder (moveFolder : EntityId → EntityId → Action σ Unit) (source : Listing)
    (target : EntityId) : Action σ Unit := do
  count fun t => { t with foldersMerged := t.foldersMerged + 1 }
  inLevel host.job (source.childCount + 1) do
    source.childFolders.forM fun child => item host.job (moveFolder child target)
    source.childFiles.forM fun child => item host.job (moveFile host child (some source.id) target)
    item host.job (discard (removeIfEmpty host source.id))

def moveFolder : (depth : Nat) → (id target : EntityId) → Action σ Unit
  | 0, _, _ => tooDeep
  | depth + 1, id, target => do
    -- Asked even of a folder that turns out to be missing.
    if ← isDescendantOrSelf host (depth + 1) target id then throw (.cycle id)
    match ← call (host.store.folder id) with
    | none => return
    | some folder =>
      if folder.parent = some target then return
      else
        require host .edit id
        match ← call (host.store.folder target) with
        | none => throw (.destinationMissing target)
        | some destination =>
          match ← childFolderNamed host destination folder.name (some id) with
          | some existing => mergeFolder host (moveFolder depth) folder existing
          | none =>
            call (host.store.save (.folder { folder.toFolder with parent := some target }))
            count fun t => { t with foldersMoved := t.foldersMoved + 1 }

def movePath (depth : Nat) (target : EntityId) : Path → Action σ Unit
  | { leaf := some file, folder } => moveFile host file folder target
  | { leaf := none, folder := some folder } => moveFolder host depth folder target
  | { leaf := none, folder := none } => return

end Filing.Action
