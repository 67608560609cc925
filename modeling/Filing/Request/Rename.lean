import Filing.Request.Copy

/-!
Renaming and relocating one item. Nothing is merged and nothing overwritten: a sibling with the new
display name is a failure. The checks come first, then the new place is saved, and then the item
gets its identifier and its display name; the display name follows the identifier only when that
changes.
-/
namespace Filing.Action

variable {σ : Type} (host : Host σ)

/-- Puts the entity under a free identifier near the desired one. -/
def assignIdentifier (id desired : EntityId) : Action σ EntityId := do
  let renamed ← call (host.uniquifier desired.drive.text desired.name.text)
  require host .edit renamed
  call (host.store.rename id renamed)
  return renamed

/-- Points the children a folder had at its new identifier. -/
def repointChildren (old : Listing) (renamed : EntityId) : Action σ Unit := do
  old.childFolders.forM fun child => do
    match ← call (host.store.folder child) with
    | some folder =>
      call (host.store.save (.folder { folder.toFolder with parent := some renamed }))
    | none => return
  old.childFiles.forM fun child => do
    match ← call (host.store.file child) with
    | some file =>
      let (moved, changed) := file.reparent (some old.id) renamed
      if changed then call (host.store.save (.file moved))
    | none => return

/-- An entity that is gone by now is a failure of the store, though no call failed. -/
def setDisplayName (id : EntityId) (name : String) : Action σ Unit := do
  match ← call (host.store.folder id) with
  | some folder => call (host.store.save (.folder { folder.toFolder with name }))
  | none =>
    match ← call (host.store.file id) with
    | some file => call (host.store.save (.file { file with name }))
    | none => throw (.storage none)

/-- The display name an item has after its identifier changes from `id` to `desired`. -/
def nameAfter (id desired : EntityId) (name : String) : String :=
  if desired = id then name else desired.name.text

def renameFolder (depth : Nat) (id : EntityId) (target : Option EntityId) (desired : EntityId) :
    Action σ Unit := do
  match ← call (host.store.folder id) with
  | none => return
  | some folder =>
    require host .delete id
    let parent := target <|> folder.parent
    let moves := parent ≠ folder.parent
    let renames := desired ≠ id
    if moves ∨ renames then
      let name := nameAfter id desired folder.name
      parent.forM fun parent =>
        requireFolder host parent fun destination => do
          if ← isDescendantOrSelf host depth parent id then throw (.cycle id)
          if (← childFolderNamed host destination name (some id)).isSome then
            throw (.nameCollision name parent)
      -- From here on the store changes, and what is saved stays if a later step fails.
      if moves then
        require host .edit id
        call (host.store.save (.folder { folder.toFolder with parent }))
        count fun t => { t with foldersMoved := t.foldersMoved + 1 }
      if renames then
        let renamed ← assignIdentifier host id desired
        repointChildren host folder renamed
        setDisplayName host renamed name
        count fun t => { t with itemsRenamed := t.itemsRenamed + 1 }

/-- Fails if one of the folders that exist lists another file with the display name. -/
def requireFreeName (id : EntityId) (name : String) (parents : List EntityId) : Action σ Unit :=
  parents.forM fun parent => do
    match ← call (host.store.folder parent) with
    | none => return
    | some folder =>
      if (← childFileNamed host folder name (some id)).isSome then
        throw (.nameCollision name parent)

/-- The folder a file goes to: the target, if the folder it leaves is known and is another one. -/
def relocation (source target : Option EntityId) : Option EntityId :=
  target.filter fun target => source.any (· ≠ target)

def renameFile (id : EntityId) (source target : Option EntityId) (desired : EntityId) :
    Action σ Unit := do
  match ← call (host.store.file id) with
  | none => return
  | some file =>
    require host .delete id
    let renames := desired ≠ id
    let name := nameAfter id desired file.name
    let place := relocation source target
    place.forM fun target =>
      requireFolder host target fun _ => require host .edit id
    if place.isSome ∨ renames then
      let (moved, changed) := match place with
        | some target => file.reparent source target
        | none => (file, false)
      -- The new name shows in every folder that lists the file, not only in the new one.
      requireFreeName host id name moved.parents.toList
      if changed then
        call (host.store.save (.file moved))
        count fun t => { t with filesMoved := t.filesMoved + 1 }
      if renames then
        let renamed ← assignIdentifier host id desired
        setDisplayName host renamed name
        count fun t => { t with itemsRenamed := t.itemsRenamed + 1 }

def renamePath (depth : Nat) (target : Option EntityId) (desired : EntityId) : Path → Action σ Unit
  | { leaf := some file, folder } => renameFile host file folder target desired
  | { leaf := none, folder := some folder } => renameFolder host depth folder target desired
  | { leaf := none, folder := none } => return

end Filing.Action
