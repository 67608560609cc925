import Filing.Request.Overwrite

/-!
Copying. Into a folder, a file is copied beside the others there and a folder with everything below
it; folders with the same name are filled up instead of doubled, and files with the same name
collide as they do in a move. Under a name of its own, a copy never meets anything: a taken name is a
failure.
-/
namespace Filing.Action

variable {σ : Type} (host : Host σ)

/-- Creates a folder under a free identifier near the desired one. -/
def createFolder (drive desired name : String) (parent : Option EntityId) : Action σ EntityId := do
  let id ← call (host.uniquifier drive desired)
  require host .edit id
  call (host.store.save (.folder { id, name, parent }))
  count fun t => { t with foldersCopied := t.foldersCopied + 1 }
  return id

/-- Creates a file with the content of `source` under a free identifier near the desired one. -/
def createFile (source : File) (drive desired name : String) (parent : Option EntityId) :
    Action σ Unit := do
  let id ← call (host.uniquifier drive desired)
  require host .edit id
  let parents : IdSet := Catalogue.ofList parent.toList
  call (host.store.save (.file { id, name, content := source.content, parents }))
  count fun t => { t with filesCopied := t.filesCopied + 1 }

def copyFile (id target : EntityId) : Action σ Unit := do
  match ← call (host.store.file id) with
  | none => return
  | some file =>
    if target ∈ file.parents then return
    else
      match ← call (host.store.folder target) with
      | none => throw (.destinationMissing target)
      | some destination =>
        -- A copy is a new file, so no file there is exempt from the collision.
        if ← makeRoom host file destination target none then
          createFile host file target.drive.text id.name.text file.name (some target)

/-- Copies every child of `source` into `target`, each by `copyFolder` or `copyFile`. -/
def copyChildren (copyFolder : EntityId → EntityId → Action σ Unit) (source : Listing)
    (target : EntityId) : Action σ Unit :=
  inLevel host.job source.childCount do
    source.childFolders.forM fun child => item host.job (copyFolder child target)
    source.childFiles.forM fun child => item host.job (copyFile host child target)

/-- The folder in `destination` that takes the copy of `folder`: the one with its name, or a new one. -/
def copyTarget (folder : Listing) (id target : EntityId) (destination : Listing) :
    Action σ EntityId := do
  match ← childFolderNamed host destination folder.name none with
  | some existing =>
    count fun t => { t with foldersMerged := t.foldersMerged + 1 }
    return existing
  | none => createFolder host target.drive.text id.name.text folder.name (some target)

def copyFolder : (depth : Nat) → (id target : EntityId) → Action σ Unit
  | 0, _, _ => tooDeep
  | depth + 1, id, target => do
    if ← isDescendantOrSelf host (depth + 1) target id then throw (.cycle id)
    match ← call (host.store.folder id) with
    | none => return
    | some folder =>
      if folder.parent = some target then return
      else
        match ← call (host.store.folder target) with
        | none => throw (.destinationMissing target)
        | some destination =>
          let copy ← copyTarget host folder id target destination
          copyChildren host (copyFolder depth) folder copy

def copyPath (depth : Nat) (target : EntityId) : Path → Action σ Unit
  | { leaf := some file, .. } => copyFile host file target
  | { leaf := none, folder := some folder } => copyFolder host depth folder target
  | { leaf := none, folder := none } => return

/-! ## Under a name of its own -/

/-- Fails unless `parent` is a folder; what else is asked of it is up to `check`. -/
def requireFolder (parent : EntityId) (check : Listing → Action σ Unit) : Action σ Unit := do
  match ← call (host.store.folder parent) with
  | none => throw (.destinationMissing parent)
  | some folder => check folder

def copyFolderAs (depth : Nat) (id : EntityId) (target : Option EntityId) (desired : EntityId) :
    Action σ Unit := do
  match ← call (host.store.folder id) with
  | none => return
  | some folder =>
    let parent := target <|> folder.parent
    let name := desired.name.text
    parent.forM fun parent =>
      requireFolder host parent fun destination => do
        if ← isDescendantOrSelf host depth parent id then throw (.cycle id)
        if (← childFolderNamed host destination name none).isSome then
          throw (.nameCollision name parent)
    let copy ← createFolder host desired.drive.text name name parent
    copyChildren host (copyFolder host depth) folder copy

/-- The copy goes beside the source when no target is given. -/
def copyFileAs (id : EntityId) (source target : Option EntityId) (desired : EntityId) :
    Action σ Unit := do
  match ← call (host.store.file id) with
  | none => return
  | some file =>
    let parent := target <|> source
    let name := desired.name.text
    parent.forM fun parent =>
      requireFolder host parent fun destination => do
        if (← childFileNamed host destination name none).isSome then
          throw (.nameCollision name parent)
    createFile host file desired.drive.text name name parent

def copyPathAs (depth : Nat) (target : Option EntityId) (desired : EntityId) : Path → Action σ Unit
  | { leaf := some file, folder } => copyFileAs host file folder target desired
  | { leaf := none, folder := some folder } => copyFolderAs host depth folder target desired
  | { leaf := none, folder := none } => return

end Filing.Action
