import Filing.Request.Action

/-!
Questions about the hierarchy that several kinds of requests ask: permissions, what lies above a
folder, and which child has a name.
-/
namespace Filing.Action

variable {σ : Type} (host : Host σ)

def require (permission : Permission) (id : EntityId) : Action σ Unit := do
  let allowed ← match permission with
    | .edit => call (host.store.canEdit id)
    | .delete => call (host.store.canDelete id)
  unless allowed do throw (.permissionDenied permission id)

/--
Whether `current` is `ancestor` or is reached from it by going up. A missing folder, a root and a
folder met before end the way up.
-/
def climbs (ancestor : EntityId) (seen : List EntityId) (current : EntityId) :
    (depth : Nat) → Action σ Bool
  | 0 => tooDeep
  | depth + 1 =>
    if current = ancestor then return true
    else if current ∈ seen then return false
    else do
      match ← call (host.store.folder current) with
      | some { parent := some parent, .. } => climbs ancestor (current :: seen) parent depth
      | _ => return false

/-- Whether `candidate` is `ancestor` or lies somewhere below it. -/
def isDescendantOrSelf (depth : Nat) (candidate ancestor : EntityId) : Action σ Bool :=
  climbs host ancestor [] candidate depth

/-- The first of these folders that has the display name. -/
def folderNamed (name : String) : List EntityId → Action σ (Option EntityId)
  | [] => return none
  | child :: later => do
    match ← call (host.store.folder child) with
    | some sibling => if sibling.name = name then return some sibling.id else folderNamed name later
    | none => folderNamed name later

/-- A child folder of `parent` with the display name, other than `except`. -/
def childFolderNamed (parent : Listing) (name : String) (except : Option EntityId) :
    Action σ (Option EntityId) :=
  folderNamed host name (parent.childFolders.filter (some · ≠ except))

/-- The first of these files that has the display name. -/
def fileNamed (name : String) : List EntityId → Action σ (Option File)
  | [] => return none
  | child :: later => do
    match ← call (host.store.file child) with
    | some sibling => if sibling.name = name then return some sibling else fileNamed name later
    | none => fileNamed name later

/-- A child file of `parent` with the display name, other than `except`. -/
def childFileNamed (parent : Listing) (name : String) (except : Option EntityId) :
    Action σ (Option File) :=
  fileNamed host name (parent.childFiles.filter (some · ≠ except))

end Filing.Action
