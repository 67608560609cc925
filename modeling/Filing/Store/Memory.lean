import Filing.Store.Basic

/-!
A store in memory. Its contents are the entities in identifier order; children are found by looking
through all of them, so they too come in identifier order. Everything is permitted that is not
denied, also for identifiers that nobody uses yet.
-/
namespace Filing

abbrev Contents := Catalogue Entity.id

namespace Contents

def folder? (c : Contents) (id : EntityId) : Option Folder :=
  match c.find? id with
  | some (.folder folder) => some folder
  | _ => none

def file? (c : Contents) (id : EntityId) : Option File :=
  match c.find? id with
  | some (.file file) => some file
  | _ => none

def childFolders (c : Contents) (parent : EntityId) : List EntityId :=
  c.toList.filterMap fun
    | .folder folder => if folder.parent = some parent then some folder.id else none
    | .file _ => none

def childFiles (c : Contents) (parent : EntityId) : List EntityId :=
  c.toList.filterMap fun
    | .folder _ => none
    | .file file => if parent ∈ file.parents then some file.id else none

def listing? (c : Contents) (id : EntityId) : Option Listing :=
  (c.folder? id).map fun folder =>
    { toFolder := folder, childFolders := c.childFolders id, childFiles := c.childFiles id }

end Contents

/-- The same entity under another identifier. -/
def Entity.withId : Entity → EntityId → Entity
  | .folder f, id => .folder { f with id }
  | .file f, id => .file { f with id }

structure MemoryStore where
  name : String
  contents : Contents
  editDenied : IdSet
  deleteDenied : IdSet
  deriving DecidableEq

namespace MemoryStore

def ofEntities (entities : List Entity) : MemoryStore :=
  { name := "memory", contents := .ofList entities, editDenied := .empty, deleteDenied := .empty }

def ofDrafts (drafts : List Draft) : MemoryStore := ofEntities (drafts.map Draft.bare)

def has (s : MemoryStore) (id : EntityId) : Bool := s.contents.has id

def save (s : MemoryStore) (entity : Entity) : MemoryStore :=
  { s with contents := s.contents.insert entity }

/-- Removes what is stored under `id`, if anything is. -/
def discard (s : MemoryStore) (id : EntityId) : MemoryStore :=
  { s with contents := s.contents.erase id }

def delete (s : MemoryStore) (id : EntityId) : Except StoreError MemoryStore :=
  if s.has id then .ok (s.discard id) else .error (.notFound id)

/-- A taken target is noticed before a missing source. -/
def rename (s : MemoryStore) (source target : EntityId) : Except StoreError MemoryStore :=
  if s.has target then .error (.alreadyExists target)
  else match s.contents.find? source with
    | none => .error (.notFound source)
    -- Nothing that points at the old identifier follows.
    | some entity => .ok ((s.discard source).save (entity.withId target))

def canEdit (s : MemoryStore) (id : EntityId) : Bool := id ∉ s.editDenied

def canDelete (s : MemoryStore) (id : EntityId) : Bool := id ∉ s.deleteDenied

end MemoryStore

/-- Asks the world and leaves it as it is. -/
def Call.read {σ α : Type} (view : σ → α) : Call σ α := return view (← get)

/-- Changes the world, or leaves it as it is and fails. -/
def Call.change {σ : Type} (action : σ → Except StoreError σ) : Call σ Unit := do
  match action (← get) with
  | .ok world => set world
  | .error error => throw error

/-- The world of these calls is the memory store itself. -/
def MemoryStore.asStore : Store MemoryStore where
  has id := .read (·.has id)
  folder id := .read (·.contents.listing? id)
  file id := .read (·.contents.file? id)
  save entity := .change fun s => .ok (s.save entity)
  delete id := .change (·.delete id)
  rename source target := .change (·.rename source target)
  canEdit id := .read (·.canEdit id)
  canDelete id := .read (·.canDelete id)

end Filing
