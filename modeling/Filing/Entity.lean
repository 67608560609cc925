import Filing.Catalogue

/-!
Folders and files as a store holds them.

A folder has at most one parent; a file is listed in a set of folders. What lies in a folder is not
part of the folder: a store works it out when it is asked (`Listing`).
-/
namespace Filing

structure Folder where
  id : EntityId
  /-- What users see; it need not be the identifier's name. -/
  name : String
  parent : Option EntityId
  deriving DecidableEq

/-- A folder with the children it had when it was looked up. -/
structure Listing extends Folder where
  childFolders : List EntityId
  childFiles : List EntityId
  deriving DecidableEq

namespace Listing

def isEmpty (l : Listing) : Bool := l.childFolders.isEmpty && l.childFiles.isEmpty

def childCount (l : Listing) : Nat := l.childFolders.length + l.childFiles.length

end Listing

structure File where
  id : EntityId
  /-- What users see; it need not be the identifier's name. -/
  name : String
  content : List UInt8
  /-- The folders that list this file; an orphan has none. -/
  parents : IdSet
  deriving DecidableEq

namespace File

def withParent (f : File) (parent : EntityId) : File :=
  { f with parents := f.parents.insert parent }

/-- The first parent, for when one location has to be shown. -/
def primaryParent (f : File) : Option EntityId := f.parents.toList.head?

/-- Swaps `source` for `target`, and says whether a parent was taken out or put in. -/
def reparent (f : File) (source : Option EntityId) (target : EntityId) : File × Bool :=
  let removed := source.any f.parents.has
  let remaining := match source with
    | none => f.parents
    | some source => f.parents.erase source
  let added := !remaining.has target
  ({ f with parents := remaining.insert target }, removed || added)

/-- Whether some folder other than `parent` lists the file. -/
def isElsewhere (f : File) (parent : EntityId) : Bool := f.parents.toList.any (· ≠ parent)

end File

inductive Entity where
  | folder (folder : Folder)
  | file (file : File)
  deriving DecidableEq

def Entity.id : Entity → EntityId
  | folder f => f.id
  | file f => f.id

/--
An entity as it is handed to a store. A folder may still have the children it had when it was looked up.
-/
inductive Draft where
  | folder (listing : Listing)
  | file (file : File)
  deriving DecidableEq

/-- What is stored of a draft. -/
def Draft.bare : Draft → Entity
  | folder listing => .folder listing.toFolder
  | file f => .file f

/--
Where an item is, or where it should go: a folder, a file inside a folder, or a file whose folder is
unknown. As a destination the leaf is the identifier wanted for the item.
-/
structure Path where
  folder : Option EntityId
  leaf : Option EntityId
  deriving DecidableEq

namespace Path

def ofFolder (folder : EntityId) : Path := ⟨some folder, none⟩

def ofFile (folder file : EntityId) : Path := ⟨some folder, some file⟩

def orphan (file : EntityId) : Path := ⟨none, some file⟩

def nowhere : Path := ⟨none, none⟩

end Path

end Filing
