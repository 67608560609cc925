import Filing.Request.Error

/-!
What came of a request. Items that fail are listed and do not stop the others, so there is a report
also when every item failed.
-/
namespace Filing

inductive Operation where
  | move
  | copy
  | delete
  deriving DecidableEq

def Operation.text : Operation → String
  | move => "move"
  | copy => "copy"
  | delete => "delete"

inductive Mode where
  /-- Every source goes into a folder under its own name; deletions count as bulk. -/
  | bulk
  /-- One source is renamed, relocated or copied to a name of its own. -/
  | single
  /-- The request was neither, and nothing was done. -/
  | ignored
  deriving DecidableEq

def Mode.text : Mode → String
  | bulk => "bulk"
  | single => "single"
  | ignored => "ignored"

/-- How often each kind of change was made. -/
structure Tally where
  foldersMoved : Nat := 0
  foldersMerged : Nat := 0
  filesMoved : Nat := 0
  filesOverwritten : Nat := 0
  itemsRenamed : Nat := 0
  foldersCopied : Nat := 0
  filesCopied : Nat := 0
  foldersDeleted : Nat := 0
  filesDeleted : Nat := 0
  /-- Files that lost one parent and have others. -/
  filesDetached : Nat := 0
  deriving DecidableEq

def Tally.total (t : Tally) : Nat :=
  t.foldersMoved + t.foldersMerged + t.filesMoved + t.filesOverwritten + t.itemsRenamed +
    t.foldersCopied + t.filesCopied + t.foldersDeleted + t.filesDeleted + t.filesDetached

structure Report where
  operation : Operation
  mode : Mode
  failures : List RequestError := []
  /-- Collisions that nobody decided, so that the existing file stayed. -/
  warnings : List RequestError := []
  tally : Tally := {}
  /-- Items were left out because the job was cancelled. -/
  cancelled : Bool := false
  deriving DecidableEq

namespace Report

/-- Warnings and cancellation are no failures. -/
def isSuccess (r : Report) : Bool := r.failures.isEmpty

def changed (r : Report) : Bool := r.tally.total > 0

end Report

end Filing
