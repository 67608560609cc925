import Filing.Request.Lookup

/-!
Collisions of files: whether a file may take the place of one with its display name, and how the
other one gets out of the way. A file that other folders list too only leaves the folder; a file
that nobody else lists is deleted.
-/
namespace Filing

/-- What taking `file` out of `parent` needs. -/
def File.removalPermission (file : File) (parent : EntityId) : Permission :=
  if file.isElsewhere parent then .edit else .delete

inductive Verdict where
  | overwrite
  | keep
  /-- Nobody answered, so the existing file stays. -/
  | unanswered
  deriving DecidableEq

def Verdict.ofAnswer (overwrite : Bool) : Verdict := if overwrite then .overwrite else .keep

namespace Action

variable {σ : Type} (host : Host σ)

/-- Decides one collision: by the answer to remember, or else by asking. -/
def decideCollision (source destination : EntityId) : Action σ Verdict := do
  let desk ← get
  if desk.interactive then
    match desk.remembered with
    | some overwrite => return .ofAnswer overwrite
    | none =>
      match ← turn (host.job.ask { source, destination }) with
      -- Silence is not remembered: the next collision is asked about again.
      | none => return .unanswered
      | some decision =>
        if decision.applyToAll then
          modify fun desk => { desk with remembered := some decision.overwrite }
        return .ofAnswer decision.overwrite
  else return .keep

/-- Takes `file` out of `parent` and says whether that deleted it. -/
def detachOrDelete (file : File) (parent : EntityId) : Action σ Bool :=
  if file.isElsewhere parent then do
    call (host.store.save (.file { file with parents := file.parents.erase parent }))
    return false
  else do
    call (host.store.delete file.id)
    return true

/-- Settles a collision with `existing` in `parent` and says whether `existing` is out of the way. -/
def overwrite (file existing : File) (parent : EntityId) : Action σ Bool := do
  -- Nobody is asked about what is forbidden anyway.
  require host (existing.removalPermission parent) existing.id
  match ← decideCollision host file.id existing.id with
  | .overwrite =>
    let _ ← detachOrDelete host existing parent
    count fun t => { t with filesOverwritten := t.filesOverwritten + 1 }
    return true
  | .keep => return false
  | .unanswered =>
    warn (.interrupted file.id)
    return false

/-- Whether `file` can go into the folder: nothing there has its name, or what had it has left. -/
def makeRoom (file : File) (destination : Listing) (parent : EntityId) (except : Option EntityId) :
    Action σ Bool := do
  match ← childFileNamed host destination file.name except with
  | none => return true
  | some existing => overwrite host file existing parent

end Action

end Filing
