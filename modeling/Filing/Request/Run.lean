import Filing.Request.Move
import Filing.Request.Rename

/-!
Requests: a batch of paths and what to do with them.

A move or a copy is sorted by its destination. A folder that exists takes all sources (bulk); a leaf
takes a single source under a name of its own (single); anything else is ignored, but its items are
still counted off. Before each item the job is asked whether it was cancelled.
-/
namespace Filing

structure Request where
  paths : List Path
  destination : Path
  /-- Ask before overwriting; otherwise the existing file always stays. -/
  interactive : Bool
  deriving DecidableEq

namespace Request

variable {σ : Type} (host : Host σ)

/-- What to do with one path. -/
def workOn (depth : Nat) (operation : Operation) (mode : Mode) (destination path : Path) :
    Action σ Unit :=
  match operation, mode, destination with
  | .delete, _, _ => Action.deletePath host depth path
  | .move, .bulk, { folder := some target, .. } => Action.movePath host depth target path
  | .copy, .bulk, { folder := some target, .. } => Action.copyPath host depth target path
  | .move, .single, { folder, leaf := some desired } =>
    Action.renamePath host depth folder desired path
  | .copy, .single, { folder, leaf := some desired } =>
    Action.copyPathAs host depth folder desired path
  | _, _, _ => return

/-- Works on the paths in order until the job is cancelled. -/
def workOff (work : Path → Action σ Unit) : List Path → Action σ Unit
  | [] => return
  | path :: later => do
    -- An item that has begun is finished; only the next one is left out.
    if ← Action.turn host.job.isCancelled then
      Action.record fun report => { report with cancelled := true }
    else
      Action.item host.job (work path)
      workOff work later

/-- The report on a request of known mode, unless folders lie deeper than allowed. -/
def run (depth : Nat) (operation : Operation) (mode : Mode) (request : Request) :
    StateT σ Option Report := fun world => do
  let work := Action.inLevel host.job request.paths.length
    (workOff host (workOn host depth operation mode request.destination) request.paths)
  let desk : Desk σ :=
    { world, interactive := request.interactive, remembered := none, report := { operation, mode } }
  let (_, desk) ← work desk
  return (desk.report, desk.world)

/-- Sorts a request by its destination, which takes a look into the store. -/
def classify (request : Request) : Call σ Mode :=
  match request.destination with
  | { folder := some folder, leaf := none } => do
    return if (← host.store.folder folder).isSome then .bulk else .ignored
  | { leaf := some _, .. } => return if request.paths.length = 1 then .single else .ignored
  | { folder := none, leaf := none } => return .ignored

/-- Sorts a request and runs it. Only the store failing under the first look is an error. -/
def classifyAndRun (depth : Nat) (operation : Operation) (request : Request) :
    StateT σ Option (Except RequestError Report) := fun world =>
  match (request.classify host).run world with
  | (.error error, world) => some (.error (.storage (some error)), world)
  | (.ok mode, world) => do
    let (report, world) ← request.run host depth operation mode world
    return (.ok report, world)

/-- Moves or renames. -/
def plan (depth : Nat) (request : Request) : StateT σ Option (Except RequestError Report) :=
  request.classifyAndRun host depth .move

def copy (depth : Nat) (request : Request) : StateT σ Option (Except RequestError Report) :=
  request.classifyAndRun host depth .copy

/-- Deletes every path. -/
def delete (depth : Nat) (paths : List Path) : StateT σ Option Report :=
  run host depth .delete .bulk { paths, destination := .nowhere, interactive := false }

end Request

end Filing
