import Filing.Job.Basic
import Filing.Request.Report
import Filing.Uniquifier

/-!
The work on a request, as actions on a desk: the world, the report so far and the overwrite answer to
remember. An action fails with the error of its item or ends with a value. It gives nothing at all
when it would have to follow folders deeper than it was allowed to.
-/
namespace Filing

/-- Everything outside the request that work on it calls. -/
structure Host (σ : Type) where
  store : Store σ
  uniquifier : Uniquifier σ
  job : Job σ

structure Desk (σ : Type) where
  world : σ
  /-- Collisions are asked about; otherwise the existing file always stays. -/
  interactive : Bool
  /-- The answer that holds for the rest of the request. -/
  remembered : Option Bool
  report : Report

abbrev Action (σ α : Type) := ExceptT RequestError (StateT (Desk σ) Option) α

namespace Action

variable {σ α : Type}

/-- The depth allowed is used up. -/
def tooDeep : Action σ α := fun _ => none

/-- Calls the store or the uniquifier, whose failure is the item's failure. -/
def call (c : Call σ α) : Action σ α := fun desk =>
  match c.run desk.world with
  | (.ok a, world) => some (.ok a, { desk with world })
  | (.error error, world) => some (.error (.storage (some error)), { desk with world })

/-- Turns to the job. -/
def turn (c : StateM σ α) : Action σ α := fun desk =>
  let (a, world) := c.run desk.world
  some (.ok a, { desk with world })

def record (change : Report → Report) : Action σ Unit :=
  modify fun desk => { desk with report := change desk.report }

def count (change : Tally → Tally) : Action σ Unit :=
  record fun report => { report with tally := change report.tally }

def warn (warning : RequestError) : Action σ Unit :=
  record fun report => { report with warnings := report.warnings ++ [warning] }

/-- Puts a failure of `action` into the report and goes on. -/
def settle (action : Action σ Unit) : Action σ Unit :=
  tryCatch action fun failure =>
    record fun report => { report with failures := report.failures ++ [failure] }

/-- Works on the items in order inside a level of `total` steps. -/
def inLevel (job : Job σ) (total : Nat) (work : Action σ Unit) : Action σ Unit := do
  turn (job.push total)
  work
  turn job.pop

/-- One item of a level: its failure is settled and its step is made. -/
def item (job : Job σ) (work : Action σ Unit) : Action σ Unit := do
  settle work
  turn job.step

end Action

end Filing
