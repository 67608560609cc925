import Filing.Job.Question
import Filing.Progress

/-!
Several jobs side by side. Jobs may share a cancellation token or have a token below another job's:
cancelling reaches every token below and none above, and lasts. A guard holds one level of its job
and leaves it once. A `Roster` may be built on any runtime; the one that runs is a `Registry`.
-/
namespace Filing

structure JobStatus (R : Runtime) where
  progress : Progress
  token : R.tokens.Token
  channel : R.channel.State

structure Guard where
  job : Nat
  held : Bool
  deriving DecidableEq

structure Roster (R : Runtime) where
  jobs : List (JobStatus R)
  guards : List Guard
  tokens : R.tokens.State

abbrev Registry := Roster .plain

namespace Registry

/-- What can be done with a job, or with a guard over one. -/
inductive Act where
  /-- Enrols another job on the same token. -/
  | share
  /-- Enrols another job on a token below. -/
  | child
  | push (total : Nat)
  | step
  | pop
  | cancel
  /-- Enters a level and keeps a guard over it. -/
  | hold (total : Nat)
  | stepGuard (guard : Nat)
  | release (guard : Nat)
  | hangUp
  | ask (question : Question) (reply : Reply)
  deriving DecidableEq

inductive Step where
  | new
  | on (job : Nat) (act : Act)
  deriving DecidableEq

inductive Fault where
  | noSuchJob
  | noSuchGuard
  deriving DecidableEq

def Fault.message : Fault → String
  | noSuchJob => "no such job"
  | noSuchGuard => "no such guard"

end Registry

namespace Roster

variable {R : Runtime}

def empty : Roster R := { jobs := [], guards := [], tokens := R.tokens.start }

def isCancelled (r : Roster R) (token : R.tokens.Token) : Bool := R.tokens.isCancelled token r.tokens

def cancel (r : Roster R) (token : R.tokens.Token) : Roster R :=
  { r with tokens := R.tokens.cancel token r.tokens }

/-- A job on `token`. -/
def enrol (r : Roster R) (token : R.tokens.Token) : Roster R :=
  { r with jobs := r.jobs ++ [{ progress := .start, token, channel := R.channel.start }] }

/-- A job on a token that was made for it. -/
def enrolOwn (r : Roster R) (made : R.tokens.Token × R.tokens.State) : Roster R :=
  { r with tokens := made.2 }.enrol made.1

def updateJob (r : Roster R) (job : Nat) (change : JobStatus R → JobStatus R) : Roster R :=
  { r with jobs := r.jobs.modify job change }

def updateProgress (r : Roster R) (job : Nat) (change : Progress → Progress) : Roster R :=
  r.updateJob job fun status => { status with progress := change status.progress }

def hold (r : Roster R) (job : Nat) (total : Nat) : Roster R :=
  { r.updateProgress job (·.push total) with guards := r.guards ++ [{ job, held := true }] }

/-- A step through a guard that was let go does nothing. -/
def stepGuard (r : Roster R) (guard : Nat) : Roster R :=
  match r.guards[guard]? with
  | some { job, held := true } => r.updateProgress job (·.step)
  | _ => r

def release (r : Roster R) (guard : Nat) : Roster R :=
  match r.guards[guard]? with
  | some { job, held := true } =>
    { r.updateProgress job (·.pop) with
      guards := r.guards.modify guard fun g => { g with held := false } }
  | _ => r

def releaseAll (r : Roster R) : Roster R :=
  (List.range r.guards.length).foldl release r

/-- Nobody takes questions of the job any more. -/
def hangUp (r : Roster R) (job : Nat) : Roster R :=
  r.updateJob job fun status => { status with channel := (R.channel.close status.channel).2 }

/-- A question that is put through a job. -/
def question (r : Roster R) (status : JobStatus R) : Exchange R :=
  .opening status.token r.tokens status.channel

/-- Asks through a job whose listener replies as told. -/
def ask (r : Roster R) (job : Nat) (status : JobStatus R) (reply : Reply) : Roster R × Hearing :=
  let (ended, hearing) := (r.question status).hear reply
  let heard := r.updateJob job fun status => { status with channel := ended.channel }
  ({ heard with tokens := ended.tokens }, hearing)

/-- The jobs after a step, the job the step is about, and how a question ended. -/
structure Outcome (R : Runtime) where
  registry : Roster R
  job : Nat
  hearing : Option Hearing := none

def apply (r : Roster R) : Registry.Step → Except Registry.Fault (Outcome R)
  | .new => .ok { registry := r.enrolOwn (R.tokens.root r.tokens), job := r.jobs.length }
  | .on job act =>
    match r.jobs[job]? with
    | none => .error .noSuchJob
    | some status =>
      let onGuard (guard : Nat) (registry : Roster R) : Except Registry.Fault (Outcome R) :=
        if guard < r.guards.length then .ok { registry, job } else .error .noSuchGuard
      match act with
      | .share => .ok { registry := r.enrol status.token, job := r.jobs.length }
      | .child =>
        .ok { registry := r.enrolOwn (R.tokens.child status.token r.tokens), job := r.jobs.length }
      | .push total => .ok { registry := r.updateProgress job (·.push total), job }
      | .step => .ok { registry := r.updateProgress job (·.step), job }
      | .pop => .ok { registry := r.updateProgress job (·.pop), job }
      | .cancel => .ok { registry := r.cancel status.token, job }
      | .hold total => .ok { registry := r.hold job total, job }
      | .stepGuard guard => onGuard guard (r.stepGuard guard)
      | .release guard => onGuard guard (r.release guard)
      | .hangUp => .ok { registry := r.hangUp job, job }
      | .ask _ reply =>
        let (registry, hearing) := r.ask job status reply
        .ok { registry, job, hearing := some hearing }

end Roster

def Registry.empty : Registry := Roster.empty

end Filing
