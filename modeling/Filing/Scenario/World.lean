import Filing.Job.Basic
import Filing.Progress
import Filing.Request.Action
import Filing.Store.Memory

/-!
A world for rehearsing requests: a memory store whose calls can be made to fail or to meet contents
that changed meanwhile, and a job that is cancelled and answered by a script. Everything the request
did to the store and to the job is written down.
-/
namespace Filing.Scenario

/-- The calls a store offers. -/
inductive Method where
  | has
  | folder
  | file
  | save
  | delete
  | rename
  | canEdit
  | canDelete
  deriving DecidableEq

/-- What happens to the world just before a store call. -/
inductive Intervention where
  /-- The call is not made and fails for this reason; without one, a reason naming the call. -/
  | fail (reason : Option String)
  /-- The entity is gone. -/
  | delete (target : EntityId)
  /-- The entity is there. -/
  | save (draft : Draft)
  /-- The running job is cancelled. -/
  | cancel
  deriving DecidableEq

/-- An intervention that waits for a call. -/
structure Trigger where
  method : Method
  /-- Only calls about this identifier count. -/
  id : Option EntityId
  /-- How many calls are still let pass. -/
  skip : Nat
  /-- Fires on every later call too. -/
  repeats : Bool
  intervention : Intervention
  deriving DecidableEq

namespace Trigger

def watches (t : Trigger) (method : Method) (id : EntityId) : Bool :=
  t.method = method && t.id.all (· = id)

/-- Whether the trigger fires on a call, and what is left of it. -/
def meet (t : Trigger) (method : Method) (id : EntityId) : Bool × Option Trigger :=
  if t.watches method id then
    if 0 < t.skip then (false, some { t with skip := t.skip - 1 })
    else (true, if t.repeats then some t else none)
  else (false, some t)

end Trigger

/-- A call that changes the store. -/
inductive Change where
  | save (id : EntityId)
  | delete (id : EntityId)
  | rename (source target : EntityId)
  deriving DecidableEq

structure Write where
  change : Change
  failed : Bool
  deriving DecidableEq

inductive ProgressCall where
  | push (total : Nat)
  | step
  | pop
  deriving DecidableEq

/-- A question that was taken, and whether an answer to it was in time. -/
structure Asked where
  question : Question
  success : Option Bool
  deriving DecidableEq

/-- The job of one request. -/
structure Sitting where
  progress : Progress := .start
  cancelled : Bool := false
  listening : Bool := true
  /-- What to do with the questions, in order; one without a reply is dropped. -/
  replies : List Reply := []
  /-- The job is cancelled after so many more steps. -/
  cancelIn : Option Nat := none
  /-- Every progress call and the progress after it. -/
  calls : List (ProgressCall × Progress) := []
  asked : List Asked := []
  deriving DecidableEq

structure World where
  store : MemoryStore
  triggers : List Trigger := []
  writes : List Write := []
  sitting : Sitting := {}
  deriving DecidableEq

namespace Sitting

def report (s : Sitting) (call : ProgressCall) (progress : Progress) : Sitting :=
  { s with progress, calls := s.calls ++ [(call, progress)] }

def push (s : Sitting) (total : Nat) : Sitting := s.report (.push total) (s.progress.push total)

/-- Being told to stop after no step at all means after the first. -/
def step (s : Sitting) : Sitting :=
  let stepped := s.report .step s.progress.step
  match s.cancelIn with
  | none => stepped
  | some n =>
    if n ≤ 1 then { stepped with cancelIn := none, cancelled := true }
    else { stepped with cancelIn := some (n - 1) }

def pop (s : Sitting) : Sitting := s.report .pop s.progress.pop

def ask (s : Sitting) (question : Question) : Option Decision × Sitting :=
  let hearing := (s.replies.head?.getD .drop).hear s.cancelled s.listening
  let after := { s with cancelled := hearing.cancelled, listening := hearing.listening }
  (hearing.decision,
    if hearing.heard then
      { after with
        replies := s.replies.tail
        asked := s.asked ++ [{ question, success := hearing.success }] }
    else after)

end Sitting

namespace Method

def text : Method → String
  | has => "exists"
  | folder => "folder"
  | file => "file"
  | save => "save"
  | delete => "delete"
  | rename => "rename"
  | canEdit => "can_edit"
  | canDelete => "can_delete"

end Method

namespace World

def intervene (w : World) : Intervention → World
  | .fail _ => w
  | .delete target => { w with store := w.store.discard target }
  | .save draft => { w with store := w.store.save draft.bare }
  | .cancel => { w with sitting := { w.sitting with cancelled := true } }

/-- The interventions that a call sets off, in order, and the triggers that are left. -/
def meetAll (method : Method) (id : EntityId) : List Trigger → List Intervention × List Trigger
  | [] => ([], [])
  | trigger :: later =>
    let (fires, rest) := trigger.meet method id
    let (fired, left) := meetAll method id later
    (if fires then trigger.intervention :: fired else fired, rest.toList ++ left)

def failure? (method : Method) (id : EntityId) : Intervention → Option String
  | .fail reason => some (reason.getD ("injected " ++ method.text ++ " " ++ id.display))
  | _ => none

/-- Announces a call: the interventions happen, and the last one to fail the call gives the reason. -/
def announce (w : World) (method : Method) (id : EntityId) : World × Option String :=
  let (fired, triggers) := meetAll method id w.triggers
  (fired.foldl intervene { w with triggers }, (fired.filterMap (failure? method id)).getLast?)

def note (w : World) (change : Change) (failed : Bool) : World :=
  { w with writes := w.writes ++ [{ change, failed }] }

/-- A call that only looks. -/
def look {α : Type} (method : Method) (id : EntityId) (view : MemoryStore → α) : Call World α :=
  fun w =>
    match w.announce method id with
    | (w, some reason) => (.error (.backend reason), w)
    | (w, none) => (.ok (view w.store), w)

/-- A call that changes the store, written down with its outcome. -/
def write (method : Method) (id : EntityId) (change : Change)
    (action : MemoryStore → Except StoreError MemoryStore) : Call World Unit := fun w =>
  match w.announce method id with
  | (w, some reason) => (.error (.backend reason), w.note change true)
  | (w, none) =>
    -- The store is the one that the interventions left.
    match action w.store with
    | .ok store => (.ok (), { w with store }.note change false)
    | .error error => (.error error, w.note change true)

end World

def store : Store World where
  has id := World.look .has id (·.has id)
  folder id := World.look .folder id (·.contents.listing? id)
  file id := World.look .file id (·.contents.file? id)
  save entity := World.write .save entity.id (.save entity.id) fun s => .ok (s.save entity)
  delete id := World.write .delete id (.delete id) (·.delete id)
  rename source target :=
    World.write .rename source (.rename source target) (·.rename source target)
  canEdit id := World.look .canEdit id (·.canEdit id)
  canDelete id := World.look .canDelete id (·.canDelete id)

/-- Lets the sitting see to its side of the world. -/
def onSitting {α : Type} (action : Sitting → α × Sitting) : StateM World α := fun w =>
  let (a, sitting) := action w.sitting
  (a, { w with sitting })

def job : Job World where
  push total := onSitting fun s => ((), s.push total)
  step := onSitting fun s => ((), s.step)
  pop := onSitting fun s => ((), s.pop)
  ask question := onSitting (·.ask question)
  isCancelled := onSitting fun s => (s.cancelled, s)

end Filing.Scenario
