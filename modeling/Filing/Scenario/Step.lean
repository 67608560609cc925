import Filing.Request.Run
import Filing.Scenario.World

/-!
The steps of a scenario: calls made straight to the store, a look at the uniquifier, and requests
with a job of their own. Interventions hold for the step they are planned for, and each step starts
with an empty record of writes.
-/
namespace Filing.Scenario

/-- Where new identifiers come from. -/
inductive Naming where
  | suffix (suffixing : Suffixing)
  /-- Always the same identifier, free or not; or none at all. -/
  | fixed (id : Option EntityId)
  deriving DecidableEq

def Naming.uniquifier : Naming → Uniquifier World
  | suffix suffixing => suffixing.generate store.has
  | fixed id => fun _ desired =>
    match id with
    | some id => return id
    | none => throw (.exhausted desired)

/-- What stays the same over all steps. -/
structure Setting where
  interactive : Bool
  naming : Naming
  /-- How many folders deep a request may go. -/
  depth : Nat := 10000

def Setting.host (s : Setting) : Host World where
  store := store
  uniquifier := s.naming.uniquifier
  job := job

inductive Step where
  | folder (id : EntityId)
  | file (id : EntityId)
  | has (id : EntityId)
  | canEdit (id : EntityId)
  | canDelete (id : EntityId)
  | save (draft : Draft)
  | remove (id : EntityId)
  | rename (source target : EntityId)
  | info
  | generate (drive desired : String)
  | plan (request : Request) (sitting : Sitting)
  | copy (request : Request) (sitting : Sitting)
  | delete (paths : List Path) (sitting : Sitting)

inductive Answer where
  | done
  | flag (value : Bool)
  | folder (listing : Option Listing)
  | file (file : Option File)
  | info (store : MemoryStore) (interactive : Bool)
  | id (id : EntityId)
  | failed (error : StoreError)
  | report (outcome : Except RequestError Report) (sitting : Sitting)
  /-- The folders lie deeper than the setting allows. -/
  | tooDeep

def answerCall {α : Type} (world : World) (c : Call World α) (answer : α → Answer) : Answer × World :=
  match c.run world with
  | (.ok a, world) => (answer a, world)
  | (.error error, world) => (.failed error, world)

def answerRequest (world : World) (sitting : Sitting)
    (request : StateT World Option (Except RequestError Report)) : Answer × World :=
  match request { world with sitting } with
  | some (outcome, world) => (.report outcome world.sitting, world)
  | none => (.tooDeep, world)

def Step.answer (setting : Setting) (world : World) : Step → Answer × World
  | folder id => answerCall world (store.folder id) .folder
  | file id => answerCall world (store.file id) .file
  | has id => answerCall world (store.has id) .flag
  | canEdit id => answerCall world (store.canEdit id) .flag
  | canDelete id => answerCall world (store.canDelete id) .flag
  | save draft => answerCall world (store.save draft.bare) fun _ => .done
  | remove id => answerCall world (store.delete id) fun _ => .done
  | rename source target => answerCall world (store.rename source target) fun _ => .done
  | info => (.info world.store setting.interactive, world)
  | generate drive desired => answerCall world (setting.naming.uniquifier drive desired) .id
  | plan request sitting =>
    answerRequest world sitting (request.plan setting.host setting.depth)
  | copy request sitting =>
    answerRequest world sitting (request.copy setting.host setting.depth)
  | delete paths sitting =>
    answerRequest world sitting do
      return .ok (← Request.delete setting.host setting.depth paths)

/-- Takes a step with its interventions; afterwards the world holds only what the step wrote. -/
def Step.run (setting : Setting) (store : MemoryStore) (triggers : List Trigger) (step : Step) :
    Answer × World :=
  step.answer setting { store, triggers }

end Filing.Scenario
