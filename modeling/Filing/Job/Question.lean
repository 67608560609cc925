import Filing.EntityId
import Filing.Job.Port

/-!
One overwrite question, from the moment it is asked to the moment the asking side goes on.

The question travels through a channel, and with it the sender of a reply. The asking side and the
listener run by turns. `Exchange.step` says what each event does and `Exchange.answered?` whether the
asking side came away with a decision. How the channel, the reply and the tokens behave is left to the
`Runtime`. The asking side looks for cancellation whenever it gets its turn, before anything else: an
answer that is already there is lost if the job was cancelled meanwhile.
-/
namespace Filing

/-- May the file `source` take the place of the file `destination`? -/
structure Question where
  source : EntityId
  destination : EntityId
  deriving DecidableEq

structure Decision where
  overwrite : Bool
  /-- The answer holds for every later collision of the same request. -/
  applyToAll : Bool
  deriving DecidableEq

/-- What is in the channel, as seen from one question. -/
inductive Letter where
  | earlier
  | own
  deriving DecidableEq

/-- What asking is built on. -/
structure Runtime where
  channel : Channel Letter
  reply : Oneshot Decision
  tokens : Tokens

/-- The channel, the reply and the tokens behave as promised. -/
structure Runtime.Documented (R : Runtime) : Prop where
  channel : R.channel.Documented
  reply : R.reply.Documented
  tokens : R.tokens.Documented

def Runtime.plain : Runtime where
  channel := .plain Letter
  reply := .plain Decision
  tokens := .plain

theorem Runtime.plain_documented : Runtime.plain.Documented where
  channel := Channel.plain_documented Letter
  reply := Oneshot.plain_documented Decision
  tokens := Tokens.plain_documented

inductive Asking where
  | idle
  /-- The question is out and the asking side waits for its turn. -/
  | suspended
  | finished (answer : Option Decision)
  deriving DecidableEq

structure Exchange (R : Runtime) where
  /-- The token of the job. -/
  token : R.tokens.Token
  tokens : R.tokens.State
  channel : R.channel.State
  reply : R.reply.State
  /-- The listener has taken the question, and has neither answered nor dropped it. -/
  held : Bool
  asking : Asking

namespace Exchange

inductive Event (Token : Type) where
  /-- The asking side gets its turn. -/
  | resume
  /-- The listener takes the question in the slot, be it an earlier one. -/
  | take
  | answer (decision : Decision)
  | drop
  /-- The listener goes away, and with it whatever it has not taken. -/
  | hangUp
  /-- A token is cancelled, be it that of the job or another one. -/
  | cancel (token : Token)
  deriving DecidableEq

variable {R : Runtime}

def opening (token : R.tokens.Token) (tokens : R.tokens.State) (channel : R.channel.State) :
    Exchange R :=
  { token, tokens, channel, reply := R.reply.start, held := false, asking := .idle }

def isCancelled (x : Exchange R) : Bool := R.tokens.isCancelled x.token x.tokens

def answered? (x : Exchange R) : Option Decision :=
  match x.asking with
  | .finished answer => answer
  | _ => none

/-- The asking side goes on, and whoever answers now is too late. -/
def finish (x : Exchange R) (answer : Option Decision) : Exchange R :=
  { x with reply := R.reply.close x.reply, asking := .finished answer }

/-- The asking side's turn. -/
def resume (x : Exchange R) : Exchange R :=
  match x.asking with
  | .finished _ => x
  | .idle =>
    if x.isCancelled then x.finish none
    else match R.channel.send .own x.channel with
      | (.pending, channel) => { x with channel }
      | (.ready true, channel) => { x with channel, asking := .suspended }
      | (.ready false, channel) => { x with channel }.finish none
  | .suspended =>
    -- Cancellation comes first, whatever the listener did meanwhile.
    if x.isCancelled then x.finish none
    else match R.reply.poll x.reply with
      | .pending => x
      | .ready answer => x.finish answer

/-- What becomes of the exchange, and for an answer whether the asking side was still waiting. -/
def step (x : Exchange R) : Event R.tokens.Token → Exchange R × Option Bool
  | .resume => (x.resume, none)
  | .take =>
    match R.channel.receive x.channel with
    | (some .own, channel) => ({ x with channel, held := true }, none)
    | (_, channel) => ({ x with channel }, none)
  | .answer decision =>
    if x.held then
      let (success, reply) := R.reply.send decision x.reply
      ({ x with reply, held := false }, some success)
    else (x, none)
  | .drop =>
    if x.held then ({ x with reply := R.reply.drop x.reply, held := false }, none) else (x, none)
  | .hangUp =>
    match R.channel.close x.channel with
    -- Whoever loses the question loses the sender of the reply too.
    | (some .own, channel) => ({ x with channel, reply := R.reply.drop x.reply }, none)
    | (_, channel) => ({ x with channel }, none)
  | .cancel token => ({ x with tokens := R.tokens.cancel token x.tokens }, none)

/-- Runs events in order; of the answers given, the last one's success is kept. -/
def run (x : Exchange R) : List (Event R.tokens.Token) → Exchange R × Option Bool
  | [] => (x, none)
  | event :: later =>
    let (next, success) := x.step event
    let (last, laterSuccess) := next.run later
    (last, laterSuccess <|> success)

end Exchange

/-- What the listener does with a question it has taken. -/
inductive Reply where
  | answer (decision : Decision)
  /-- Answers, and the job is cancelled before the asking side gets its turn. -/
  | answerThenCancel (decision : Decision)
  /-- Cancels the job, lets the asking side give up, and answers then. -/
  | cancelThenAnswer (decision : Decision)
  | drop
  /-- Drops the question and takes no other. -/
  | hangUp
  deriving DecidableEq

def Reply.events {Token : Type} (job : Token) : Reply → List (Exchange.Event Token)
  | answer decision => [.answer decision, .resume]
  | answerThenCancel decision => [.answer decision, .cancel job, .resume]
  | cancelThenAnswer decision => [.cancel job, .resume, .answer decision]
  | drop => [.drop, .resume]
  | hangUp => [.drop, .hangUp, .resume]

/-- How asking ended. -/
structure Hearing where
  decision : Option Decision
  /-- The listener got the question. -/
  heard : Bool
  /-- Whether the listener's answer, if it gave one, was in time. -/
  success : Option Bool
  cancelled : Bool
  listening : Bool
  deriving DecidableEq

/-- Asks a listener that will reply as told. -/
def Exchange.hear {R : Runtime} (x : Exchange R) (reply : Reply) : Exchange R × Hearing :=
  let asked := x.resume
  let heard := asked.asking = .suspended
  let (ended, success) := asked.run (if heard then .take :: reply.events x.token else [])
  (ended,
    { decision := ended.answered?, heard, success
      cancelled := ended.isCancelled, listening := R.channel.isOpen ended.channel })

/-- Asks through a job that is on its own. Questions are asked one at a time, so the slot is free. -/
def Reply.hear (reply : Reply) (cancelled listening : Bool) : Hearing :=
  let job : Lineage := { number := 0, above := [] }
  let tokens : TokenBook := { cancelled := if cancelled then [0] else [], fresh := 1 }
  let channel : Slot Letter := { content := none, isOpen := listening }
  let x : Exchange .plain := .opening job tokens channel
  (x.hear reply).2

end Filing
