import Mathlib.Data.List.Induction
import Filing.Job.Question

/-!
# One question, in any order

Whatever order the turns of the two sides come in, a decision comes out of a question only if it was
given as an answer to that very question and the job was not cancelled when the asking side had its turn
(`Exchange.yields_iff`). An exchange that has become hopeless stays so (`Exchange.Hopeless`), and then
the asking side goes on without a decision. All this holds on any runtime that does what is promised of
it. What the promises come to for an event is said in `Exchange.Steps`, on which every invariant rests.

## Main results

* `Exchange.fair_opening`: what the two sides may rely on from the moment the question is put.
-/
namespace Filing

namespace Exchange

variable {R : Runtime} {x y : Exchange R} {event : Event R.tokens.Token}
  {events : List (Event R.tokens.Token)} {decision : Decision} {answer : Option Decision}

/-- What has become of the exchange after these events. -/
def after (x : Exchange R) (events : List (Event R.tokens.Token)) : Exchange R := (x.run events).1

@[simp] theorem after_nil (x : Exchange R) : x.after [] = x := rfl

@[simp] theorem after_cons (x : Exchange R) (event : Event R.tokens.Token)
    (later : List (Event R.tokens.Token)) :
    x.after (event :: later) = (x.step event).1.after later := rfl

theorem after_append (x : Exchange R) (first later : List (Event R.tokens.Token)) :
    x.after (first ++ later) = (x.after first).after later := by
  induction first generalizing x with
  | nil => rfl
  | cons event rest ih => exact ih (x.step event).1

@[simp] theorem asking_finish (x : Exchange R) (answer : Option Decision) :
    (x.finish answer).asking = .finished answer := rfl

/-- The question is in the channel, or the listener has it. -/
def Out (x : Exchange R) : Prop := R.channel.slot x.channel = some .own ∨ x.held = true

/-- The asking side is there to be told, and has not been. -/
def Untold (x : Exchange R) : Prop :=
  R.reply.isClosed x.reply = false ∧ R.reply.poll x.reply = .pending

/-! ## What one event does -/

/-- All that can come of an event, on a runtime that does what is promised of it. -/
inductive Steps (x : Exchange R) : Event R.tokens.Token → Exchange R → Prop
  | pauses : Steps x .resume x
  /-- Only who has the question can do anything with it. -/
  | misses {event : Event R.tokens.Token} (without : x.held = false)
      (tried : event = .drop ∨ ∃ decision, event = .answer decision) : Steps x event x
  | givesUp (waits : ∀ answer, x.asking ≠ .finished answer)
      (why : x.isCancelled = true ∨ x.asking = .idle ∧ R.channel.isOpen x.channel = false ∨
        x.asking = .suspended ∧ R.reply.poll x.reply = .ready none)
      (closed : R.reply.isClosed (x.finish none).reply = true) : Steps x .resume (x.finish none)
  | sends {channel : R.channel.State} (idle : x.asking = .idle) (goesOn : x.isCancelled = false)
      (listening : R.channel.isOpen x.channel = true) (sent : R.channel.slot channel = some .own)
      (stillOpen : R.channel.isOpen channel = true) :
      Steps x .resume { x with channel, asking := .suspended }
  | hears {decision : Decision} (waits : x.asking = .suspended) (goesOn : x.isCancelled = false)
      (told : R.reply.poll x.reply = .ready (some decision))
      (closed : R.reply.isClosed (x.finish (some decision)).reply = true) :
      Steps x .resume (x.finish (some decision))
  | clears {channel : R.channel.State} (other : R.channel.slot x.channel ≠ some .own)
      (free : R.channel.slot channel = none)
      (same : R.channel.isOpen channel = R.channel.isOpen x.channel) : Steps x .take { x with channel }
  | takes {channel : R.channel.State} (waiting : R.channel.slot x.channel = some .own)
      (free : R.channel.slot channel = none)
      (same : R.channel.isOpen channel = R.channel.isOpen x.channel) :
      Steps x .take { x with channel, held := true }
  | tells {decision : Decision} {reply : R.reply.State} (held : x.held = true)
      (told : x.Untold → R.reply.poll reply = .ready (some decision))
      (same : R.reply.isClosed reply = R.reply.isClosed x.reply) :
      Steps x (.answer decision) { x with reply, held := false }
  | drops {reply : R.reply.State} (held : x.held = true)
      (lost : x.Untold → R.reply.poll reply = .ready none)
      (same : R.reply.isClosed reply = R.reply.isClosed x.reply) :
      Steps x .drop { x with reply, held := false }
  /-- A question that nobody has taken is lost. -/
  | loses {channel : R.channel.State} {reply : R.reply.State}
      (waiting : R.channel.slot x.channel = some .own)
      (free : R.channel.slot channel = none) (gone : R.channel.isOpen channel = false)
      (lost : x.Untold → R.reply.poll reply = .ready none)
      (same : R.reply.isClosed reply = R.reply.isClosed x.reply) :
      Steps x .hangUp { x with channel, reply }
  | leaves {channel : R.channel.State} (other : R.channel.slot x.channel ≠ some .own)
      (free : R.channel.slot channel = none) (gone : R.channel.isOpen channel = false) :
      Steps x .hangUp { x with channel }
  | cancels (token : R.tokens.Token) :
      Steps x (.cancel token) { x with tokens := R.tokens.cancel token x.tokens }

theorem steps_resume (documented : R.Documented) (x : Exchange R) : x.Steps .resume x.resume := by
  have closed (answer : Option Decision) : R.reply.isClosed (x.finish answer).reply = true :=
    documented.reply.isClosed_close x.reply
  unfold resume
  split
  next => exact .pauses
  next idle =>
    have waits (answer : Option Decision) : x.asking ≠ .finished answer := by simp [idle]
    split
    next cancelled => exact .givesUp waits (.inl cancelled) (closed none)
    next goesOn =>
      cases listening : R.channel.isOpen x.channel with
      | false =>
        rw [documented.channel.send_closed _ _ listening]
        exact .givesUp waits (.inr (.inl ⟨idle, listening⟩)) (closed none)
      | true =>
        by_cases free : R.channel.slot x.channel = none
        · obtain ⟨channel, went, sent, stillOpen⟩ :=
            documented.channel.send_free .own _ listening free
          rw [went]
          exact .sends idle (by simpa using goesOn) listening sent stillOpen
        · rw [documented.channel.send_full _ _ listening free]
          exact .pauses
  next suspended =>
    have waits (answer : Option Decision) : x.asking ≠ .finished answer := by simp [suspended]
    split
    next cancelled => exact .givesUp waits (.inl cancelled) (closed none)
    next goesOn =>
      split
      next => exact .pauses
      next answer told =>
        cases answer with
        | none => exact .givesUp waits (.inr (.inr ⟨suspended, told⟩)) (closed none)
        | some decision => exact .hears suspended (by simpa using goesOn) told (closed _)

theorem steps (documented : R.Documented) (x : Exchange R) (event : Event R.tokens.Token) :
    x.Steps event (x.step event).1 := by
  cases event with
  | resume => exact steps_resume documented x
  | take =>
    obtain ⟨channel, took, free, same⟩ := documented.channel.receive x.channel
    cases inside : R.channel.slot x.channel with
    | none =>
      simp only [step, took, inside]
      exact .clears (by simp [inside]) free same
    | some letter =>
      simp only [step, took, inside]
      cases letter with
      | earlier => exact .clears (by simp [inside]) free same
      | own => exact .takes inside free same
  | answer decision =>
    simp only [step]
    split
    next held =>
      refine .tells held (fun untold => ?_) (documented.reply.isClosed_send decision x.reply)
      exact (documented.reply.send_open decision x.reply untold.1 untold.2).2
    next without => exact .misses (by simpa using without) (.inr ⟨decision, rfl⟩)
  | drop =>
    simp only [step]
    split
    next held =>
      exact .drops held (fun untold => documented.reply.poll_drop x.reply untold.1 untold.2)
        (documented.reply.isClosed_drop x.reply)
    next without => exact .misses (by simpa using without) (.inl rfl)
  | hangUp =>
    obtain ⟨channel, lost, free, gone⟩ := documented.channel.close x.channel
    cases inside : R.channel.slot x.channel with
    | none =>
      simp only [step, lost, inside]
      exact .leaves (by simp [inside]) free gone
    | some letter =>
      simp only [step, lost, inside]
      cases letter with
      | earlier => exact .leaves (by simp [inside]) free gone
      | own =>
        exact .loses inside free gone
          (fun untold => documented.reply.poll_drop x.reply untold.1 untold.2)
          (documented.reply.isClosed_drop x.reply)
  | cancel token => exact .cancels token

/-- What each event keeps holds after all of them. -/
theorem after_of_steps (documented : R.Documented) {P : Exchange R → Prop}
    (keeps : ∀ {x y : Exchange R} {event : Event R.tokens.Token}, x.Steps event y → P x → P y)
    (start : P x) (events : List (Event R.tokens.Token)) : P (x.after events) := by
  induction events generalizing x with
  | nil => exact start
  | cons event later ih => exact ih (keeps (steps documented x event) start)

/-! ## What holds all the time -/

/-- Where the question is goes with how far the asking side has got. -/
structure Sound (x : Exchange R) : Prop where
  idle : x.asking = .idle → ¬x.Out ∧ x.Untold
  suspended : x.asking = .suspended → x.Out → x.Untold
  finished : ∀ answer, x.asking = .finished answer → R.reply.isClosed x.reply = true
  decided : ∀ decision, x.asking = .finished (some decision) → ¬x.Out
  once : ¬(R.channel.slot x.channel = some .own ∧ x.held = true)

theorem sound_opening (documented : R.Documented) (token : R.tokens.Token) (tokens : R.tokens.State)
    {channel : R.channel.State} (unsent : R.channel.slot channel ≠ some .own) :
    (opening token tokens channel).Sound where
  idle _ := ⟨by simp [Out, opening, unsent], documented.reply.start.symm⟩
  suspended waits := by cases waits
  finished _ done := by cases done
  decided _ done := by cases done
  once both := unsent both.1

namespace Sound

/-- The question may have been lost, but nobody was told anything. -/
theorem moved (sound : x.Sound) (asking : y.asking = x.asking) (reply : y.reply = x.reply)
    (out : y.Out → x.Out) (once : ¬(R.channel.slot y.channel = some .own ∧ y.held = true)) :
    y.Sound where
  idle idle := by
    obtain ⟨unsent, untold⟩ := sound.idle (asking.symm.trans idle)
    exact ⟨fun there => unsent (out there), by rwa [Untold, reply]⟩
  suspended waits there := by
    have untold := sound.suspended (asking.symm.trans waits) (out there)
    rwa [Untold, reply]
  finished answer done := by
    rw [reply]
    exact sound.finished answer (asking.symm.trans done)
  decided decision done there := sound.decided decision (asking.symm.trans done) (out there)
  once := once

/-- A question that was out has come to its end. -/
theorem settled (sound : x.Sound) (out : x.Out) (asking : y.asking = x.asking)
    (closed : R.reply.isClosed y.reply = R.reply.isClosed x.reply) (gone : ¬y.Out) : y.Sound where
  idle idle := absurd out (sound.idle (asking.symm.trans idle)).1
  suspended _ there := absurd there gone
  finished answer done := by
    rw [closed]
    exact sound.finished answer (asking.symm.trans done)
  decided _ _ := gone
  once both := gone (.inl both.1)

theorem finish (sound : x.Sound) (closed : R.reply.isClosed (x.finish answer).reply = true)
    (quiet : ∀ decision, answer = some decision → ¬x.Out) : (x.finish answer).Sound where
  idle idle := by cases idle
  suspended waits := by cases waits
  finished _ _ := closed
  decided decision done := by
    cases done
    exact quiet decision rfl
  once := sound.once

theorem steps (sound : x.Sound) (steps : x.Steps event y) : y.Sound := by
  cases steps with
  | pauses | misses _ _ => exact sound
  | givesUp _ _ closed => exact sound.finish closed (by rintro _ ⟨⟩)
  | sends idle _ _ _ _ =>
    obtain ⟨unsent, untold⟩ := sound.idle idle
    exact ⟨by simp, fun _ _ => untold, by simp, by simp, fun both => unsent (.inr both.2)⟩
  | hears waits _ told closed =>
    refine sound.finish closed fun _ _ out => ?_
    -- What is still out has not been answered.
    cases told.symm.trans (sound.suspended waits out).2
  | clears _ free _ =>
    exact sound.moved rfl rfl (fun out => .inr (out.resolve_left (by simp [free]))) (by simp [free])
  | takes waiting free _ => exact sound.moved rfl rfl (fun _ => .inl waiting) (by simp [free])
  | tells held _ same | drops held _ same =>
    refine sound.settled (.inr held) rfl same ?_
    simpa [Out] using fun there => sound.once ⟨there, held⟩
  | loses waiting free _ _ same =>
    refine sound.settled (.inl waiting) rfl same ?_
    simpa [Out, free] using fun held => sound.once ⟨waiting, held⟩
  | leaves _ free _ =>
    exact sound.moved rfl rfl (fun out => .inr (out.resolve_left (by simp [free]))) (by simp [free])
  | cancels _ => exact sound.moved rfl rfl id sound.once

theorem after (documented : R.Documented) (sound : x.Sound) (events : List (Event R.tokens.Token)) :
    (x.after events).Sound :=
  after_of_steps documented (fun steps sound => sound.steps steps) sound events

end Sound

/-- Whoever has come to an end stays there. -/
theorem Steps.finished (steps : x.Steps event y) (done : x.asking = .finished answer) :
    y.asking = .finished answer := by
  cases steps with
  | givesUp waits _ _ => exact absurd done (waits answer)
  | sends idle _ _ _ _ => cases idle.symm.trans done
  | hears waits _ _ _ => cases waits.symm.trans done
  | pauses | misses _ _ | clears _ _ _ | takes _ _ _ | tells _ _ _ | drops _ _ _ | loses _ _ _ _ _
    | leaves _ _ _ | cancels _ => exact done

theorem finished_after (documented : R.Documented) (done : x.asking = .finished answer)
    (events : List (Event R.tokens.Token)) : (x.after events).asking = .finished answer :=
  after_of_steps documented (fun steps done => steps.finished done) done events

/-- Only a turn of the asking side brings a decision, and only one that was told by then. -/
theorem Steps.decided (steps : x.Steps event y) (done : y.asking = .finished (some decision)) :
    x.asking = .finished (some decision) ∨ event = .resume ∧ x.isCancelled = false ∧
      x.asking = .suspended ∧ R.reply.poll x.reply = .ready (some decision) := by
  cases steps with
  | hears waits goesOn told _ =>
    cases done
    exact .inr ⟨rfl, goesOn, waits, told⟩
  | sends _ _ _ _ _ | givesUp _ _ _ => cases done
  | pauses | misses _ _ | clears _ _ _ | takes _ _ _ | tells _ _ _ | drops _ _ _ | loses _ _ _ _ _
    | leaves _ _ _ | cancels _ => exact .inl done

/-! ## Being cancelled -/

/-- What an event does to the tokens. -/
def Event.onTokens (event : Event R.tokens.Token) (tokens : R.tokens.State) : R.tokens.State :=
  match event with
  | .cancel above => R.tokens.cancel above tokens
  | _ => tokens

theorem Steps.tokens (steps : x.Steps event y) :
    y.token = x.token ∧ y.tokens = event.onTokens x.tokens := by
  cases steps with
  | misses _ tried => rcases tried with rfl | ⟨_, rfl⟩ <;> exact ⟨rfl, rfl⟩
  | pauses | givesUp _ _ _ | sends _ _ _ _ _ | hears _ _ _ _ | clears _ _ _ | takes _ _ _ | tells _ _ _
    | drops _ _ _ | loses _ _ _ _ _ | leaves _ _ _ | cancels _ => exact ⟨rfl, rfl⟩

theorem isCancelled_onTokens (documented : R.Documented) {token : R.tokens.Token}
    {tokens : R.tokens.State} (cancelled : R.tokens.isCancelled token tokens = true) :
    R.tokens.isCancelled token (event.onTokens tokens) = true := by
  cases event with
  | cancel above => exact (documented.tokens.isCancelled_cancel token above tokens).mpr (.inl cancelled)
  | resume | take | answer _ | drop | hangUp => exact cancelled

/-- The tokens are all that a question may change for others, and those that are cancelled stay so. -/
theorem lasts_after (documented : R.Documented) {token : R.tokens.Token}
    (cancelled : R.tokens.isCancelled token x.tokens = true) (events : List (Event R.tokens.Token)) :
    R.tokens.isCancelled token (x.after events).tokens = true := by
  refine after_of_steps documented (P := fun x => R.tokens.isCancelled token x.tokens = true) ?_
    cancelled events
  intro x y event steps cancelled
  rw [steps.tokens.2]
  exact isCancelled_onTokens documented cancelled

theorem token_after (documented : R.Documented) (x : Exchange R)
    (events : List (Event R.tokens.Token)) : (x.after events).token = x.token :=
  after_of_steps documented (P := fun y => y.token = x.token)
    (fun steps same => steps.tokens.1.trans same) rfl events

/-- Cancelling a token that the job's token is not below changes nothing for the question. -/
theorem Steps.isCancelled_iff (documented : R.Documented) (steps : x.Steps event y) :
    y.isCancelled = true ↔ x.isCancelled = true ∨
      ∃ above, event = .cancel above ∧ R.tokens.Below x.tokens x.token above := by
  obtain ⟨token, tokens⟩ := steps.tokens
  unfold isCancelled
  rw [token, tokens]
  cases event with
  | cancel above => simp [Event.onTokens, documented.tokens.isCancelled_cancel]
  | resume | take | answer _ | drop | hangUp => simp [Event.onTokens]

theorem Steps.below_iff (documented : R.Documented) (steps : x.Steps event y)
    (above : R.tokens.Token) :
    R.tokens.Below y.tokens y.token above ↔ R.tokens.Below x.tokens x.token above := by
  obtain ⟨token, tokens⟩ := steps.tokens
  rw [token, tokens]
  cases event with
  | cancel other => exact documented.tokens.below_cancel x.token above other x.tokens
  | resume | take | answer _ | drop | hangUp => exact .rfl

theorem isCancelled_after_iff (documented : R.Documented) :
    (x.after events).isCancelled = true ↔ x.isCancelled = true ∨
      ∃ above, .cancel above ∈ events ∧ R.tokens.Below x.tokens x.token above := by
  induction events generalizing x with
  | nil => simp
  | cons event later ih =>
    have first := steps documented x event
    rw [after_cons, ih, first.isCancelled_iff documented, or_assoc]
    simp only [first.below_iff documented, ← exists_or, ← or_and_right, List.mem_cons, eq_comm]

theorem cancelled_after (documented : R.Documented) (cancelled : x.isCancelled = true)
    (events : List (Event R.tokens.Token)) : (x.after events).isCancelled = true :=
  (isCancelled_after_iff documented).mpr (.inl cancelled)

/-! ## No decision any more -/

/-- Whatever happens from here on, no decision comes, and with its next turn the asking side goes on
without one. -/
def Fruitless (x : Exchange R) : Prop :=
  ∀ later, (∀ decision, (x.after later).asking ≠ .finished (some decision)) ∧
    (.resume ∈ later → (x.after later).asking = .finished none)

/-- There is no decision yet, and no way for one to come. -/
structure Hopeless (x : Exchange R) : Prop where
  sound : x.Sound
  undecided : ∀ decision, x.asking ≠ .finished (some decision)
  why : x.isCancelled = true ∨ (x.asking = .idle → R.channel.isOpen x.channel = false) ∧
    (x.asking = .suspended → R.reply.poll x.reply = .ready none)

namespace Hopeless

theorem steps (documented : R.Documented) (hopeless : x.Hopeless) (steps : x.Steps event y) :
    y.Hopeless := by
  have sound := hopeless.sound.steps steps
  have stays := fun cancelled => (steps.isCancelled_iff documented).mpr (.inl cancelled)
  obtain ⟨before, undecided, why⟩ := hopeless
  have undecided' (decision : Decision) : y.asking ≠ .finished (some decision) := by
    intro done
    rcases steps.decided done with already | ⟨_, goesOn, waits, told⟩
    · exact undecided decision already
    · rcases why with cancelled | ⟨_, dropped⟩
      · cases goesOn.symm.trans cancelled
      · cases (dropped waits).symm.trans told
  refine ⟨sound, undecided', ?_⟩
  -- Being cancelled lasts, so the other reason is what matters.
  rcases why with cancelled | ⟨deaf, dropped⟩
  · exact .inl (stays cancelled)
  · right
    cases steps with
    | pauses | misses _ _ | cancels _ => exact ⟨deaf, dropped⟩
    | givesUp _ _ _ | hears _ _ _ _ => exact ⟨by simp, by simp⟩
    | sends idle _ listening _ _ => cases (deaf idle).symm.trans listening
    | clears _ _ same | takes _ _ same => exact ⟨fun idle => same.trans (deaf idle), dropped⟩
    | tells held _ _ | drops held _ _ =>
      refine ⟨deaf, fun waits => ?_⟩
      cases (dropped waits).symm.trans (before.suspended waits (.inr held)).2
    | loses waiting _ gone lost _ =>
      exact ⟨fun _ => gone, fun waits => lost (before.suspended waits (.inl waiting))⟩
    | leaves _ _ gone => exact ⟨fun _ => gone, dropped⟩

theorem after (documented : R.Documented) (hopeless : x.Hopeless)
    (events : List (Event R.tokens.Token)) : (x.after events).Hopeless :=
  after_of_steps documented (fun steps hopeless => hopeless.steps documented steps) hopeless events

theorem resume (documented : R.Documented) (hopeless : x.Hopeless) :
    x.resume.asking = .finished none := by
  obtain ⟨sound, undecided, why⟩ := hopeless
  unfold Exchange.resume
  split
  next answer done =>
    cases answer with
    | none => exact done
    | some decision => exact absurd done (undecided decision)
  next idle =>
    split
    next => rfl
    next goesOn =>
      have deaf := (why.resolve_left goesOn).1 idle
      rw [documented.channel.send_closed _ _ deaf]
      rfl
  next waits =>
    split
    next => rfl
    next goesOn =>
      rw [(why.resolve_left goesOn).2 waits]
      rfl

theorem fruitless (documented : R.Documented) (hopeless : x.Hopeless) : x.Fruitless := by
  intro later
  refine ⟨(hopeless.after documented later).undecided, fun resumed => ?_⟩
  obtain ⟨first, rest, rfl⟩ := List.append_of_mem resumed
  rw [after_append, after_cons]
  exact finished_after documented ((hopeless.after documented first).resume documented) rest

end Hopeless

/-! ## Where a decision comes from -/

/-- There is an answer, and the asking side waits for it or has it. -/
def Told (x : Exchange R) (decision : Decision) : Prop :=
  x.asking = .suspended ∧ R.reply.poll x.reply = .ready (some decision) ∨
    x.asking = .finished (some decision)

/-- Only the listener, having the question, tells the asking side anything. -/
theorem Steps.told (sound : x.Sound) (steps : x.Steps event y) (told : y.Told decision) :
    x.Told decision ∨ event = .answer decision ∧ x.held = true ∧ x.asking = .suspended := by
  cases steps with
  | pauses | misses _ _ | clears _ _ _ | takes _ _ _ | leaves _ _ _ | cancels _ => exact .inl told
  | givesUp _ _ _ =>
    rcases told with waits | done
    · cases waits.1
    · cases done
  | sends idle _ _ _ _ =>
    rcases told with ⟨_, there⟩ | done
    · cases there.symm.trans (sound.idle idle).2.2
    · cases done
  | hears waits _ there _ =>
    rcases told with waits | done
    · cases waits.1
    · cases done
      exact .inl (.inl ⟨waits, there⟩)
  | tells held there _ =>
    rcases told with ⟨waits, given⟩ | done
    · cases (there (sound.suspended waits (.inr held))).symm.trans given
      exact .inr ⟨rfl, held, waits⟩
    · exact .inl (.inr done)
  | drops held lost _ =>
    rcases told with ⟨waits, given⟩ | done
    · cases (lost (sound.suspended waits (.inr held))).symm.trans given
    · exact .inl (.inr done)
  | loses waiting _ _ lost _ =>
    rcases told with ⟨waits, given⟩ | done
    · cases (lost (sound.suspended waits (.inl waiting))).symm.trans given
    · exact .inl (.inr done)

/-- As long as the job is not cancelled, an answer in time stays. -/
theorem Steps.staysTold (sound : x.Sound) (steps : x.Steps event y) (told : x.Told decision)
    (goesOn : x.isCancelled = false) : y.Told decision := by
  rcases told with ⟨waits, there⟩ | done
  · -- What is answered is no longer out.
    have notOut (out : x.Out) : False := by cases there.symm.trans (sound.suspended waits out).2
    cases steps with
    | pauses | misses _ _ | clears _ _ _ | leaves _ _ _ | cancels _ => exact .inl ⟨waits, there⟩
    | givesUp _ why _ => simp [goesOn, waits, there] at why
    | sends idle _ _ _ _ => cases idle.symm.trans waits
    | hears _ _ given _ =>
      cases given.symm.trans there
      exact .inr rfl
    | takes waiting _ _ | loses waiting _ _ _ _ => exact (notOut (.inl waiting)).elim
    | tells held _ _ | drops held _ _ => exact (notOut (.inr held)).elim
  · exact .inr (steps.finished done)

theorem Told.after (documented : R.Documented) (sound : x.Sound) (told : x.Told decision)
    (goesOn : (x.after events).isCancelled = false) : (x.after events).Told decision := by
  induction events generalizing x with
  | nil => exact told
  | cons event later ih =>
    have here : x.isCancelled = false := by
      rw [← Bool.not_eq_true]
      intro cancelled
      rw [cancelled_after documented cancelled] at goesOn
      cases goesOn
    have first := steps documented x event
    exact ih (sound.steps first) (first.staysTold sound told here) goesOn

theorem Told.resume (told : x.Told decision) (goesOn : x.isCancelled = false) :
    x.resume.asking = .finished (some decision) := by
  rcases told with ⟨waits, there⟩ | done
  · simp [Exchange.resume, waits, goesOn, there]
  · simp [Exchange.resume, done]

/-- An answer that is there was given while the listener had the question and the asking side waited. -/
theorem told_after (documented : R.Documented) (sound : x.Sound) (untold : ¬x.Told decision)
    (told : (x.after events).Told decision) :
    ∃ before between, events = before ++ .answer decision :: between ∧
      (x.after before).held = true ∧ (x.after before).asking = .suspended := by
  induction events using List.reverseRecOn with
  | nil => exact absurd told untold
  | append_singleton events event ih =>
    rw [after_append] at told
    have last := steps documented (x.after events) event
    rcases last.told (sound.after documented events) told with told | ⟨rfl, held⟩
    · obtain ⟨before, between, rfl, held⟩ := ih told
      exact ⟨before, between ++ [event], by simp, held⟩
    · exact ⟨events, [], rfl, held⟩

theorem step_answer (held : x.held = true) :
    x.step (.answer decision) =
      ({ x with reply := (R.reply.send decision x.reply).2, held := false },
        some (R.reply.send decision x.reply).1) := by
  simp only [step, if_pos held]

/-- The listener learns whether the asking side still waits. -/
theorem Sound.success_iff (documented : R.Documented) (sound : x.Sound) (held : x.held = true) :
    (x.step (.answer decision)).2 = some true ↔ x.asking = .suspended := by
  rw [step_answer held, Option.some.injEq]
  constructor
  · intro success
    cases waits : x.asking with
    | idle => exact absurd (.inr held) (sound.idle waits).1
    | suspended => rfl
    | finished answer =>
      have closed := sound.finished answer waits
      cases (documented.reply.send_closed decision x.reply closed).symm.trans success
  · intro waits
    obtain ⟨there, untold⟩ := sound.suspended waits (.inr held)
    exact (documented.reply.send_open decision x.reply there untold).1

/-- While the listener has the question, the asking side waits or has given up. -/
theorem Sound.held (sound : x.Sound) (held : x.held = true) :
    x.asking = .suspended ∨ x.asking = .finished none := by
  cases waits : x.asking with
  | idle => exact absurd (.inr held) (sound.idle waits).1
  | suspended => exact .inl rfl
  | finished answer =>
    cases answer with
    | none => exact .inr rfl
    | some decision => exact absurd (.inr held) (sound.decided decision waits)

/-- A decision comes out if and only if the listener, having the question, gave it as an answer in time,
and the job was not cancelled when the asking side had a turn after that. -/
theorem yields_iff (documented : R.Documented) (sound : x.Sound) (untold : ¬x.Told decision) :
    (x.after events).asking = .finished (some decision) ↔ ∃ before between later,
      events = before ++ .answer decision :: (between ++ .resume :: later) ∧
      (x.after before).held = true ∧
      ((x.after before).step (.answer decision)).2 = some true ∧
      (x.after (before ++ .answer decision :: between)).isCancelled = false := by
  constructor
  · intro done
    induction events using List.reverseRecOn with
    | nil => exact absurd (.inr done) untold
    | append_singleton events event ih =>
      rw [after_append] at done
      rcases (steps documented (x.after events) event).decided done with done | ⟨rfl, goesOn, told⟩
      · obtain ⟨before, between, later, rfl, rest⟩ := ih done
        exact ⟨before, between, later ++ [event], by simp, rest⟩
      · obtain ⟨before, between, rfl, held, waited⟩ := told_after documented sound untold (.inl told)
        have here := sound.after documented before
        have inTime : ((x.after before).step (.answer decision)).2 = some true :=
          (here.success_iff documented held).mpr waited
        exact ⟨before, between, [], by simp, held, inTime, goesOn⟩
  · rintro ⟨before, between, later, rfl, held, success, goesOn⟩
    have here := sound.after documented before
    have waited := (here.success_iff documented held).mp success
    obtain ⟨there, unheard⟩ := here.suspended waited (.inr held)
    rw [after_append, after_cons] at goesOn ⊢
    rw [after_append, after_cons]
    -- From here on the answer stays until the turn that hears it.
    have told : ((x.after before).step (.answer decision)).1.Told decision := by
      rw [step_answer held]
      exact .inl ⟨waited, (documented.reply.send_open decision _ there unheard).2⟩
    have sound' := here.steps (steps documented _ (.answer decision))
    exact finished_after documented ((told.after documented sound' goesOn).resume goesOn) later

/-! ## Questions that do not arrive -/

/-- The asking side moves only in its own turns. -/
theorem Steps.asking (steps : x.Steps event y) (other : event ≠ .resume) : y.asking = x.asking := by
  cases steps with
  | pauses | givesUp _ _ _ | sends _ _ _ _ _ | hears _ _ _ _ => exact absurd rfl other
  | misses _ _ | clears _ _ _ | takes _ _ _ | tells _ _ _ | drops _ _ _ | loses _ _ _ _ _
    | leaves _ _ _ | cancels _ => rfl

theorem idle_after (documented : R.Documented) (idle : x.asking = .idle) (unasked : .resume ∉ events) :
    (x.after events).asking = .idle := by
  induction events generalizing x with
  | nil => exact idle
  | cons event later ih =>
    obtain ⟨other, rest⟩ := not_or.mp (List.mem_cons.not.mp unasked)
    exact ih (((steps documented x event).asking (Ne.symm other)).trans idle) rest

theorem Steps.out (steps : x.Steps event y) (out : y.Out) : x.Out ∨ x.isCancelled = false := by
  cases steps with
  | sends _ goesOn _ _ _ => exact .inr goesOn
  | takes waiting _ _ => exact .inl (.inl waiting)
  | tells held _ _ | drops held _ _ => exact .inl (.inr held)
  | loses waiting _ _ _ _ => exact .inl (.inl waiting)
  | clears _ free _ | leaves _ free _ => exact .inl (.inr (out.resolve_left (by simp [free])))
  | pauses | misses _ _ | givesUp _ _ _ | hears _ _ _ _ | cancels _ => exact .inl out

/-- Of a job that is cancelled, nobody gets to hear a question that is not out yet. -/
theorem unsent_after (documented : R.Documented) (unsent : ¬x.Out) (cancelled : x.isCancelled = true)
    (events : List (Event R.tokens.Token)) : ¬(x.after events).Out := by
  induction events generalizing x with
  | nil => exact unsent
  | cons event later ih =>
    have first := steps documented x event
    refine ih (fun out => ?_) ((first.isCancelled_iff documented).mpr (.inl cancelled))
    rcases first.out out with out | goesOn
    · exact unsent out
    · cases goesOn.symm.trans cancelled

/-- Nobody has taken the question, and the asking side has not heard anything. -/
structure Untaken (x : Exchange R) : Prop where
  undecided : ∀ decision, x.asking ≠ .finished (some decision)
  waiting : x.asking = .suspended →
    R.channel.slot x.channel = some .own ∨ R.reply.poll x.reply = .ready none

theorem Steps.untaken (sound : x.Sound) (steps : x.Steps event y) (untaken : x.Untaken)
    (free : y.held = false) : y.Untaken := by
  obtain ⟨undecided, waiting⟩ := untaken
  refine ⟨fun decision done => ?_, ?_⟩
  · rcases steps.decided done with already | ⟨_, _, waits, told⟩
    · exact undecided decision already
    · rcases waiting waits with inside | lost
      · cases told.symm.trans (sound.suspended waits (.inl inside)).2
      · cases told.symm.trans lost
  · cases steps with
    | pauses | misses _ _ | cancels _ => exact waiting
    | givesUp _ _ _ | hears _ _ _ _ => simp
    | sends _ _ _ sent _ => exact fun _ => .inl sent
    | clears other _ _ | leaves other _ _ =>
      exact fun waits => .inr ((waiting waits).resolve_left other)
    | takes _ _ _ => cases free
    | tells held _ _ =>
      intro waits
      rcases waiting waits with inside | lost
      · exact absurd ⟨inside, held⟩ sound.once
      · cases lost.symm.trans (sound.suspended waits (.inr held)).2
    | drops held lost _ => exact fun waits => .inr (lost (sound.suspended waits (.inr held)))
    | loses inside _ _ lost _ =>
      exact fun waits => .inr (lost (sound.suspended waits (.inl inside)))

theorem untaken_after (documented : R.Documented) (sound : x.Sound) (untaken : x.Untaken)
    (free : ∀ earlier, earlier <+: events → (x.after earlier).held = false) :
    (x.after events).Untaken := by
  induction events using List.reverseRecOn with
  | nil => exact untaken
  | append_singleton events event ih =>
    have before := ih fun earlier inside => free earlier (inside.trans (List.prefix_append _ _))
    have now := free _ (List.prefix_refl _)
    rw [after_append] at now ⊢
    exact (steps documented _ event).untaken (sound.after documented events) before now

/-! ## All that can come of a question -/

/-- A question that may be put reaches the listener, who is in time for an answer then. -/
theorem delivered (documented : R.Documented) (sound : x.Sound) (idle : x.asking = .idle)
    (goesOn : x.isCancelled = false) (listening : R.channel.isOpen x.channel = true)
    (free : R.channel.slot x.channel = none) : (x.after [.resume, .take]).held = true ∧
      ∀ decision, ((x.after [.resume, .take]).step (.answer decision)).2 = some true := by
  obtain ⟨channel, went, sent, _⟩ := documented.channel.send_free .own _ listening free
  have resumed : x.resume = { x with channel, asking := .suspended } := by
    simp [resume, idle, goesOn, went]
  obtain ⟨emptied, took, _⟩ := documented.channel.receive channel
  rw [sent] at took
  have taken : x.after [.resume, .take] =
      { x with channel := emptied, held := true, asking := .suspended } := by
    simp [step, resumed, took]
  have held : (x.after [.resume, .take]).held = true := by rw [taken]
  refine ⟨held, fun decision => ((sound.after documented _).success_iff documented held).mpr ?_⟩
  rw [taken]

/-- Nobody ever gets the question, and no decision comes. -/
def Withheld (x : Exchange R) : Prop := x.Fruitless ∧ ∀ later, ¬(x.after later).Out

namespace Sound

theorem withheld (documented : R.Documented) (sound : x.Sound) (cancelled : x.isCancelled = true)
    (undecided : ∀ decision, x.asking ≠ .finished (some decision)) (unsent : ¬x.Out) : x.Withheld :=
  ⟨Hopeless.fruitless documented ⟨sound, undecided, .inl cancelled⟩,
    unsent_after documented unsent cancelled⟩

theorem late (documented : R.Documented) (sound : x.Sound)
    (late : (x.step (.answer decision)).2 = some false) : x.asking = .finished none := by
  by_cases held : x.held = true
  · refine (sound.held held).resolve_left fun waits => ?_
    rw [(sound.success_iff documented held).mpr waits] at late
    cases late
  · simp [step, held] at late

theorem fruitless_drop (documented : R.Documented) (sound : x.Sound) (held : x.held = true) :
    (x.step .drop).1.Fruitless := by
  have dropped := Exchange.steps documented x .drop
  have sound' := sound.steps dropped
  apply Hopeless.fruitless documented
  generalize (x.step .drop).1 = y at *
  cases dropped with
  | misses without _ => cases without.symm.trans held
  | drops _ lost _ =>
    refine ⟨sound', fun decision done => sound.decided decision done (.inr held), .inr ⟨?_, ?_⟩⟩
    · exact fun idle => absurd (.inr held) (sound.idle idle).1
    · exact fun waits => lost (sound.suspended waits (.inr held))

theorem fruitless_hangUp (documented : R.Documented) (sound : x.Sound) (untaken : x.Untaken) :
    (x.step .hangUp).1.Fruitless := by
  have left := Exchange.steps documented x .hangUp
  have sound' := sound.steps left
  apply Hopeless.fruitless documented
  generalize (x.step .hangUp).1 = y at *
  cases left with
  | misses _ tried => exact absurd tried (by simp)
  | loses inside _ gone lost _ =>
    refine ⟨sound', untaken.undecided, .inr ⟨fun _ => gone, fun waits => ?_⟩⟩
    exact lost (sound.suspended waits (.inl inside))
  | leaves other _ gone =>
    refine ⟨sound', untaken.undecided, .inr ⟨fun _ => gone, fun waits => ?_⟩⟩
    exact (untaken.waiting waits).resolve_left other

end Sound

/-- What the two sides may rely on, in whatever order their turns come. -/
structure Fair (x : Exchange R) : Prop where
  /-- A decision comes of an answer given in time and heard while the job goes on, and of nothing else. -/
  yields : ∀ events decision, (x.after events).asking = .finished (some decision) ↔
    ∃ before between later, events = before ++ .answer decision :: (between ++ .resume :: later) ∧
      (x.after before).held = true ∧
      ((x.after before).step (.answer decision)).2 = some true ∧
      (x.after (before ++ .answer decision :: between)).isCancelled = false
  delivered : ∀ before, (x.after before).asking = .idle → (x.after before).isCancelled = false →
    R.channel.isOpen (x.after before).channel = true → R.channel.slot (x.after before).channel = none →
    (x.after (before ++ [.resume, .take])).held = true ∧
      ∀ decision, ((x.after (before ++ [.resume, .take])).step (.answer decision)).2 = some true
  unasked : ∀ before, .resume ∉ before → ¬(x.after before).Out
  /-- Once the job is cancelled, a question that is not out yet never goes out. -/
  unsent : ∀ before, (x.after before).isCancelled = true →
    (∀ decision, (x.after before).asking ≠ .finished (some decision)) → ¬(x.after before).Out →
    (x.after before).Withheld
  stopped : ∀ before, (x.after before).isCancelled = true →
    (∀ decision, (x.after before).asking ≠ .finished (some decision)) → (x.after before).Fruitless
  /-- The listener is told that it was too late only if the asking side goes on without a decision. -/
  late : ∀ before decision, ((x.after before).step (.answer decision)).2 = some false →
    (x.after before).asking = .finished none
  dropped : ∀ before, (x.after before).held = true → (x.after (before ++ [.drop])).Fruitless
  /-- Whoever has taken the question may still answer it when the listener is gone. -/
  hungUp : ∀ before, (∀ earlier, earlier <+: before → (x.after earlier).held = false) →
    (x.after (before ++ [.hangUp])).Fruitless
  /-- Being cancelled comes from the job's token or one above it, and lasts. -/
  cancelled : ∀ events, (x.after events).isCancelled = true ↔ x.isCancelled = true ∨
    ∃ above, .cancel above ∈ events ∧ R.tokens.Below x.tokens x.token above
  /-- What was given to the asking side is not taken back. -/
  settled : ∀ before later answer, (x.after before).asking = .finished answer →
    (x.after (before ++ later)).asking = .finished answer

theorem fair_opening (documented : R.Documented) (token : R.tokens.Token) (tokens : R.tokens.State)
    {channel : R.channel.State} (unsent : R.channel.slot channel ≠ some .own) :
    (opening token tokens channel).Fair := by
  have sound := sound_opening documented token tokens unsent
  -- How the exchange begins is all that matters: idle, with nothing said.
  generalize started : opening token tokens channel = x at sound
  have idle : x.asking = .idle := started ▸ rfl
  have untold (decision : Decision) : ¬x.Told decision := by simp [Told, idle]
  have untaken : x.Untaken := ⟨by simp [idle], by simp [idle]⟩
  exact {
    yields := fun events decision => yields_iff documented sound (untold decision)
    delivered := fun before idle goesOn listening free => by
      rw [after_append]
      exact delivered documented (sound.after documented before) idle goesOn listening free
    unasked := fun before none =>
      ((sound.after documented before).idle (idle_after documented idle none)).1
    unsent := fun before => (sound.after documented before).withheld documented
    stopped := fun before cancelled undecided =>
      Hopeless.fruitless documented ⟨sound.after documented before, undecided, .inl cancelled⟩
    late := fun before decision => (sound.after documented before).late documented
    dropped := fun before held => by
      rw [after_append]
      exact (sound.after documented before).fruitless_drop documented held
    hungUp := fun before free => by
      rw [after_append]
      exact (sound.after documented before).fruitless_hangUp documented
        (untaken_after documented sound untaken free)
    cancelled := fun events => isCancelled_after_iff documented
    settled := fun before later answer done => by
      rw [after_append]
      exact finished_after documented done later }

/-- With a reply laid down, asking is one order of the turns among all. -/
theorem hear_eq (x : Exchange R) (reply : Reply) : (x.hear reply).1 =
    x.after (.resume :: if (x.hear reply).2.heard then .take :: reply.events x.token else []) := by
  simp [hear, after, run, step]

end Exchange

end Filing
