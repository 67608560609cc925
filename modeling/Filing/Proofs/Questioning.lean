import Filing.Job.Registry
import Filing.Proofs.Exchanging

/-!
# Asking through a job

While a question is out, tokens may be cancelled between the turns of the two sides. They are those of
the jobs, so the question is cancelled exactly when its job is (`Roster.later_after`). Whatever is done
with the jobs, a cancelled token stays cancelled and a job keeps its token (`Roster.Keeps`).

## Main results

* `Roster.asks_exactly`: what may come of asking through a job, now and later.
-/
namespace Filing

namespace Roster

variable {R : Runtime} {r r' r'' : Roster R} {job : Nat} {status : JobStatus R}
  {token : R.tokens.Token}

/-! ## What lasts -/

/-- All that may have become of the jobs, through themselves or by cancelling tokens. -/
inductive Later (r : Roster R) : Roster R → Prop
  | refl : Later r r
  | apply {between : Roster R} {step : Registry.Step} {outcome : Outcome R} (later : Later r between)
      (ran : between.apply step = .ok outcome) : Later r outcome.registry
  | cancel {between : Roster R} (later : Later r between) (token : R.tokens.Token) :
      Later r (between.cancel token)

/-- No token that was cancelled is forgotten, and no job leaves or changes its token. -/
structure Keeps (r r' : Roster R) : Prop where
  cancelled : ∀ token, r.isCancelled token = true → r'.isCancelled token = true
  token : ∀ (job : Nat) status, r.jobs[job]? = some status →
    ∃ now, r'.jobs[job]? = some now ∧ now.token = status.token

namespace Keeps

theorem refl (r : Roster R) : r.Keeps r :=
  ⟨fun _ cancelled => cancelled, fun _ status found => ⟨status, found, rfl⟩⟩

theorem trans (first : r.Keeps r') (second : r'.Keeps r'') : r.Keeps r'' := by
  refine ⟨fun token cancelled => second.cancelled token (first.cancelled token cancelled), ?_⟩
  intro job status found
  obtain ⟨between, found, same⟩ := first.token job status found
  obtain ⟨now, found, same'⟩ := second.token job between found
  exact ⟨now, found, same'.trans same⟩

/-- Guards do not matter. -/
theorem aside (keeps : r.Keeps r') (guards : List Guard) : r.Keeps { r' with guards } :=
  ⟨keeps.cancelled, keeps.token⟩

theorem onTokens (keeps : r.Keeps r') {tokens : R.tokens.State}
    (lasts : ∀ token, r'.isCancelled token = true → R.tokens.isCancelled token tokens = true) :
    r.Keeps { r' with tokens } :=
  ⟨fun token cancelled => lasts token (keeps.cancelled token cancelled), keeps.token⟩

end Keeps

theorem keeps_cancel (documented : R.Documented) (r : Roster R) (token : R.tokens.Token) :
    r.Keeps (r.cancel token) :=
  (Keeps.refl r).onTokens fun other cancelled =>
    (documented.tokens.isCancelled_cancel other token r.tokens).mpr (.inl cancelled)

theorem keeps_enrol (r : Roster R) (token : R.tokens.Token) : r.Keeps (r.enrol token) := by
  refine ⟨fun _ cancelled => cancelled, fun job status found => ⟨status, ?_, rfl⟩⟩
  obtain ⟨inside, -⟩ := List.getElem?_eq_some_iff.mp found
  exact (List.getElem?_append_left inside).trans found

theorem keeps_enrolOwn {made : R.tokens.Token × R.tokens.State}
    (lasts : ∀ token, r.isCancelled token = true → R.tokens.isCancelled token made.2 = true) :
    r.Keeps (r.enrolOwn made) :=
  ((Keeps.refl r).onTokens lasts).trans (keeps_enrol _ made.1)

theorem keeps_updateJob (r : Roster R) (job : Nat) {change : JobStatus R → JobStatus R}
    (same : ∀ status, (change status).token = status.token) : r.Keeps (r.updateJob job change) := by
  refine ⟨fun _ cancelled => cancelled, fun other status found => ?_⟩
  have changed := List.getElem?_modify change job r.jobs other
  rw [found] at changed
  refine ⟨_, changed, ?_⟩
  split
  · exact same status
  · rfl

theorem keeps_updateProgress (r : Roster R) (job : Nat) (change : Progress → Progress) :
    r.Keeps (r.updateProgress job change) := r.keeps_updateJob job fun _ => rfl

theorem keeps_hold (r : Roster R) (job total : Nat) : r.Keeps (r.hold job total) :=
  (r.keeps_updateProgress job (·.push total)).aside _

theorem keeps_stepGuard (r : Roster R) (guard : Nat) : r.Keeps (r.stepGuard guard) := by
  unfold stepGuard
  split
  · exact r.keeps_updateProgress _ _
  · exact .refl r

theorem keeps_release (r : Roster R) (guard : Nat) : r.Keeps (r.release guard) := by
  unfold release
  split
  · exact (r.keeps_updateProgress _ (·.pop)).aside _
  · exact .refl r

theorem keeps_ask (documented : R.Documented) (r : Roster R) (job : Nat) (status : JobStatus R)
    (reply : Reply) : r.Keeps (r.ask job status reply).1 := by
  have heard : r.Keeps (r.updateJob job fun own =>
      { own with channel := ((r.question status).hear reply).1.channel }) :=
    r.keeps_updateJob job fun _ => rfl
  refine heard.onTokens fun token cancelled => ?_
  have before : R.tokens.isCancelled token (r.question status).tokens = true := cancelled
  change R.tokens.isCancelled token ((r.question status).hear reply).1.tokens = true
  rw [Exchange.hear_eq]
  exact Exchange.lasts_after documented before _

theorem keeps_apply (documented : R.Documented) {step : Registry.Step} {outcome : Outcome R}
    (ran : r.apply step = .ok outcome) : r.Keeps outcome.registry := by
  unfold apply at ran
  split at ran
  next =>
    cases ran
    exact keeps_enrolOwn fun token => documented.tokens.lasts_root token r.tokens
  next job act =>
    split at ran
    next => cases ran
    next status found =>
      cases act with
      | share =>
        cases ran
        exact r.keeps_enrol _
      | child =>
        cases ran
        exact keeps_enrolOwn fun token => documented.tokens.lasts_child token status.token r.tokens
      | push total =>
        cases ran
        exact r.keeps_updateProgress job (·.push total)
      | step =>
        cases ran
        exact r.keeps_updateProgress job (·.step)
      | pop =>
        cases ran
        exact r.keeps_updateProgress job (·.pop)
      | cancel =>
        cases ran
        exact keeps_cancel documented r _
      | hold total =>
        cases ran
        exact r.keeps_hold job total
      | stepGuard guard =>
        dsimp only at ran
        split at ran
        · cases ran
          exact r.keeps_stepGuard guard
        · cases ran
      | release guard =>
        dsimp only at ran
        split at ran
        · cases ran
          exact r.keeps_release guard
        · cases ran
      | hangUp =>
        cases ran
        exact r.keeps_updateJob job fun _ => rfl
      | ask question reply =>
        cases ran
        exact keeps_ask documented r job status reply

theorem Later.keeps (documented : R.Documented) (later : r.Later r') : r.Keeps r' := by
  induction later with
  | refl => exact .refl r
  | apply _ ran ih => exact ih.trans (keeps_apply documented ran)
  | cancel _ token ih => exact ih.trans (keeps_cancel documented _ token)

/-! ## Asking -/

/-- While a question is out, nothing happens to the tokens that could not happen without it. -/
theorem later_after (documented : R.Documented) {x : Exchange R} (same : x.tokens = r.tokens)
    (events : List (Exchange.Event R.tokens.Token)) :
    r.Later { r with tokens := (x.after events).tokens } := by
  induction events using List.reverseRecOn with
  | nil =>
    rw [Exchange.after_nil, same]
    exact .refl
  | append_singleton earlier last ih =>
    have tokens := (Exchange.steps documented (x.after earlier) last).tokens.2
    rw [Exchange.after_append, Exchange.after_cons, Exchange.after_nil, tokens]
    cases last with
    | cancel above => exact ih.cancel above
    | resume | take | answer _ | drop | hangUp => exact ih

/-- What asking comes to if the job is cancelled by then. -/
def unheard (listening : Bool) : Hearing :=
  { decision := none, heard := false, success := none, cancelled := true, listening }

theorem hear_question (cancelled : r.isCancelled status.token = true) (reply : Reply) :
    ((r.question status).hear reply).2 = unheard (R.channel.isOpen status.channel) := by
  have resumed : (r.question status).resume = (r.question status).finish none := if_pos cancelled
  have stopped : ((r.question status).finish none).isCancelled = true := cancelled
  have same : ((r.question status).finish none).channel = status.channel := rfl
  simp [Exchange.hear, Exchange.run, Exchange.answered?, unheard, resumed, stopped, same]

/-- A new job has a channel of its own. -/
theorem fair_enrol (documented : R.Documented) (r : Roster R) (token : R.tokens.Token) :
    ∃ status, (r.enrol token).jobs[r.jobs.length]? = some status ∧ status.token = token ∧
      ((r.enrol token).question status).Fair := by
  refine ⟨{ progress := .start, token, channel := R.channel.start }, by simp [enrol], rfl, ?_⟩
  exact Exchange.fair_opening documented _ _ (by simp [documented.channel.start])

/-- What may come of asking through a job. -/
structure Asks (r : Roster R) (job : Nat) (status : JobStatus R) : Prop where
  /-- Whatever there is in the channel by then. -/
  fair : ∀ channel, R.channel.slot channel ≠ some .own →
    (Exchange.opening status.token r.tokens channel).Fair
  /-- The question sees the tokens as the jobs do. -/
  meanwhile : ∀ channel events,
    ((Exchange.opening status.token r.tokens channel).after events).token = status.token ∧
    r.Later { r with tokens := ((Exchange.opening status.token r.tokens channel).after events).tokens }
  /-- With a reply laid down, asking is one order of the turns among all. -/
  replied : ∀ reply, (r.ask job status reply).2.decision =
    ((r.question status).after (.resume :: if (r.ask job status reply).2.heard
      then .take :: reply.events status.token else [])).answered?
  cancels : (r.cancel status.token).isCancelled status.token = true
  /-- A job enrolled below this one is cancelled with it. -/
  below : ∀ outcome, r.apply (.on job .child) = .ok outcome →
    ∃ lower, outcome.registry.jobs[outcome.job]? = some lower ∧
      (outcome.registry.question lower).Fair ∧
      R.tokens.Below outcome.registry.tokens lower.token status.token ∧
      (r.isCancelled status.token = true → outcome.registry.isCancelled lower.token = true)
  /-- Once the job is cancelled, no later question is delivered or decided. -/
  lasting : ∀ seen r', r.Later seen → seen.isCancelled status.token = true → seen.Later r' →
    ∃ now, r'.jobs[job]? = some now ∧ now.token = status.token ∧
      (∀ channel, R.channel.slot channel ≠ some .own →
        (Exchange.opening now.token r'.tokens channel).Withheld) ∧
      ∀ question reply, ∃ outcome, r'.apply (.on job (.ask question reply)) = .ok outcome ∧
        outcome.hearing = some (unheard (R.channel.isOpen now.channel))

/-- Asking through a job yields a decision if and only if it was given as an answer to that question in
time, and the job was not cancelled when the asking side had its turn. An answer that is too late, a
question dropped and a listener gone before taking it all mean that no decision comes, and of a job that
is cancelled by then the question is not even sent. That stays so for every later question. -/
theorem asks_exactly (documented : R.Documented) (found : r.jobs[job]? = some status) :
    r.Asks job status where
  fair channel unsent := Exchange.fair_opening documented _ _ unsent
  meanwhile channel events :=
    ⟨Exchange.token_after documented _ events, later_after documented rfl events⟩
  replied reply := congrArg Exchange.answered? (Exchange.hear_eq (r.question status) reply)
  cancels := (documented.tokens.isCancelled_cancel _ _ _).mpr
    (.inr (documented.tokens.below_self status.token r.tokens))
  below outcome ran := by
    simp only [apply, found] at ran
    cases ran
    have below := documented.tokens.below_child status.token r.tokens
    have follows := documented.tokens.isCancelled_child status.token r.tokens
    generalize R.tokens.child status.token r.tokens = made at below follows
    obtain ⟨lower, there, same, fair⟩ := fair_enrol documented { r with tokens := made.2 } made.1
    rw [← same] at below follows
    exact ⟨lower, there, fair, below, follows⟩
  lasting seen r' earlier cancelled later := by
    have kept := later.keeps documented
    obtain ⟨now, there, same⟩ := ((earlier.keeps documented).trans kept).token job status found
    have still : r'.isCancelled now.token = true := by
      rw [same]
      exact kept.cancelled _ cancelled
    refine ⟨now, there, same, fun channel unsent => ?_, fun question reply => ?_⟩
    · have sound := Exchange.sound_opening documented now.token r'.tokens unsent
      exact sound.withheld documented still (by rintro _ ⟨⟩) (sound.idle rfl).1
    · have unheard := hear_question still reply
      simp only [apply, there, ask, unheard]
      exact ⟨_, rfl, rfl⟩

end Roster

namespace Sample

def upperToken : Lineage := { number := 0, above := [] }

def lowerToken : Lineage := { number := 1, above := [0] }

/-- A channel that someone listens to. -/
def vacant : Slot Letter := { content := none, isOpen := true }

def lower : JobStatus .plain := { progress := .start, token := lowerToken, channel := vacant }

/-- The second job's token lies below the first one's. -/
def tiered : Registry :=
  let upper := Registry.empty.enrolOwn (Tokens.plain.root Tokens.plain.start)
  upper.enrolOwn (Tokens.plain.child upperToken upper.tokens)

def consent : Decision := { overwrite := true, applyToAll := false }

end Sample

open Sample in
/-- An answer is heard, unless the job above is cancelled in between, and then none ever is again. -/
theorem Roster.asks_exactly_tiered : Runtime.plain.Documented ∧ tiered.jobs[1]? = some lower ∧
    ((tiered.question lower).after [.resume, .take, .answer consent, .resume]).asking =
      .finished (some consent) ∧
    (∀ decision, ((tiered.question lower).after
      [.resume, .take, .answer consent, .cancel upperToken, .resume]).asking ≠
        .finished (some decision)) ∧
    (tiered.cancel upperToken).isCancelled lower.token = true ∧
    ∀ question reply, ∃ outcome,
      (tiered.cancel upperToken).apply (.on 1 (.ask question reply)) = .ok outcome ∧
      outcome.hearing = some (unheard true) := by
  have found : tiered.jobs[1]? = some lower := rfl
  have cancelled : (tiered.cancel upperToken).isCancelled lower.token = true := by decide
  have asks := asks_exactly Runtime.plain_documented found
  have fair := asks.fair vacant (by decide)
  refine ⟨Runtime.plain_documented, found, ?_, ?_, cancelled, ?_⟩
  · exact (fair.yields _ consent).mpr ⟨[.resume, .take], [], [], rfl, rfl, rfl, rfl⟩
  · have stopped := fair.stopped [.resume, .take, .answer consent, .cancel upperToken] rfl
      (by rintro _ ⟨⟩)
    exact (stopped [.resume]).1
  · obtain ⟨now, there, _, _, unheard⟩ := asks.lasting _ _ (.cancel .refl upperToken) cancelled .refl
    cases there
    exact unheard

end Filing
