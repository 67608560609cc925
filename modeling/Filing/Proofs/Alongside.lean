import Filing.Proofs.Calling
import Filing.Proofs.Composing

/-!
# Two runs side by side

An action on two desks that have the same contents does the same on both, whatever their jobs are and
whatever was reported before, as long as the jobs give the same answers where it asks (`Setup.Alike`).
What the one desk's report told more at first, it tells more in the end (`Pairing.earlier`). All work on
an item is such an action (`Action.respects_work`).
-/
namespace Filing

variable {σ τ α β ι : Type}

/-! ## Reports one after another -/

/-- What two requests have come to, the second one after the first. -/
def Report.append (earlier later : Report) : Report :=
  { later with
    failures := earlier.failures ++ later.failures
    warnings := earlier.warnings ++ later.warnings
    tally := earlier.tally + later.tally
    cancelled := earlier.cancelled || later.cancelled }

instance : Append Report := ⟨Report.append⟩

theorem Tally.add_assoc (first second third : Tally) :
    first + second + third = first + (second + third) := by
  change (first.add second).add third = first.add (second.add third)
  simp only [add, Nat.add_assoc]

theorem Tally.zero_add (t : Tally) : {} + t = t := by
  change add {} t = t
  simp only [add, Nat.zero_add]

theorem Tally.add_zero (t : Tally) : t + {} = t := rfl

/-- Where nothing was reported yet, the second report is all there is. -/
theorem Report.fresh_append (operation : Operation) (mode : Mode) (report : Report) :
    ({ operation, mode } : Report) ++ report = report := by
  change append _ report = report
  simp only [append, Tally.zero_add, List.nil_append, Bool.false_or]

theorem Report.append_fresh (report : Report) :
    report ++ ({ operation := report.operation, mode := report.mode } : Report) = report := by
  change append report _ = report
  simp only [append, Tally.add_zero, List.append_nil, Bool.or_false]

/-! ## What goes alongside -/

/-- What two desks have in common and what they do not. -/
structure Pairing (τ : Type) where
  interactive : Bool
  /-- The surroundings go on alike. -/
  alike : τ → τ → Prop
  /-- What only the one report tells, before all the rest. -/
  earlier : Report
  /-- What the logs were at first. -/
  logs : List Entry × List Entry

/-- Surroundings that are alike stay alike: the jobs answer the same questions alike, and as long as
neither was cancelled, being asked about it makes no difference. -/
structure Setup.Alike (setup : Setup τ) (interactive : Bool) (alike : τ → τ → Prop) : Prop where
  fault : ∀ {around around'} method id, alike around around' →
    alike (setup.faults method id around).2 (setup.faults method id around').2
  push : ∀ {around around'} total, alike around around' →
    alike ((setup.job.push total).run around).2 ((setup.job.push total).run around').2
  step : ∀ {around around'}, alike around around' →
    alike (setup.job.step.run around).2 (setup.job.step.run around').2
  pop : ∀ {around around'}, alike around around' →
    alike (setup.job.pop.run around).2 (setup.job.pop.run around').2
  /-- Only interactive requests ask. -/
  ask : interactive = true → ∀ {around around'} question, alike around around' →
    ((setup.job.ask question).run around).1 = ((setup.job.ask question).run around').1 ∧
      alike ((setup.job.ask question).run around).2 ((setup.job.ask question).run around').2
  isCancelled : ∀ {around around'}, alike around around' →
    (setup.job.isCancelled.run around).1 = false → (setup.job.isCancelled.run around').1 = false →
    alike (setup.job.isCancelled.run around).2 (setup.job.isCancelled.run around').2

namespace Setup

/-- Surroundings are like themselves. -/
theorem alike_refl (setup : Setup τ) (interactive : Bool) : setup.Alike interactive Eq where
  fault := by rintro _ _ _ _ rfl; rfl
  push := by rintro _ _ _ rfl; rfl
  step := by rintro _ _ rfl; rfl
  pop := by rintro _ _ rfl; rfl
  ask := by rintro _ _ _ _ rfl; exact ⟨rfl, rfl⟩
  isCancelled := by rintro _ _ rfl _ _; rfl

/-- As long as nobody is asked, the surroundings do not matter. -/
theorem alike_anyhow (setup : Setup τ) : setup.Alike false fun _ _ => True where
  fault _ _ _ := trivial
  push _ _ := trivial
  step _ := trivial
  pop _ := trivial
  ask := by rintro ⟨⟩
  isCancelled _ _ _ := trivial

end Setup

structure Cabinet.Alongside (p : Pairing τ) (one other : Cabinet τ) : Prop where
  store : one.store = other.store
  around : p.alike one.around other.around
  /-- The same calls were made. -/
  log : ∃ extra, one.log = p.logs.1 ++ extra ∧ other.log = p.logs.2 ++ extra

structure Desk.Alongside (p : Pairing τ) (one other : Desk (Cabinet τ)) : Prop where
  world : one.world.Alongside p other.world
  interactive : one.interactive = p.interactive
  interactive' : other.interactive = p.interactive
  /-- Otherwise nobody minds what is remembered. -/
  remembered : p.interactive = true → one.remembered = other.remembered
  report : one.report = p.earlier ++ other.report
  /-- Nothing has been left out. -/
  whole : other.report.cancelled = false

variable {p : Pairing τ} {one other : Desk (Cabinet τ)} {setup : Setup τ}

/-- Both answer alike and go on side by side. -/
def Call.Respects (p : Pairing τ) (c : Call (Cabinet τ) α) : Prop :=
  ∀ one other : Cabinet τ, one.Alongside p other →
    (c.run one).1 = (c.run other).1 ∧ (c.run one).2.Alongside p (c.run other).2

/-- Whatever comes of it on the one desk comes of it on the other. -/
def Action.Respects (p : Pairing τ) (action : Action (Cabinet τ) α) : Prop :=
  ∀ one other : Desk (Cabinet τ), one.Alongside p other → action.Meets one fun result after =>
    ∃ after', action other = some (result, after') ∧ after.Alongside p after'

namespace Call.Respects

theorem pure (a : α) : Respects p (Pure.pure a : Call (Cabinet τ) α) :=
  fun _ _ alongside => ⟨rfl, alongside⟩

theorem throw (error : StoreError) : Respects p (MonadExcept.throw error : Call (Cabinet τ) α) :=
  fun _ _ alongside => ⟨rfl, alongside⟩

theorem ofExcept (result : Except StoreError α) :
    Respects p (MonadExcept.ofExcept result : Call (Cabinet τ) α) := by
  cases result with
  | ok a => exact pure a
  | error e => exact throw e

theorem bind {c : Call (Cabinet τ) α} {next : α → Call (Cabinet τ) β} (first : Respects p c)
    (rest : ∀ a, Respects p (next a)) : Respects p (c >>= next) := by
  intro one other alongside
  obtain ⟨same, alongside⟩ := first one other alongside
  rw [run_bind, run_bind]
  cases ran : c.run one with
  | mk told between =>
    cases ran' : c.run other with
    | mk told' between' =>
      simp only [ran, ran'] at same alongside
      subst same
      cases told with
      | ok a => exact rest a between between' alongside
      | error e => exact ⟨rfl, alongside⟩

variable (fault : ∀ {around around'} method id, p.alike around around' →
    p.alike (setup.faults method id around).2 (setup.faults method id around').2)
  (reliable : setup.Reliable)
include fault reliable

/-- What a store answers and does depends on nothing but what is stored. -/
theorem attempt (method : Scenario.Method) (id : EntityId) (c : Call MemoryStore α) :
    Respects p (Cabinet.attempt setup.faults method id c) := by
  -- No call is refused, so the surroundings have no say in what is answered.
  have went (cabinet : Cabinet τ) : (Cabinet.attempt setup.faults method id c).run cabinet =
      ((c.run cabinet.store).1, ⟨(c.run cabinet.store).2, (setup.faults method id cabinet.around).2,
        cabinet.log ++ [⟨method, !(c.run cabinet.store).1.isOk, (c.run cabinet.store).2.contents⟩]⟩) := by
    change Cabinet.attempt setup.faults method id c cabinet = _
    cases decided : setup.faults method id cabinet.around with
    | mk fault around =>
      cases fault with
      | none =>
        simp only [Cabinet.attempt, decided]
        rfl
      | some error => exact absurd ⟨method, id, cabinet.around, by simp [decided]⟩ reliable
  rintro one other ⟨store, around, extra, log, log'⟩
  rw [went, went, store, log, log']
  exact ⟨rfl, rfl, fault method id around, _, List.append_assoc .., List.append_assoc ..⟩

theorem uniquifier (drive desired : String) : Respects p (setup.host.uniquifier drive desired) := by
  have free (taken : EntityId) (number attempts : Nat) : Respects p
      (setup.suffixing.firstFree (Cabinet.asStore setup.faults).has taken desired number attempts) := by
    induction attempts generalizing number with
    | zero => exact throw _
    | succ attempts ih =>
      refine .bind (.ofExcept _) fun candidate => .bind (attempt fault reliable _ _ _) fun used => ?_
      split
      · exact ih (number + 1)
      · exact pure candidate
  refine .bind (.ofExcept _) fun candidate => .bind (attempt fault reliable _ _ _) fun used => ?_
  split
  · exact free candidate _ _
  · exact pure candidate

theorem classify (request : Request) : Respects p (request.classify setup.host) := by
  unfold Request.classify
  split
  · exact .bind (attempt fault reliable .folder _ _) fun found => pure _
  · exact pure _
  · exact pure _

end Call.Respects

namespace Action.Respects

theorem pure (a : α) : Respects p (Pure.pure a : Action (Cabinet τ) α) :=
  fun _ other alongside => .pure ⟨other, rfl, alongside⟩

theorem throw (error : RequestError) : Respects p (MonadExcept.throw error : Action (Cabinet τ) α) :=
  fun _ other alongside => .throw ⟨other, rfl, alongside⟩

theorem tooDeep : Respects p (Action.tooDeep : Action (Cabinet τ) α) := fun _ _ _ => .tooDeep

theorem bind {action : Action (Cabinet τ) α} {next : α → Action (Cabinet τ) β}
    (first : Respects p action) (rest : ∀ a, Respects p (next a)) : Respects p (action >>= next) := by
  intro one other alongside
  refine (first one other alongside).bind ?_ ?_
  · rintro a between ⟨between', ran, alongside⟩
    refine (rest a between between' alongside).mono ?_
    rintro _ _ ⟨after', ran', alongside⟩
    exact ⟨after', by rw [bind_apply, ran]; exact ran', alongside⟩
  · rintro error between ⟨between', ran, alongside⟩
    exact ⟨between', by rw [bind_apply, ran]; rfl, alongside⟩

/-- What is done next depends only on what both desks have in common. -/
theorem get {next : Desk (Cabinet τ) → Action (Cabinet τ) α}
    (rest : ∀ one other : Desk (Cabinet τ), one.Alongside p other →
      next one = next other ∧ Respects p (next other)) :
    Respects p ((MonadState.get : Action (Cabinet τ) (Desk (Cabinet τ))) >>= next) := by
  intro one other alongside
  obtain ⟨same, respects⟩ := rest one other alongside
  refine .get ?_
  rw [same]
  exact respects one other alongside

theorem call {c : Call (Cabinet τ) α} (respects : c.Respects p) : Respects p (Action.call c) := by
  intro one other alongside result after ran
  obtain ⟨same, world⟩ := respects one.world other.world alongside.world
  unfold Action.call at ran ⊢
  cases went : c.run one.world with
  | mk told between =>
    cases went' : c.run other.world with
    | mk told' between' =>
      simp only [went, went'] at same world ran ⊢
      subst same
      cases told with
      | ok a =>
        cases ran
        exact ⟨_, rfl, { alongside with world }⟩
      | error e =>
        cases ran
        exact ⟨_, rfl, { alongside with world }⟩

/-- What goes into a report goes behind what was there before. -/
theorem record {change : Report → Report}
    (appends : ∀ report, change (p.earlier ++ report) = p.earlier ++ change report)
    (keeps : ∀ report, (change report).cancelled = report.cancelled) :
    Respects p (Action.record change : Action (Cabinet τ) Unit) := by
  intro one other alongside
  refine .modify ⟨_, rfl, { alongside with report := ?_, whole := (keeps _).trans alongside.whole }⟩
  dsimp only
  rw [alongside.report, appends]

theorem count (added : Tally) : Respects p (Action.count (· + added) : Action (Cabinet τ) Unit) := by
  refine record (fun report => ?_) fun _ => rfl
  exact congrArg (fun tally => { p.earlier ++ report with tally }) (Tally.add_assoc _ _ _)

theorem warn (warning : RequestError) : Respects p (Action.warn warning : Action (Cabinet τ) Unit) := by
  refine record (fun report => ?_) fun _ => rfl
  exact congrArg (fun warnings => { p.earlier ++ report with warnings }) (List.append_assoc ..)

theorem settle {work : Action (Cabinet τ) Unit} (respects : Respects p work) :
    Respects p (Action.settle work) := by
  intro one other alongside
  refine (respects one other alongside).settle ?_ ?_
  · rintro after ⟨after', ran, alongside⟩
    exact ⟨after', by rw [settle_apply, ran]; rfl, alongside⟩
  · rintro error after ⟨after', ran, alongside⟩
    -- The failure is listed behind all there was before.
    refine ⟨after'.failing error, by rw [settle_apply, ran]; rfl, { alongside with report := ?_ }⟩
    dsimp only
    rw [alongside.report]
    exact congrArg (fun failures => { p.earlier ++ after'.report with failures })
      (List.append_assoc ..)

theorem turn {action : StateM τ α} (answers : ∀ {around around'}, p.alike around around' →
      (action.run around).1 = (action.run around').1 ∧
        p.alike (action.run around).2 (action.run around').2) :
    Respects p (Action.turn (Cabinet.aside action)) := by
  intro one other alongside
  obtain ⟨same, around⟩ := answers alongside.world.around
  refine (meets_aside action).mono ?_
  rintro _ _ ⟨a, _, told, rfl, rfl⟩
  rw [told] at same around
  refine ⟨{ other with world := { other.world with around := (action.run other.world.around).2 } },
    ?_, { alongside with world := { alongside.world with around } }⟩
  dsimp only at same
  rw [same]
  rfl

section

variable (alike : setup.Alike p.interactive p.alike)
include alike

theorem item {work : Action (Cabinet τ) Unit} (respects : Respects p work) :
    Respects p (Action.item setup.host.job work) :=
  .bind (.settle respects) fun _ => .turn fun around => ⟨rfl, alike.step around⟩

theorem inLevel {total : Nat} {work : Action (Cabinet τ) Unit} (respects : Respects p work) :
    Respects p (Action.inLevel setup.host.job total work) :=
  .bind (.turn fun around => ⟨rfl, alike.push total around⟩) fun _ =>
    .bind respects fun _ => .turn fun around => ⟨rfl, alike.pop around⟩

theorem decideCollision (source destination : EntityId) :
    Respects p (Action.decideCollision setup.host source destination) := by
  unfold Action.decideCollision
  refine .get fun one other alongside => ?_
  -- Both ask, or neither does. What is remembered matters only if they ask.
  rw [alongside.interactive, alongside.interactive']
  split
  next asks =>
    rw [alongside.remembered asks]
    refine ⟨rfl, ?_⟩
    cases other.remembered with
    | some overwrite => exact pure _
    | none =>
      refine .bind (.turn (alike.ask asks _)) fun answer => ?_
      cases answer with
      | none => exact pure _
      | some decision =>
        dsimp only
        split
        · refine .bind (fun one other alongside => ?_) fun _ => pure _
          exact .modify ⟨_, rfl, { alongside with remembered := fun _ => rfl }⟩
        · exact pure _
  next => exact ⟨rfl, pure _⟩

end

end Action.Respects

namespace Action

/-- All work goes on side by side. -/
theorem respects_work (alike : setup.Alike p.interactive p.alike) (reliable : setup.Reliable) :
    ComposesWork setup.host (Respects p) := by
  -- The store answers both sides alike, as it holds the same for both and fails for both or for neither.
  have attempts (method : Scenario.Method) (id : EntityId) {β : Type} (c : Call MemoryStore β) :
      Respects p (call (Cabinet.attempt setup.faults method id c)) :=
    .call (.attempt alike.fault reliable method id c)
  have single : ComposesCollisions setup.host (Respects p) :=
    { pure := .pure
      throw := .throw
      tooDeep := .tooDeep
      bind := .bind
      folder := fun id => attempts .folder id _
      canEdit := fun id => attempts .canEdit id _
      canDelete := fun id => attempts .canDelete id _
      file := fun id => attempts .file id _
      save := fun entity => attempts .save entity.id _
      delete := fun id => attempts .delete id _
      rename := fun source target => attempts .rename source _
      uniquifier := fun drive desired => .call (.uniquifier alike.fault reliable drive desired)
      count := fun added _ => .count added
      decideCollision := .decideCollision alike
      warn := .warn
      overwritten := .count _ }
  exact single.work (.item alike) (.inLevel alike)

end Action

end Filing
