import Filing.Proofs.Trace

/-!
# When all goes well

`Cleanly` says what an action does to a store if nothing fails and nothing is left out until it ends.
The failure of an item is noticed only at the very end, in the report; so these rules speak of every
desk an action may start on, and what has to hold there is put into the goal.
-/
namespace Filing

variable {τ α β ι : Type}

namespace Desk

/-- These are the rules, nothing has failed and nothing was left out. -/
structure Clean {σ : Type} (rules : Rules) (desk : Desk σ) : Prop where
  rules : desk.rules = rules
  unfailing : desk.report.failures = []
  whole : desk.report.cancelled = false

variable {first second : Desk (Cabinet τ)} {extra : List Entry} {method : Scenario.Method}
  {store : MemoryStore} {change : Tally → Tally} {rules : Rules}

theorem Kept.clean (kept : first.Kept second extra) (clean : second.Clean rules) :
    first.Clean rules := by
  obtain ⟨warnings, report⟩ := kept.report
  obtain ⟨same, unfailing, whole⟩ := clean
  rw [report] at unfailing whole
  exact ⟨kept.rules.symm.trans same, unfailing, whole⟩

theorem Wrote.clean (wrote : first.Wrote second method store change) (clean : second.Clean rules) :
    first.Clean rules := by
  obtain ⟨same, unfailing, whole⟩ := clean
  rw [wrote.report] at unfailing whole
  exact ⟨wrote.rules.symm.trans same, unfailing, whole⟩

theorem Changed.clean (changed : first.Changed second store change) (clean : second.Clean rules) :
    first.Clean rules := by
  obtain ⟨_, _, _, kept, wrote⟩ := changed
  exact kept.clean (wrote.clean clean)

theorem Failed.clean {faults : Faults τ} {reason : RequestError → Prop} {error : RequestError}
    (failed : first.Failed faults reason error second) (clean : second.Clean rules) : first.Clean rules := by
  obtain ⟨_, kept, _⟩ := failed
  exact kept.clean clean

theorem not_clean_failing (desk : Desk (Cabinet τ)) (error : RequestError) :
    ¬ (desk.failing error).Clean rules := fun clean => by
  have unfailing := clean.unfailing
  simp [failing] at unfailing

end Desk

namespace Action

variable {setup : Setup τ} {rules : Rules}

/-- If all is well when the action ends, it was when the action began, and `goal` holds between the
store it began on, what it ended with and the store it left. -/
def Cleanly (rules : Rules) (action : Action (Cabinet τ) α)
    (goal : MemoryStore → α → MemoryStore → Prop) : Prop :=
  ∀ desk, action.Meets desk fun result after => after.Clean rules →
    desk.Clean rules ∧ ∀ a, result = .ok a → goal desk.world.store a after.world.store

namespace Cleanly

variable {goal strong mid : MemoryStore → α → MemoryStore → Prop}
  {goal' : MemoryStore → β → MemoryStore → Prop}

theorem mono {action : Action (Cabinet τ) α} (cleanly : Cleanly rules action strong)
    (implies : ∀ s a s', strong s a s' → goal s a s') : Cleanly rules action goal := by
  intro desk
  refine (cleanly desk).mono fun result after holds clean => ?_
  obtain ⟨before, reached⟩ := holds clean
  exact ⟨before, fun a ended => implies _ a _ (reached a ended)⟩

theorem pure {a : α} (holds : ∀ s, goal s a s) :
    Cleanly rules (Pure.pure a : Action (Cabinet τ) α) goal := by
  refine fun desk => .pure fun clean => ⟨clean, ?_⟩
  rintro _ ⟨⟩
  exact holds _

theorem tooDeep : Cleanly rules (Action.tooDeep : Action (Cabinet τ) α) goal := fun _ => .tooDeep

theorem bind {action : Action (Cabinet τ) α} {next : α → Action (Cabinet τ) β}
    (first : Cleanly rules action mid)
    (rest : ∀ a, Cleanly rules (next a) fun m b s' => ∀ s, mid s a m → goal' s b s') :
    Cleanly rules (action >>= next) goal' := by
  intro desk
  refine (first desk).bind (fun a between before => ?_) fun error after before clean => ?_
  · refine (rest a between).mono fun result after ended clean => ?_
    obtain ⟨clean, reached⟩ := ended clean
    obtain ⟨clean, reached'⟩ := before clean
    exact ⟨clean, fun b here => reached b here _ (reached' a rfl)⟩
  · refine ⟨(before clean).1, ?_⟩
    rintro _ ⟨⟩

theorem look {faults : Faults τ} {action : Action (Cabinet τ) α} {next : α → Action (Cabinet τ) β}
    {answer : MemoryStore → Except RequestError α → Prop}
    (looks : ∀ store, Looks faults store action (answer store))
    (rest : ∀ a, Cleanly rules (next a) fun s b s' => answer s (.ok a) → goal' s b s') :
    Cleanly rules (action >>= next) goal' := by
  have first : Cleanly rules action fun s a m => m = s ∧ answer s (.ok a) := by
    intro desk
    refine (looks desk.world.store desk rfl).mono ?_
    rintro result after ⟨extra, looked, ended⟩ clean
    refine ⟨looked.kept.clean clean, ?_⟩
    rintro a rfl
    exact ⟨looked.store, by simpa using ended⟩
  refine first.bind fun a => (rest a).mono ?_
  rintro m b s' reached _ ⟨rfl, answered⟩
  exact reached answered

/-- Looks at something that is known. -/
theorem look_ok {faults : Faults τ} {action : Action (Cabinet τ) α}
    {next : α → Action (Cabinet τ) β} {view : MemoryStore → α}
    (looks : ∀ store, Looks faults store action (· = .ok (view store)))
    (rest : ∀ a, Cleanly rules (next a) fun s b s' => a = view s → goal' s b s') :
    Cleanly rules (action >>= next) goal' :=
  .look looks fun a => (rest a).mono fun _ _ _ reached answered => reached (by simpa using answered)

theorem require {permission : Permission} {id : EntityId} {next : PUnit → Action (Cabinet τ) β}
    (rest : Cleanly rules (next ⟨⟩) goal') :
    Cleanly rules (Action.require setup.host permission id >>= next) goal' :=
  .look (fun store => looks_require setup store permission id) fun _ =>
    rest.mono fun _ _ _ reached _ => reached

theorem turn (action : StateM τ α) {next : α → Action (Cabinet τ) β}
    (rest : ∀ a, Cleanly rules (next a) goal') :
    Cleanly rules (Action.turn (Cabinet.aside action) >>= next) goal' := by
  have turned : Cleanly rules (Action.turn (Cabinet.aside action)) fun s _ m => m = s := by
    intro desk
    refine (meets_turn action).mono ?_
    rintro _ after ⟨_, looked⟩ clean
    exact ⟨looked.kept.clean clean, fun _ _ => looked.store⟩
  refine turned.bind fun a => (rest a).mono ?_
  rintro m b s' reached _ rfl
  exact reached

theorem count {change : Tally → Tally} {next : PUnit → Action (Cabinet τ) β}
    (rest : Cleanly rules (next ⟨⟩) goal') :
    Cleanly rules (Action.count change >>= next) goal' := by
  intro desk
  refine .modify_bind ((rest _).mono fun result after ended clean => ?_)
  obtain ⟨before, reached⟩ := ended clean
  exact ⟨⟨before.rules, before.unfailing, before.whole⟩, reached⟩

/-- What was done cleanly was done in steps. -/
theorem traced {action : Action (Cabinet τ) α} (cleanly : Cleanly rules action goal)
    (traces : Traces rules action) : Cleanly rules action fun s a s' =>
      goal s a s' ∧ ∃ tally tally', Steps rules ⟨s, tally⟩ ⟨s', tally'⟩ := by
  intro desk result after ran clean
  obtain ⟨before, reached⟩ := cleanly desk result after ran clean
  have steps := (traces desk before.rules result after ran).steps
  rw [before.rules] at steps
  exact ⟨before, fun a ended => ⟨reached a ended, _, _, steps⟩⟩

/-- Going through a list, what is reached after each item depends on the items already seen. -/
theorem forM {items : List ι} {work : ι → Action (Cabinet τ) Unit}
    (acc : MemoryStore → List ι → MemoryStore → Prop) (start : ∀ s, acc s [] s)
    (each : ∀ item, Cleanly rules (work item) fun m _ s' => ∀ s seen later,
      items = seen ++ item :: later → acc s seen m → acc s (seen ++ [item]) s') :
    Cleanly rules (items.forM work) fun s _ s' => acc s items s' := by
  intro desk
  -- That nothing has failed is known from the end back, what was done from the start on.
  refine .forM (fun seen after => after.Clean rules →
    desk.Clean rules ∧ acc desk.world.store seen after.world.store) (fun clean => ⟨clean, start _⟩) ?_
    fun after soFar clean => ⟨(soFar clean).1, fun _ _ => (soFar clean).2⟩
  intro seen item later split between before
  refine (each item between).mono fun result after ended => ?_
  cases result with
  | ok _ =>
    intro clean
    obtain ⟨clean, reached⟩ := ended clean
    obtain ⟨clean, soFar⟩ := before clean
    exact ⟨clean, reached _ rfl _ seen later split soFar⟩
  | error _ =>
    refine fun clean => ⟨(before (ended clean).1).1, ?_⟩
    rintro _ ⟨⟩

variable {outcome : MemoryStore → Unit → MemoryStore → Prop} {work : Action (Cabinet τ) Unit}

/-- A failure is put into the report, and then all is no longer well. -/
theorem settle (cleanly : Cleanly rules work outcome) : Cleanly rules (Action.settle work) outcome := by
  intro desk
  refine (cleanly desk).settle (fun after ended => ended) fun error after _ clean => ?_
  exact absurd clean (Desk.not_clean_failing after error)

/-- What the job does last changes nothing. -/
theorem thenTurn (cleanly : Cleanly rules work outcome) (action : StateM τ Unit) :
    Cleanly rules (work >>= fun _ => Action.turn (Cabinet.aside action)) outcome := by
  refine .bind cleanly fun _ desk => (meets_turn action).mono ?_
  rintro _ after ⟨_, looked⟩ clean
  refine ⟨looked.kept.clean clean, fun _ _ s reached => ?_⟩
  rw [looked.store]
  exact reached

theorem item (cleanly : Cleanly rules work outcome) :
    Cleanly rules (Action.item setup.host.job work) outcome :=
  .thenTurn (.settle cleanly) setup.job.step

theorem inLevel {total : Nat} (cleanly : Cleanly rules work outcome) :
    Cleanly rules (Action.inLevel setup.host.job total work) outcome :=
  .turn (setup.job.push total) fun _ => .thenTurn cleanly setup.job.pop

/-- Nothing was left out, so every path was worked on. -/
theorem workOff {paths : List Path} {work : Path → Action (Cabinet τ) Unit}
    (acc : MemoryStore → List Path → MemoryStore → Prop) (start : ∀ s, acc s [] s)
    (each : ∀ path ∈ paths, Cleanly rules (work path) fun m _ s' => ∀ s seen,
      acc s seen m → acc s (seen ++ [path]) s') :
    Cleanly rules (Request.workOff setup.host work paths) fun s _ s' => acc s paths s' := by
  have go (seen later : List Path) (split : paths = seen ++ later) :
      Cleanly rules (Request.workOff setup.host work later) fun m _ s' => ∀ s, acc s seen m → acc s paths s' := by
    induction later generalizing seen with
    | nil => exact .pure fun m s reached => by simpa [split] using reached
    | cons path later ih =>
      unfold Request.workOff
      refine .turn setup.job.isCancelled fun cancelled => ?_
      split
      · exact fun desk => .modify fun clean => absurd clean.whole (by simp)
      · refine .bind (.item (each path (by simp [split]))) fun _ => ?_
        refine (ih (seen ++ [path]) (by simp [split])).mono fun m _ s' rest s before start soFar => ?_
        exact rest start (before start seen soFar)
  refine (go [] paths rfl).mono fun s _ s' reached => reached s (start s)

theorem workOff_one {path : Path} {work : Path → Action (Cabinet τ) Unit}
    (cleanly : Cleanly rules (work path) outcome) :
    Cleanly rules (Request.workOff setup.host work [path]) outcome := by
  unfold Request.workOff
  refine .turn setup.job.isCancelled fun cancelled => ?_
  split
  · exact fun desk => .modify fun clean => absurd clean.whole (by simp)
  · exact .bind (.item cleanly) fun _ => .pure fun m s reached => reached

end Cleanly

end Action

end Filing
