import Filing.Proofs.Linking
import Filing.Proofs.Step

/-!
# Tracing actions

A traced action gets from one desk to another by steps, and what is stored after each of its calls is
reached by steps too. That holds whatever its result is and whichever calls fail, so tracing goes
through all ways of putting actions together.
-/
namespace Filing

variable {τ : Type}

def Desk.stage (desk : Desk (Cabinet τ)) : Stage := ⟨desk.world.store, desk.report.tally⟩

/-- Steps lead from one desk to the other and to whatever was stored in between. -/
structure Desk.Traced (before after : Desk (Cabinet τ)) : Prop where
  steps : Steps before.rules before.stage after.stage
  rules : after.rules = before.rules
  log : ∃ extra, after.world.log = before.world.log ++ extra ∧
    ∀ entry ∈ extra, ∃ stage, Steps before.rules before.stage stage ∧
      stage.store.contents = entry.contents
  failures : before.report.failures <+: after.report.failures

namespace Desk

variable {first second third : Desk (Cabinet τ)} {extra : List Entry} {method : Scenario.Method}
  {store : MemoryStore} {change : Tally → Tally}

theorem Kept.stage (kept : first.Kept second extra) : second.stage = first.stage := by
  simp [Desk.stage, kept.store, kept.tally]

theorem Kept.rules (kept : first.Kept second extra) : second.rules = first.rules := by
  obtain ⟨_, report⟩ := kept.report
  simp [Desk.rules, kept.interactive, report]

theorem Kept.traced (kept : first.Kept second extra) : first.Traced second where
  steps := kept.stage ▸ .refl
  rules := kept.rules
  log := ⟨extra, kept.log, fun entry member => ⟨first.stage, .refl, (kept.same entry member).symm⟩⟩
  failures := kept.failures ▸ List.prefix_rfl

theorem Failed.traced {faults : Faults τ} {reason : RequestError → Prop} {error : RequestError}
    (failed : first.Failed faults reason error second) : first.Traced second := by
  obtain ⟨extra, kept, _⟩ := failed
  exact kept.traced

namespace Traced

theorem refl (desk : Desk (Cabinet τ)) : desk.Traced desk := (Kept.refl desk).traced

theorem trans (traced : first.Traced second) (traced' : second.Traced third) :
    first.Traced third where
  steps := traced.steps.trans (traced.rules ▸ traced'.steps)
  rules := traced'.rules.trans traced.rules
  log := by
    obtain ⟨extra, log, reached⟩ := traced.log
    obtain ⟨later, log', reached'⟩ := traced'.log
    refine ⟨extra ++ later, by rw [log', log, List.append_assoc], fun entry member => ?_⟩
    rcases List.mem_append.mp member with early | late
    · exact reached entry early
    · obtain ⟨stage, steps, same⟩ := reached' entry late
      exact ⟨stage, traced.steps.trans (traced.rules ▸ steps), same⟩
  failures := traced.failures.trans traced'.failures

/-- A count that is a step of its own. -/
theorem tallied (step : Step first.rules first.stage ⟨first.world.store, change first.report.tally⟩) :
    first.Traced (first.tallied change) :=
  ⟨.single step, rfl, ⟨[], by simp [Desk.tallied], by simp⟩, by simp [Desk.tallied]⟩

end Traced

@[simp] theorem rules_tallied (desk : Desk (Cabinet τ)) (change : Tally → Tally) :
    (desk.tallied change).rules = desk.rules := rfl

theorem Wrote.rules (wrote : first.Wrote second method store change) :
    second.rules = first.rules := by
  simp [Desk.rules, wrote.interactive, wrote.report]

/-- A change is traced when steps from the very start lead to it. -/
theorem Wrote.traced (wrote : second.Wrote third method store change)
    (traced : first.Traced second)
    (steps : Steps first.rules first.stage ⟨store, change second.report.tally⟩) :
    first.Traced third where
  steps := by
    have stage : third.stage = ⟨store, change second.report.tally⟩ := by
      simp [Desk.stage, wrote.store, wrote.report]
    rwa [stage]
  rules := wrote.rules.trans traced.rules
  log := by
    obtain ⟨extra, log, reached⟩ := traced.log
    refine ⟨extra ++ [⟨method, false, store.contents⟩], by rw [wrote.log, log, List.append_assoc],
      fun entry member => ?_⟩
    rcases List.mem_append.mp member with early | late
    · exact reached entry early
    · rw [List.mem_singleton.mp late]
      exact ⟨_, steps, rfl⟩
  failures := by simpa [wrote.report] using traced.failures

theorem Changed.rules (changed : first.Changed second store change) :
    second.rules = first.rules := by
  obtain ⟨_, _, _, kept, wrote⟩ := changed
  rw [wrote.rules, kept.rules]

theorem Changed.traced (changed : first.Changed second store change)
    (step : Step first.rules first.stage ⟨store, change first.report.tally⟩) :
    first.Traced second := by
  obtain ⟨_, _, _, kept, wrote⟩ := changed
  exact wrote.traced kept.traced (kept.tally ▸ .single step)

end Desk

/-- Traced, if these are the rules. -/
def TracedUnder (rules : Rules) (before after : Desk (Cabinet τ)) : Prop :=
  before.rules = rules → before.Traced after

theorem link_tracedUnder (rules : Rules) :
    Desk.Link (TracedUnder rules : Desk (Cabinet τ) → Desk (Cabinet τ) → Prop) where
  refl desk _ := .refl desk
  trans before after here := (before here).trans (after ((before here).rules.trans here))
  failing desk error _ :=
    ⟨.refl, rfl, ⟨[], (List.append_nil _).symm, by simp⟩, List.prefix_append _ _⟩
  leftOff desk _ := ⟨.refl, rfl, ⟨[], (List.append_nil _).symm, by simp⟩, List.prefix_rfl⟩

theorem chain_tracedUnder (setup : Setup τ) (rules : Rules) :
    Desk.Chain setup (TracedUnder rules : Desk (Cabinet τ) → Desk (Cabinet τ) → Prop) :=
  (link_tracedUnder rules).chain (fun kept _ => kept.traced) setup

namespace Action

variable {setup : Setup τ} {desk : Desk (Cabinet τ)} {rules : Rules} {α β ι : Type}

/-- Under these rules the action is traced, whatever its result. -/
def Traces (rules : Rules) (action : Action (Cabinet τ) α) : Prop :=
  ∀ desk : Desk (Cabinet τ), desk.rules = rules → action.Meets desk fun _ after => desk.Traced after

theorem traces_iff {action : Action (Cabinet τ) α} :
    Traces rules action ↔ Links (TracedUnder rules) action :=
  ⟨fun traces desk result after ran here => traces desk here result after ran,
    fun links desk here result after ran => links desk result after ran here⟩

namespace Traces

/-- A traced action after what was traced already. -/
theorem after {first : Desk (Cabinet τ)} {action : Action (Cabinet τ) α}
    (traces : Traces desk.rules action) (traced : first.Traced desk) :
    action.Meets desk fun _ after => first.Traced after :=
  (traces desk rfl).mono fun _ _ traced' => traced.trans traced'

theorem pure (a : α) : Traces rules (Pure.pure a : Action (Cabinet τ) α) :=
  fun desk _ => .pure (.refl desk)

theorem bind {action : Action (Cabinet τ) α} {next : α → Action (Cabinet τ) β}
    (first : Traces rules action) (rest : ∀ a, Traces rules (next a)) :
    Traces rules (action >>= next) :=
  traces_iff.mpr (.bind (link_tracedUnder rules) (traces_iff.mp first) fun a => traces_iff.mp (rest a))

theorem look {action : Action (Cabinet τ) α} {answer : MemoryStore → Except RequestError α → Prop}
    (looks : ∀ store, Looks setup.faults store action (answer store)) : Traces rules action :=
  traces_iff.mpr (.look (chain_tracedUnder setup rules) looks)

theorem forM {items : List ι} {work : ι → Action (Cabinet τ) Unit}
    (each : ∀ item, Traces rules (work item)) : Traces rules (items.forM work) :=
  traces_iff.mpr (.forM (link_tracedUnder rules) fun item _ => traces_iff.mp (each item))

theorem item {work : Action (Cabinet τ) Unit} (first : Traces rules work) :
    Traces rules (Action.item setup.host.job work) :=
  traces_iff.mpr (.item (chain_tracedUnder setup rules).toJobLink (traces_iff.mp first))

theorem inLevel {total : Nat} {work : Action (Cabinet τ) Unit} (first : Traces rules work) :
    Traces rules (Action.inLevel setup.host.job total work) :=
  traces_iff.mpr (.inLevel (chain_tracedUnder setup rules).toJobLink (traces_iff.mp first))

theorem workOff {work : Path → Action (Cabinet τ) Unit} {paths : List Path}
    (each : ∀ path ∈ paths, Traces rules (work path)) :
    Traces rules (Request.workOff setup.host work paths) :=
  traces_iff.mpr (.workOff (chain_tracedUnder setup rules).toJobLink fun path member =>
    traces_iff.mp (each path member))

theorem count {change : Tally → Tally}
    (step : ∀ store tally, Step rules ⟨store, tally⟩ ⟨store, change tally⟩) :
    Traces rules (Action.count change : Action (Cabinet τ) Unit) := by
  rintro desk rfl
  exact .modify (.tallied (step _ _))

end Traces

end Action

end Filing
