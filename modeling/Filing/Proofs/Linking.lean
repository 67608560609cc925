import Filing.Proofs.Keeping

/-!
# What holds from the start of an action to its end

A relation between desks that goes from step to step and does not mind failing and leaving off
(`Desk.Link`), nor what the job is told (`Desk.JobLink`), nor looking (`Desk.Chain`), holds over a
whole action as soon as it holds over its parts.
-/
namespace Filing

variable {τ : Type}

/-- The job is told of progress, or asked whether it was cancelled. -/
inductive Job.Turns (job : Job τ) (around : τ) : τ → Prop
  | push (total : Nat) : Turns job around ((job.push total).run around).2
  | step : Turns job around (job.step.run around).2
  | pop : Turns job around (job.pop.run around).2
  | isCancelled : Turns job around (job.isCancelled.run around).2

namespace Desk

variable {σ : Type}

/-- The desk with one more failure in its report. -/
def failing (desk : Desk σ) (error : RequestError) : Desk σ :=
  { desk with report := { desk.report with failures := desk.report.failures ++ [error] } }

/-- The desk with its report saying that items were left out. -/
def leftOff (desk : Desk σ) : Desk σ := { desk with report := { desk.report with cancelled := true } }

/-- The desk with its surroundings in another state. -/
def turned (desk : Desk (Cabinet τ)) (around : τ) : Desk (Cabinet τ) :=
  { desk with world := { desk.world with around } }

structure Link (R : Desk (Cabinet τ) → Desk (Cabinet τ) → Prop) : Prop where
  refl : ∀ desk, R desk desk
  trans : ∀ {first second third}, R first second → R second third → R first third
  failing : ∀ desk error, R desk (desk.failing error)
  leftOff : ∀ desk, R desk desk.leftOff

structure JobLink (setup : Setup τ) (R : Desk (Cabinet τ) → Desk (Cabinet τ) → Prop) : Prop
    extends Link R where
  turned : ∀ {desk around}, setup.job.Turns desk.world.around around → R desk (desk.turned around)

structure Chain (setup : Setup τ) (R : Desk (Cabinet τ) → Desk (Cabinet τ) → Prop) : Prop
    extends JobLink setup R where
  glanced : ∀ {first second extra}, first.Glanced setup.faults second extra → R first second

theorem turned_kept (desk : Desk (Cabinet τ)) (around : τ) : desk.Kept (desk.turned around) [] :=
  ⟨rfl, rfl, ⟨_, rfl⟩, (List.append_nil _).symm, by simp, fun _ => ⟨rfl, rfl⟩⟩

/-- What does not mind keeping everything minds neither looking nor the job. -/
theorem Link.chain {R : Desk (Cabinet τ) → Desk (Cabinet τ) → Prop} (link : Link R)
    (kept : ∀ {first second extra}, first.Kept second extra → R first second) (setup : Setup τ) :
    Chain setup R where
  toLink := link
  glanced glanced := kept glanced.kept
  turned {desk around} _ := kept (desk.turned_kept around)

end Desk

namespace Action

variable {setup : Setup τ} {R : Desk (Cabinet τ) → Desk (Cabinet τ) → Prop} {α β ι : Type}

def Links (R : Desk (Cabinet τ) → Desk (Cabinet τ) → Prop) (action : Action (Cabinet τ) α) : Prop :=
  ∀ desk, action.Meets desk fun _ after => R desk after

namespace Links

theorem pure (link : Desk.Link R) (a : α) : Links R (Pure.pure a : Action (Cabinet τ) α) :=
  fun desk => .pure (link.refl desk)

theorem bind (link : Desk.Link R) {action : Action (Cabinet τ) α} {next : α → Action (Cabinet τ) β}
    (first : Links R action) (rest : ∀ a, Links R (next a)) : Links R (action >>= next) := by
  intro desk
  refine (first desk).bind (fun a between before => ?_) fun _ _ before => before
  exact (rest a between).mono fun _ _ after => link.trans before after

theorem look (chain : Desk.Chain setup R) {action : Action (Cabinet τ) α}
    {answer : MemoryStore → Except RequestError α → Prop}
    (looks : ∀ store, Looks setup.faults store action (answer store)) : Links R action := by
  intro desk
  refine (looks desk.world.store desk rfl).mono ?_
  rintro result after ⟨extra, glanced, _⟩
  exact chain.glanced glanced

theorem forM (link : Desk.Link R) {items : List ι} {work : ι → Action (Cabinet τ) Unit}
    (each : ∀ item ∈ items, Links R (work item)) : Links R (items.forM work) := by
  induction items with
  | nil => exact pure link ()
  | cons item later ih =>
    change Links R (work item >>= fun _ => later.forM work)
    exact .bind link (each item (by simp)) fun _ => ih fun item member => each item (by simp [member])

theorem settle (link : Desk.Link R) {action : Action (Cabinet τ) Unit} (first : Links R action) :
    Links R (Action.settle action) := by
  intro desk
  refine (first desk).settle (fun _ before => before) fun error after before => ?_
  exact link.trans before (link.failing after error)

theorem turn (link : Desk.JobLink setup R) {action : StateM τ α}
    (turns : ∀ around, setup.job.Turns around (action.run around).2) :
    Links R (Action.turn (Cabinet.aside action)) := by
  intro desk
  refine (meets_aside action).mono ?_
  rintro _ _ ⟨a, around, told, rfl, rfl⟩
  have turned := turns desk.world.around
  rw [told] at turned
  exact link.turned turned

theorem item (link : Desk.JobLink setup R) {work : Action (Cabinet τ) Unit} (first : Links R work) :
    Links R (Action.item setup.host.job work) :=
  .bind link.toLink (.settle link.toLink first) fun _ => turn link fun _ => .step

theorem inLevel (link : Desk.JobLink setup R) {total : Nat} {work : Action (Cabinet τ) Unit}
    (first : Links R work) : Links R (Action.inLevel setup.host.job total work) :=
  .bind link.toLink (turn link fun _ => .push total) fun _ =>
    .bind link.toLink first fun _ => turn link fun _ => .pop

/-- The paths are worked on in order until the job is cancelled. -/
theorem workOff (link : Desk.JobLink setup R) {work : Path → Action (Cabinet τ) Unit}
    {paths : List Path} (each : ∀ path ∈ paths, Links R (work path)) :
    Links R (Request.workOff setup.host work paths) := by
  induction paths with
  | nil => exact pure link.toLink ()
  | cons path later ih =>
    unfold Request.workOff
    refine .bind link.toLink (turn link fun _ => .isCancelled) fun cancelled => ?_
    split
    · exact fun desk => .modify (link.leftOff desk)
    · exact .bind link.toLink (.item link (each path (by simp))) fun _ =>
        ih fun path member => each path (by simp [member])

end Links

end Action

end Filing
