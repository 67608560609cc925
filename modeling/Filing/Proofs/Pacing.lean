import Filing.Proofs.Nesting
import Mathlib.Algebra.Order.Field.Rat
import Mathlib.Data.List.Pairwise
import Mathlib.Tactic.FieldSimp
import Mathlib.Tactic.Linarith
import Mathlib.Tactic.Positivity
import Mathlib.Tactic.Ring

/-!
# How far a request has come

The completed part of the whole, taken as an exact fraction (`Progress.value`), is never below zero or
above one while a request is worked on, so that nothing would be lost without the display's limits.

It falls when a level is left. But the step that follows belongs to the level around, and is worth as
much as the level that was left: the value is what it was before. So from step to step, the value never
falls, and after the last path's step it is one.
-/
namespace Filing

variable {σ : Type}

namespace Progress

/-- The completed part of the whole, in exact arithmetic. -/
def value (p : Progress) : ℚ := p.fractionBy fun n => (n : ℚ)

/-- Progress that has heard these signals, too. -/
def after (p : Progress) (signals : List Job.Signal) : Progress := signals.foldl hear p

/-- The values right after each of the steps. -/
def stepValues (p : Progress) : List Job.Signal → List ℚ
  | [] => []
  | .step :: later => p.step.value :: stepValues p.step later
  | signal :: later => stepValues (p.hear signal) later

section

variable (p : Progress) (signals later : List Job.Signal)

@[simp] theorem after_nil : p.after [] = p := rfl

@[simp] theorem after_cons (signal : Job.Signal) :
    p.after (signal :: later) = (p.hear signal).after later := rfl

@[simp] theorem after_append : p.after (signals ++ later) = (p.after signals).after later :=
  List.foldl_append

theorem stepValues_append :
    p.stepValues (signals ++ later) = p.stepValues signals ++ (p.after signals).stepValues later := by
  induction signals generalizing p with
  | nil => rfl
  | cons signal signals ih =>
    cases signal with
    | step => exact congrArg (_ :: ·) (ih p.step)
    | push total => exact ih (p.push total)
    | pop => exact ih p.pop
    | check cancelled => exact ih p

end

end Progress

/-! ## What a level is worth -/

/-- How much of the whole goes into one step of the innermost of these levels. -/
def Level.worth : List Level → ℚ
  | [] => 1
  | level :: outer => worth outer / level.total

namespace Level

theorem worth_nonneg (levels : List Level) : 0 ≤ worth levels := by
  induction levels with
  | nil => exact zero_le_one
  | cons level outer ih => exact div_nonneg ih (Nat.cast_nonneg _)

theorem worth_append (inner outer : List Level) :
    worth (inner ++ outer) = worth inner * worth outer := by
  induction inner with
  | nil => exact (one_mul _).symm
  | cons level inner ih =>
    rw [List.cons_append, worth, worth, ih]
    ring

end Level

namespace Progress

open Level (worth worth_nonneg)

/-- A level inside all others adds its completed steps. If there is a level without steps anywhere, the
whole is cut short there, and there a step is worth nothing. -/
theorem sumLevels_append (levels : List Level) (level : Level) (fraction scale : ℚ) :
    sumLevels (fun n => (n : ℚ)) fraction scale (levels ++ [level]) =
      sumLevels (fun n => (n : ℚ)) fraction scale levels +
        scale * worth levels.reverse * level.completed / level.total := by
  induction levels generalizing fraction scale with
  | nil =>
    by_cases none : level.total = 0
    · simp [sumLevels, none]
    · simp [sumLevels, none, worth]
  | cons first levels ih =>
    have worth_cons : worth (first :: levels).reverse = worth levels.reverse / first.total := by
      rw [List.reverse_cons, Level.worth_append]
      simp [worth, div_eq_mul_inv]
    by_cases none : first.total = 0
    · rw [worth_cons]
      simp [sumLevels, none]
    · simp only [List.cons_append, sumLevels, if_neg none, ih, worth_cons]
      ring

theorem step_of_room {total completed : Nat} (room : completed < total) (outer : List Level) :
    step ⟨⟨total, completed⟩ :: outer⟩ = ⟨⟨total, completed + 1⟩ :: outer⟩ := by
  simp [step, Level.step, room]

@[simp] theorem value_start : start.value = 0 := by
  simp [value, fractionBy, start, sumLevels]

theorem value_cons (level : Level) (outer : List Level) :
    value ⟨level :: outer⟩ = value ⟨outer⟩ + worth outer * level.completed / level.total := by
  simp only [value, fractionBy, List.reverse_cons, sumLevels_append, List.reverse_reverse,
    Nat.cast_one, one_mul]

/-- A level that was just entered has completed nothing. -/
@[simp] theorem value_push (p : Progress) (total : Nat) : (p.push total).value = p.value := by
  simp [push, value_cons]

theorem value_nonneg (levels : List Level) : 0 ≤ value ⟨levels⟩ := by
  induction levels with
  | nil => exact value_start.ge
  | cons level outer ih =>
    have := worth_nonneg outer
    rw [value_cons]
    positivity

/-- What is left, when the level is complete, is worth a step of the level around. -/
theorem value_complete {total : Nat} (some : total ≠ 0) (outer : List Level) :
    value ⟨⟨total, total⟩ :: outer⟩ = value ⟨outer⟩ + worth outer := by
  have : (total : ℚ) ≠ 0 := Nat.cast_ne_zero.mpr some
  rw [value_cons]
  field_simp

theorem value_next (total completed : Nat) (outer : List Level) :
    value ⟨⟨total, completed + 1⟩ :: outer⟩ =
      value ⟨⟨total, completed⟩ :: outer⟩ + worth (⟨total, completed⟩ :: outer) := by
  rw [value_cons, value_cons, worth]
  push_cast
  ring

/-- A complete level counts as the step that follows it. A level without steps may count for less. -/
theorem value_complete_le (inside total completed : Nat) (outer : List Level) :
    value ⟨⟨inside, inside⟩ :: ⟨total, completed⟩ :: outer⟩ ≤
      value ⟨⟨total, completed + 1⟩ :: outer⟩ := by
  rw [value_next]
  by_cases none : inside = 0
  · rw [value_cons]
    simp [none, worth_nonneg]
  · exact (value_complete none _).le

theorem value_le_next (total completed : Nat) (outer : List Level) :
    value ⟨⟨total, completed⟩ :: outer⟩ ≤ value ⟨⟨total, completed + 1⟩ :: outer⟩ := by
  rw [value_next]
  exact le_add_of_nonneg_right (worth_nonneg _)

/-- Leaving a complete level that has steps, and making the step of the level around, changes
nothing. -/
theorem value_leave {inside : Nat} (some : inside ≠ 0) {level : Level}
    (room : level.completed < level.total) (outer : List Level) :
    ((pop ⟨⟨inside, inside⟩ :: level :: outer⟩).step).value =
      value ⟨⟨inside, inside⟩ :: level :: outer⟩ := by
  have stepped : (pop ⟨⟨inside, inside⟩ :: level :: outer⟩).step =
      ⟨⟨level.total, level.completed + 1⟩ :: outer⟩ := step_of_room room outer
  rw [stepped, value_next, value_complete some]

end Progress

/-! ## Along the signals -/

/-- Every level has at most as many steps completed as it has. -/
def Progress.Within (p : Progress) : Prop := ∀ level ∈ p.levels, level.completed ≤ level.total

/-- Only the innermost level may be complete: the others are waiting for what is inside them. -/
def Level.Upright : List Level → Prop
  | [] => True
  | level :: outer => level.completed ≤ level.total ∧ ∀ around ∈ outer, around.completed < around.total

namespace Progress

variable {p : Progress}

/-- Whatever is signalled, also without any order. -/
theorem Within.hear (within : p.Within) (signal : Job.Signal) : (p.hear signal).Within := by
  obtain ⟨levels⟩ := p
  cases signal with
  | push total => exact List.forall_mem_cons.mpr ⟨Nat.zero_le total, within⟩
  | step =>
    cases levels with
    | nil => exact within
    | cons level outer =>
      obtain ⟨here, around⟩ := List.forall_mem_cons.mp within
      refine List.forall_mem_cons.mpr ⟨?_, around⟩
      unfold Level.step
      split
      next room => exact room
      next => exact here
  | pop => exact fun level member => within level (List.mem_of_mem_tail member)
  | check cancelled => exact within

theorem Within.after (within : p.Within) (signals : List Job.Signal) : (p.after signals).Within := by
  induction signals generalizing p with
  | nil => exact within
  | cons signal later ih => exact ih (within.hear signal)

open Level (worth worth_nonneg Upright)

/-- The levels around have a step to spare, and that is room for all that is inside. -/
theorem value_add_worth_le {levels : List Level}
    (waiting : ∀ level ∈ levels, level.completed < level.total) :
    value ⟨levels⟩ + worth levels ≤ 1 := by
  induction levels with
  | nil => simp [show (⟨[]⟩ : Progress) = start from rfl, worth]
  | cons level outer ih =>
    obtain ⟨room, around⟩ := List.forall_mem_cons.mp waiting
    have step : value ⟨⟨level.total, level.completed + 1⟩ :: outer⟩ ≤
        value ⟨⟨level.total, level.total⟩ :: outer⟩ := by
      have counted : ((level.completed + 1 : ℕ) : ℚ) ≤ level.total := Nat.cast_le.mpr room
      rw [value_cons, value_cons]
      gcongr
      exact worth_nonneg outer
    calc value ⟨level :: outer⟩ + worth (level :: outer)
        = value ⟨⟨level.total, level.completed + 1⟩ :: outer⟩ := (value_next _ _ outer).symm
      _ ≤ value ⟨⟨level.total, level.total⟩ :: outer⟩ := step
      _ = value ⟨outer⟩ + worth outer := value_complete (by omega) outer
      _ ≤ 1 := ih around

theorem value_le_one {levels : List Level} (upright : Upright levels) : value ⟨levels⟩ ≤ 1 := by
  cases levels with
  | nil => exact value_start.trans_le zero_le_one
  | cons level outer =>
    obtain ⟨here, around⟩ := upright
    have most := value_add_worth_le around
    have := worth_nonneg outer
    rw [value_cons, mul_div_assoc]
    have part : (level.completed : ℚ) / level.total ≤ 1 :=
      div_le_one_of_le₀ (Nat.cast_le.mpr here) (Nat.cast_nonneg _)
    nlinarith

end Progress

/-- Signals that are well nested keep the levels upright at each moment. -/
theorem WellNested.upright {levels last : List Level} {signals earlier : List Job.Signal}
    (nested : WellNested levels signals last) (upright : Level.Upright levels)
    (part : earlier <+: signals) : Level.Upright (Progress.after ⟨levels⟩ earlier).levels := by
  induction nested generalizing earlier with
  | done levels =>
    rw [List.prefix_nil.mp part]
    exact upright
  | push room _ ih =>
    rcases List.prefix_cons_iff.mp part with rfl | ⟨earlier, rfl, rest⟩
    · exact upright
    · exact ih ⟨Nat.zero_le _, List.forall_mem_cons.mpr ⟨room, upright.2⟩⟩ rest
  | @step total completed levels _ _ room _ ih =>
    rcases List.prefix_cons_iff.mp part with rfl | ⟨earlier, rfl, rest⟩
    · exact upright
    · rw [Progress.after_cons, Progress.hear, Progress.step_of_room room]
      exact ih ⟨room, upright.2⟩ rest
  | @pop _ levels _ _ _ ih =>
    rcases List.prefix_cons_iff.mp part with rfl | ⟨earlier, rfl, rest⟩
    · exact upright
    -- A level with others inside has steps left, which is more than an innermost one needs.
    · refine ih ?_ rest
      cases levels with
      | nil => trivial
      | cons level outer =>
        obtain ⟨here, around⟩ := List.forall_mem_cons.mp upright.2
        exact ⟨here.le, around⟩
  | check _ ih =>
    rcases List.prefix_cons_iff.mp part with rfl | ⟨earlier, rfl, rest⟩
    · exact upright
    · rw [Progress.after_cons]
      exact ih upright rest

namespace Progress

/-- A level that is left is complete, and the next signal is the step of the level around it, which has
one left. -/
def LeavesComplete (p : Progress) : List Job.Signal → Prop
  | [] => True
  | .pop :: later =>
    (∃ inside level outer rest, p.levels = ⟨inside, inside⟩ :: level :: outer ∧
      level.completed < level.total ∧ later = .step :: rest) ∧ LeavesComplete p.pop later
  | signal :: later => LeavesComplete (p.hear signal) later

namespace LeavesComplete

variable {p : Progress} {signals earlier later : List Job.Signal}

theorem append (first : p.LeavesComplete signals)
    (second : (p.after signals).LeavesComplete later) : p.LeavesComplete (signals ++ later) := by
  induction signals generalizing p with
  | nil => exact second
  | cons signal signals ih =>
    cases signal with
    | push total => exact ih (p := p.push total) first second
    | step => exact ih (p := p.step) first second
    | check cancelled => exact ih (p := p) first second
    | pop =>
      obtain ⟨⟨inside, level, outer, rest, levels, room, rfl⟩, first⟩ := first
      exact ⟨⟨inside, level, outer, rest ++ later, levels, room, rfl⟩, ih first second⟩

theorem of_split (leaves : p.LeavesComplete (earlier ++ .pop :: later)) :
    ∃ inside level outer rest, p.after earlier = ⟨⟨inside, inside⟩ :: level :: outer⟩ ∧
      level.completed < level.total ∧ later = .step :: rest := by
  induction earlier generalizing p with
  | nil =>
    obtain ⟨⟨inside, level, outer, rest, levels, room, follows⟩, _⟩ := leaves
    exact ⟨inside, level, outer, rest, congrArg Progress.mk levels, room, follows⟩
  | cons signal earlier ih =>
    cases signal with
    | push total => exact ih (p := p.push total) leaves
    | step => exact ih (p := p.step) leaves
    | check cancelled => exact ih (p := p) leaves
    | pop => exact ih leaves.2

end LeavesComplete

end Progress

/-- Values that do not fall, from what they begin with to what they end with. -/
inductive Rising : ℚ → List ℚ → ℚ → Prop
  | done {first last} (le : first ≤ last) : Rising first [] last
  | cons {first next values last} (le : first ≤ next) (rest : Rising next values last) :
      Rising first (next :: values) last

namespace Rising

variable {first between last : ℚ} {values later : List ℚ}

theorem of_le (le : first ≤ between) (rest : Rising between values last) :
    Rising first values last := by
  cases rest with
  | done here => exact .done (le.trans here)
  | cons here rest => exact .cons (le.trans here) rest

theorem append (rising : Rising first values between) (rest : Rising between later last) :
    Rising first (values ++ later) last := by
  induction rising with
  | done le => exact rest.of_le le
  | cons le _ ih => exact .cons le (ih rest)

theorem pairwise (rising : Rising first values last) : (first :: values).Pairwise (· ≤ ·) := by
  induction rising with
  | done _ => exact List.pairwise_singleton _ _
  | @cons first next values _ le _ ih =>
    refine .cons ?_ ih
    intro value member
    rcases List.mem_cons.mp member with rfl | later
    · exact le
    · exact le.trans (List.rel_of_pairwise_cons ih later)

end Rising

namespace Job.Counted

variable {steps : Nat} {signals : List Job.Signal}

/-- The levels around are as before, and the innermost one has made the steps. -/
theorem after_eq (counted : Counted steps signals) (total completed : Nat) (room : completed + steps ≤ total)
    (outer : List Level) : Progress.after ⟨⟨total, completed⟩ :: outer⟩ signals =
      ⟨⟨total, completed + steps⟩ :: outer⟩ := by
  have heard := (counted.wellNested total completed room []).foldl_hear outer
  exact heard

/-- From step to step the value rises, and does not fall behind what it is before and after. -/
theorem rises (counted : Counted steps signals) (total completed : Nat)
    (room : completed + steps ≤ total) (outer : List Level) :
    Rising (Progress.value ⟨⟨total, completed⟩ :: outer⟩)
      (Progress.stepValues ⟨⟨total, completed⟩ :: outer⟩ signals)
      (Progress.value ⟨⟨total, completed + steps⟩ :: outer⟩) := by
  induction counted generalizing total completed outer with
  | done => exact .done le_rfl
  | @step steps later _ ih =>
    have rest := ih total (completed + 1) (by omega) outer
    rw [Nat.add_assoc, Nat.add_comm 1 steps] at rest
    rw [Progress.stepValues, Progress.step_of_room (by omega)]
    exact .cons (Progress.value_le_next total completed outer) rest
  | @level inside inner steps later counted _ ihInside ih =>
    have within := ihInside inside 0 (by omega) (⟨total, completed⟩ :: outer)
    have rest := ih total (completed + 1) (by omega) outer
    have complete := counted.after_eq inside 0 (by omega) (⟨total, completed⟩ :: outer)
    have entered : Progress.value ⟨⟨inside, 0⟩ :: ⟨total, completed⟩ :: outer⟩ =
        Progress.value ⟨⟨total, completed⟩ :: outer⟩ := Progress.value_push _ _
    rw [entered, Nat.zero_add] at within
    rw [Nat.zero_add] at complete
    rw [Nat.add_assoc, Nat.add_comm 1 steps] at rest
    change Rising _ (Progress.stepValues ⟨⟨inside, 0⟩ :: ⟨total, completed⟩ :: outer⟩ _) _
    rw [Progress.stepValues_append, complete]
    change Rising _ (_ ++ Progress.value (Progress.step ⟨⟨total, completed⟩ :: outer⟩) ::
      Progress.stepValues (Progress.step ⟨⟨total, completed⟩ :: outer⟩) later) _
    rw [Progress.step_of_room (by omega)]
    -- Where the level is left, the value falls, but the step that follows makes up for it.
    exact within.append (.cons (Progress.value_complete_le inside total completed outer) rest)
  | check cancelled _ ih => exact ih total completed room outer

theorem leavesComplete (counted : Counted steps signals) (total completed : Nat)
    (room : completed + steps ≤ total) (outer : List Level) :
    Progress.LeavesComplete ⟨⟨total, completed⟩ :: outer⟩ signals := by
  induction counted generalizing total completed outer with
  | done => trivial
  | step _ ih =>
    have rest := ih total (completed + 1) (by omega) outer
    rw [← Progress.step_of_room (by omega)] at rest
    exact rest
  | @level inside inner steps later counted _ ihInside ih =>
    have within := ihInside inside 0 (by omega) (⟨total, completed⟩ :: outer)
    have rest := ih total (completed + 1) (by omega) outer
    have complete := counted.after_eq inside 0 (by omega) (⟨total, completed⟩ :: outer)
    rw [Nat.zero_add] at complete
    rw [← Progress.step_of_room (by omega)] at rest
    refine Progress.LeavesComplete.append within ?_
    change (Progress.after ⟨⟨inside, 0⟩ :: ⟨total, completed⟩ :: outer⟩ inner).LeavesComplete _
    rw [complete]
    exact ⟨⟨inside, _, outer, later, rfl, show completed < total by omega, rfl⟩, rest⟩
  | check cancelled _ ih => exact ih total completed room outer

end Job.Counted

/-- What can be said of the value, from a job without levels on, as these signals reach it. -/
structure Job.Paced (signals : List Job.Signal) : Prop where
  /-- It is a part of the whole after each signal. -/
  bounds : ∀ earlier, earlier <+: signals →
    0 ≤ (Progress.start.after earlier).value ∧ (Progress.start.after earlier).value ≤ 1
  /-- From step to step it does not fall. -/
  rises : (Progress.start.stepValues signals).Pairwise (· ≤ ·)
  /-- A level that is left before the end is complete. With the step of the level around, which comes
  next, the value is again what it was, unless the level had no steps. -/
  restores : ∀ earlier later, signals = earlier ++ .pop :: later → later = [] ∨
    ∃ inside level outer rest, later = .step :: rest ∧
      Progress.start.after earlier = ⟨⟨inside, inside⟩ :: level :: outer⟩ ∧
      level.completed < level.total ∧
      (inside ≠ 0 → (Progress.start.after (earlier ++ [.pop, .step])).value =
        (Progress.start.after earlier).value)

namespace Job

theorem paced_nil : Paced [] where
  bounds earlier part := by
    rw [List.prefix_nil.mp part]
    simp
  rises := .nil
  restores earlier later split := by simp at split

/-- One level that has room for its steps, from beginning to end. -/
theorem Counted.paced {steps total : Nat} {signals : List Signal} (counted : Counted steps signals)
    (most : steps ≤ total) : Paced (.push total :: (signals ++ [.pop])) where
  bounds earlier part := by
    have nested := counted.wellNested total 0 (by omega) []
    have upright : Level.Upright [⟨total, 0⟩] := ⟨Nat.zero_le total, by simp⟩
    have bounded (levels : List Level) (upright : Level.Upright levels) :
        0 ≤ Progress.value ⟨levels⟩ ∧ Progress.value ⟨levels⟩ ≤ 1 :=
      ⟨Progress.value_nonneg levels, Progress.value_le_one upright⟩
    rcases List.prefix_cons_iff.mp part with rfl | ⟨earlier, rfl, rest⟩
    · exact bounded [] trivial
    rcases List.prefix_concat_iff.mp rest with rfl | rest
    · -- The request's own level was left last.
      have complete := counted.after_eq total 0 (by omega) []
      have left : Progress.start.after (.push total :: (signals ++ [.pop])) = ⟨[]⟩ := by
        change Progress.after ⟨[⟨total, 0⟩]⟩ (signals ++ [.pop]) = _
        rw [Progress.after_append, complete]
        rfl
      rw [left]
      exact bounded [] trivial
    · exact bounded _ (nested.upright upright rest)
  rises := by
    have rising := (counted.rises total 0 (by omega) []).pairwise
    have values : Progress.start.stepValues (.push total :: (signals ++ [.pop])) =
        Progress.stepValues ⟨[⟨total, 0⟩]⟩ signals := by
      change Progress.stepValues ⟨[⟨total, 0⟩]⟩ _ = _
      rw [Progress.stepValues_append]
      exact List.append_nil _
    rw [values]
    exact rising.of_cons
  restores earlier later split := by
    rcases List.eq_nil_or_concat later with rfl | ⟨later, last, rfl⟩
    · exact .inl rfl
    cases earlier with
    | nil => cases split
    | cons first earlier =>
      rw [List.concat_eq_append, List.cons_append] at split
      obtain ⟨rfl, tails⟩ := List.cons.inj split
      -- All but the last signal belong to what is inside the request's own level.
      have inner : signals = earlier ++ .pop :: later := by
        have same : signals ++ [.pop] = (earlier ++ .pop :: later) ++ [last] := by simpa using tails
        exact List.append_inj_left' same rfl
      have leaves := counted.leavesComplete total 0 (by omega) []
      rw [inner] at leaves
      obtain ⟨inside, level, outer, rest, reached, room, rfl⟩ := leaves.of_split
      refine .inr ⟨inside, level, outer, rest ++ [last], by simp, reached, room, fun some => ?_⟩
      have before : Progress.start.after (.push total :: earlier) =
          ⟨⟨inside, inside⟩ :: level :: outer⟩ := reached
      rw [Progress.after_append, before]
      exact Progress.value_leave some room outer

end Job

/-! ## Requests -/

namespace Host.Signals

variable {host : Host σ} {world last : σ} {signal : Job.Signal} {earlier later : List Job.Signal}

theorem uncons (told : host.Signals world (signal :: later) last) :
    ∃ between, host.Signals world [signal] between ∧ host.Signals between later last := by
  generalize same : signal :: later = signals at told
  induction told with
  | done _ => cases same
  | served serves _ ih =>
    obtain ⟨between, first, second⟩ := ih same
    exact ⟨between, .served serves first, second⟩
  | push total rest _ =>
    cases same
    exact ⟨_, .push total (.done _), rest⟩
  | step rest _ =>
    cases same
    exact ⟨_, .step (.done _), rest⟩
  | pop rest _ =>
    cases same
    exact ⟨_, .pop (.done _), rest⟩
  | check rest _ =>
    cases same
    exact ⟨_, .check (.done _), rest⟩

/-- Between any two of the signals there is a world where only those before were given. -/
theorem split (told : host.Signals world (earlier ++ later) last) :
    ∃ between, host.Signals world earlier between ∧ host.Signals between later last := by
  induction earlier generalizing world with
  | nil => exact ⟨world, .done world, told⟩
  | cons signal earlier ih =>
    obtain ⟨next, first, rest⟩ := told.uncons
    obtain ⟨between, second, rest⟩ := ih rest
    exact ⟨between, first.append second, rest⟩

end Host.Signals

namespace Order

variable {host : Host σ} {depth : Nat} {order : Order} {world after : σ}
  {result : Except RequestError Report}

/-- A request that cannot be sorted tells its job nothing. -/
theorem silent_of_error {error : RequestError}
    (ran : order.run host depth world = some (.error error, after)) :
    host.Signals world [] after := by
  have unsorted {operation : Operation} {request : Request}
      (ran : request.classifyAndRun host depth operation world = some (.error error, after)) :
      host.Signals world [] after := by
    rcases Request.work_of_classified ran with ⟨_, told, _⟩ | ⟨_, _, _, _, _, _, ⟨⟩, _⟩
    have looked : ((request.classify host).run world).2 = world ∨
        host.Serves world ((request.classify host).run world).2 := request.serves_classify world
    rw [told] at looked
    rcases looked with rfl | serves
    · exact .done _
    · exact .served serves (.done _)
  cases order with
  | plan request => exact unsorted ran
  | copy request => exact unsorted ran
  | delete paths =>
    obtain ⟨_, _, ⟨⟩⟩ := Option.bind_eq_some_iff.mp ran

/-- What a request that is worked on tells its job. -/
theorem counted_of_ran {report : Report}
    (ran : order.run host depth world = some (.ok report, after)) : ∃ signals,
    host.Signals world (.push order.paths.length :: (signals ++ [.pop])) after ∧
      Job.Counted (signals.count (.check false)) signals ∧
      signals.count (.check false) ≤ order.paths.length ∧
      (report.cancelled = false → signals.count (.check false) = order.paths.length ∧
        (signals = [] ∨ ∃ earlier, signals = earlier ++ [.step])) := by
  obtain ⟨begun, operation, mode, request, result, desk, looked, paths, worked, rfl, rfl⟩ :=
    work_of_ran ran
  rw [← paths]
  obtain ⟨signals, told, counted⟩ := Request.meets_workAll_counted _ _ _ worked
  rcases looked with rfl | serves
  · exact ⟨signals, told, counted⟩
  · exact ⟨signals, .served serves told, counted⟩

/-- Whatever is signalled to a job's progress, no level completes more steps than it has. And whatever
the store, the uniquifier and the job do and whichever calls fail, the exact value of the progress that
a request makes from an empty job is paced, and it is one after the step of the last path, unless there
is no path or the report says that the job was cancelled. -/
theorem progress_rises : (∀ signals, (Progress.start.after signals).Within) ∧
    ∀ {host : Host σ} {depth : Nat} {order : Order} {world after : σ}
      {result : Except RequestError Report},
      order.run host depth world = some (result, after) →
      ∃ signals, host.Signals world signals after ∧ Job.Paced signals ∧
        (∀ observe : σ → Progress, host.Observes observe Progress.hear → observe world = .start →
          ∀ earlier later, signals = earlier ++ later → ∃ between, host.Signals world earlier between ∧
            host.Signals between later after ∧ observe between = Progress.start.after earlier) ∧
        ∀ report, result = .ok report → order.paths ≠ [] → report.cancelled = false →
          ∃ earlier, signals = earlier ++ [.step, .pop] ∧
            (Progress.start.after (earlier ++ [.step])).value = 1 := by
  constructor
  · have within : Progress.start.Within := fun _ member => absurd member List.not_mem_nil
    exact within.after
  intro host depth order world after result ran
  -- The progress in between depends on no signals but those up to there.
  have between {signals : List Job.Signal} (told : host.Signals world signals after)
      (observe : σ → Progress) (observes : host.Observes observe Progress.hear)
      (empty : observe world = .start) (earlier later : List Job.Signal)
      (split : signals = earlier ++ later) :
      ∃ between, host.Signals world earlier between ∧
        host.Signals between later after ∧ observe between = Progress.start.after earlier := by
    subst split
    obtain ⟨between, first, second⟩ := told.split
    exact ⟨between, first, second, empty ▸ observes.eq_foldl first⟩
  cases result with
  | error error =>
    have told := silent_of_error ran
    exact ⟨[], told, Job.paced_nil, between told, by simp⟩
  | ok report =>
    obtain ⟨signals, told, counted, most, finished⟩ := counted_of_ran ran
    refine ⟨_, told, counted.paced most, between told, ?_⟩
    rintro _ ⟨⟩ paths uncancelled
    obtain ⟨all, rfl | ⟨earlier, rfl⟩⟩ := finished uncancelled
    · -- Each path has a step.
      exact absurd (List.length_eq_zero_iff.mp all.symm) paths
    have complete := counted.after_eq order.paths.length 0 (by omega) []
    refine ⟨.push order.paths.length :: earlier, by simp, ?_⟩
    have reached : Progress.start.after (.push order.paths.length :: earlier ++ [.step]) =
        ⟨[⟨order.paths.length, order.paths.length⟩]⟩ := by
      rw [all, Nat.zero_add] at complete
      exact complete
    rw [reached, Progress.value_complete (by simpa using paths)]
    exact (congrArg (· + 1) Progress.value_start).trans (zero_add 1)

end Order

namespace Sample

/-- Deletes a folder with a file in it. -/
def clearOut : Order := .delete [.ofFolder note]

end Sample

open Sample in
theorem Order.progress_rises_inbox : ∃ report after,
    clearOut.run recording.host 3 ⟨inbox, [], []⟩ = some (.ok report, after) ∧
    after.around = [.push 1, .check false, .push 2, .step, .step, .pop, .step, .pop] ∧
    Progress.start.stepValues after.around = [1 / 2, 1, 1] ∧ Job.Paced after.around ∧
    ∃ earlier, after.around = earlier ++ [.step, .pop] ∧
      (Progress.start.after (earlier ++ [.step])).value = 1 := by
  have went : ((clearOut.run recording.host 3 ⟨inbox, [], []⟩).map fun outcome =>
      (outcome.1.map Report.cancelled, outcome.2.around)) = some (.ok false,
        [.push 1, .check false, .push 2, .step, .step, .pop, .step, .pop]) := by
    decide +kernel
  obtain ⟨⟨result, after⟩, ran, found⟩ := Option.map_eq_some_iff.mp went
  obtain ⟨ok, record⟩ := Prod.mk.inj found
  cases result with
  | error error => cases ok
  | ok report =>
    obtain ⟨signals, told, paced, _, last⟩ := progress_rises.2 ran
    -- What went on record is what the request's signals are.
    have heard := recording_observes.eq_foldl told
    rw [List.foldl_append_eq_append, ← List.flatMap_def, List.flatMap_singleton'] at heard
    have same : after.around = signals := heard
    rw [← same] at paced last
    refine ⟨report, after, ran, record, ?_, paced, ?_⟩
    · rw [record]
      decide +kernel
    · exact last report rfl (by decide) (Except.ok.inj ok)

end Filing
