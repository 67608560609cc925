import Filing.Request.Run

/-!
# What an action ends in

`Meets` says what holds whenever an action ends, with a value or with an error, and `Returns` that it
ends at all, without following folders deeper than allowed. Each way of putting actions together has
one rule for either.
-/
namespace Filing.Action

variable {σ α β ι : Type} {desk : Desk σ}

/-- Whenever `action` ends, `post` holds of its result and of the desk it leaves. -/
def Meets (action : Action σ α) (desk : Desk σ)
    (post : Except RequestError α → Desk σ → Prop) : Prop :=
  ∀ result after, action desk = some (result, after) → post result after

/-- The depth allowed is enough for `action`. -/
def Returns (action : Action σ α) (desk : Desk σ) : Prop :=
  ∃ outcome, action desk = some outcome

variable {post mid : Except RequestError α → Desk σ → Prop}

theorem bind_apply (action : Action σ α) (next : α → Action σ β) (desk : Desk σ) :
    (action >>= next) desk = (action desk).bind fun outcome =>
      match outcome with
      | (.ok a, after) => next a after
      | (.error error, after) => some (.error error, after) := by
  change (action desk).bind (fun outcome =>
    (ExceptT.bindCont next outcome.1 : StateT (Desk σ) Option _) outcome.2) = _
  congr 1
  funext ⟨result, after⟩
  cases result <;> rfl

theorem settle_apply (action : Action σ Unit) (desk : Desk σ) :
    settle action desk = (action desk).bind fun outcome =>
      match outcome with
      | (.ok _, after) => some (.ok (), after)
      | (.error error, after) => some (.ok (), { after with
          report := { after.report with failures := after.report.failures ++ [error] } }) := by
  change (action desk).bind _ = _
  congr 1
  funext ⟨result, after⟩
  cases result <;> rfl

/-- A call, whatever its answer, changes nothing on the desk but the world. -/
theorem meets_call (c : Call σ α) (desk : Desk σ) :
    (call c).Meets desk fun _ after => after = { desk with world := (c.run desk.world).2 } := by
  intro result after ran
  unfold call at ran
  split at ran
  next a world went =>
    cases ran
    rw [went]
  next error world went =>
    cases ran
    rw [went]

theorem meets_told (c : StateM σ α) (desk : Desk σ) :
    (turn c).Meets desk fun result after =>
      result = .ok (c.run desk.world).1 ∧ after = { desk with world := (c.run desk.world).2 } := by
  rintro _ _ ⟨⟩
  exact ⟨rfl, rfl⟩

namespace Meets

theorem mono {action : Action σ α} (first : action.Meets desk mid)
    (weaker : ∀ result after, mid result after → post result after) : action.Meets desk post :=
  fun result after ran => weaker result after (first result after ran)

theorem and {action : Action σ α} (first : action.Meets desk mid) (second : action.Meets desk post) :
    action.Meets desk fun result after => mid result after ∧ post result after :=
  fun result after ran => ⟨first result after ran, second result after ran⟩

theorem pure {a : α} (holds : post (.ok a) desk) : Meets (Pure.pure a) desk post := by
  rintro _ _ ⟨⟩
  exact holds

theorem throw {error : RequestError} (holds : post (.error error) desk) :
    Meets (MonadExcept.throw error) desk post := by
  rintro _ _ ⟨⟩
  exact holds

theorem tooDeep : Meets Action.tooDeep desk post := by
  rintro _ _ ⟨⟩

theorem bind {action : Action σ α} {next : α → Action σ β}
    {post : Except RequestError β → Desk σ → Prop} (first : action.Meets desk mid)
    (ok : ∀ a after, mid (.ok a) after → (next a).Meets after post)
    (error : ∀ error after, mid (.error error) after → post (.error error) after) :
    (action >>= next).Meets desk post := by
  intro result after ran
  rw [bind_apply] at ran
  cases ended : action desk with
  | none => simp [ended] at ran
  | some outcome =>
    obtain ⟨between, later⟩ := outcome
    have held := first between later ended
    cases between with
    | error e =>
      simp only [ended, Option.bind_some, Option.some.injEq, Prod.mk.injEq] at ran
      obtain ⟨rfl, rfl⟩ := ran
      exact error e later held
    | ok a => exact ok a later held result after (by simpa [ended] using ran)

/-- Going through a list: the invariant speaks of the items already seen. -/
theorem forM {items : List ι} {work : ι → Action σ Unit} (inv : List ι → Desk σ → Prop)
    {post : Except RequestError Unit → Desk σ → Prop} (start : inv [] desk)
    (each : ∀ seen item later, items = seen ++ item :: later → ∀ desk, inv seen desk →
      (work item).Meets desk fun result after =>
        match result with
        | .ok _ => inv (seen ++ [item]) after
        | .error error => post (.error error) after)
    (done : ∀ after, inv items after → post (.ok ()) after) : (items.forM work).Meets desk post := by
  -- By induction on the items that are left, with the invariant of those that are done.
  have go (seen later : List ι) (split : items = seen ++ later) (desk : Desk σ)
      (held : inv seen desk) : (later.forM work).Meets desk post := by
    induction later generalizing seen desk with
    | nil =>
      rw [List.append_nil] at split
      subst split
      exact pure (done desk held)
    | cons item later ih =>
      change (work item >>= fun _ => later.forM work).Meets desk _
      refine (each seen item later split desk held).bind (fun _ after holds => ?_) fun _ _ h => h
      exact ih (seen ++ [item]) (by simp [split]) after holds
  exact go [] items rfl desk start

theorem get {next : Desk σ → Action σ α} (rest : (next desk).Meets desk post) :
    ((MonadState.get : Action σ (Desk σ)) >>= next).Meets desk post := by
  intro result after ran
  exact rest result after ran

theorem modify {change : Desk σ → Desk σ} {post : Except RequestError Unit → Desk σ → Prop}
    (holds : post (.ok ()) (change desk)) : Meets (modify change) desk post := by
  rintro _ _ ⟨⟩
  exact holds

/-- Changes the desk and goes on. -/
theorem modify_bind {change : Desk σ → Desk σ} {next : PUnit → Action σ α}
    (rest : (next ⟨⟩).Meets (change desk) post) :
    ((MonadState.modifyGet fun desk => (⟨⟩, change desk)) >>= next).Meets desk post := by
  intro result after ran
  exact rest result after ran

/-- A settled action never fails; its error is the last failure of the report. -/
theorem settle {action : Action σ Unit} {mid post : Except RequestError Unit → Desk σ → Prop}
    (first : action.Meets desk mid) (ok : ∀ after, mid (.ok ()) after → post (.ok ()) after)
    (error : ∀ error after, mid (.error error) after → post (.ok ())
      { after with
        report := { after.report with failures := after.report.failures ++ [error] } }) :
    (Action.settle action).Meets desk post := by
  intro result after ran
  rw [settle_apply] at ran
  cases ended : action desk with
  | none => simp [ended] at ran
  | some outcome =>
    obtain ⟨between, later⟩ := outcome
    have held := first between later ended
    cases between with
    | ok a =>
      simp only [ended, Option.bind_some, Option.some.injEq, Prod.mk.injEq] at ran
      obtain ⟨rfl, rfl⟩ := ran
      exact ok later held
    | error e =>
      simp only [ended, Option.bind_some, Option.some.injEq, Prod.mk.injEq] at ran
      obtain ⟨rfl, rfl⟩ := ran
      exact error e later held

end Meets

namespace Returns

theorem pure (a : α) (desk : Desk σ) : Returns (Pure.pure a) desk := ⟨_, rfl⟩

theorem throw (error : RequestError) (desk : Desk σ) :
    Returns (MonadExcept.throw error : Action σ α) desk := ⟨_, rfl⟩

theorem bind {action : Action σ α} {next : α → Action σ β} (first : action.Returns desk)
    (meets : action.Meets desk mid) (ok : ∀ a after, mid (.ok a) after → (next a).Returns after) :
    (action >>= next).Returns desk := by
  obtain ⟨⟨result, later⟩, ended⟩ := first
  have held := meets result later ended
  unfold Returns
  rw [bind_apply, ended, Option.bind_some]
  cases result with
  | error e => exact ⟨_, rfl⟩
  | ok a => exact ok a later held

theorem forM {items : List ι} {work : ι → Action σ Unit} (inv : List ι → Desk σ → Prop)
    (start : inv [] desk)
    (each : ∀ seen item later, items = seen ++ item :: later → ∀ desk, inv seen desk →
      (work item).Returns desk ∧ (work item).Meets desk fun result after =>
        match result with
        | .ok _ => inv (seen ++ [item]) after
        | .error _ => True) :
    (items.forM work).Returns desk := by
  have go (seen later : List ι) (split : items = seen ++ later) (desk : Desk σ)
      (held : inv seen desk) : (later.forM work).Returns desk := by
    induction later generalizing seen desk with
    | nil => exact pure () desk
    | cons item later ih =>
      change (work item >>= fun _ => later.forM work).Returns desk
      obtain ⟨returns, meets⟩ := each seen item later split desk held
      exact returns.bind meets fun _ after holds => ih (seen ++ [item]) (by simp [split]) after holds
  exact go [] items rfl desk start

theorem settle {action : Action σ Unit} (first : action.Returns desk) :
    (Action.settle action).Returns desk := by
  obtain ⟨⟨result, later⟩, ended⟩ := first
  unfold Returns
  rw [settle_apply, ended, Option.bind_some]
  cases result with
  | ok a => exact ⟨_, rfl⟩
  | error e => exact ⟨_, rfl⟩

end Returns

end Filing.Action
