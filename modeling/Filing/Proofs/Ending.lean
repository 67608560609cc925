import Filing.Proofs.Keeping

/-!
# Actions that come to an end

`Ends` puts together that an action ends at all and what holds then. What is needed to get that far
is mostly a depth that suffices, which has to be known of every desk on the way; so an invariant is
carried through the same rules as the end itself.
-/
namespace Filing.Action

variable {τ α β ι : Type} {setup : Setup τ} {desk : Desk (Cabinet τ)}

/-- The action ends, and `post` holds of its result and of the desk it leaves. -/
def Ends (action : Action (Cabinet τ) α) (desk : Desk (Cabinet τ))
    (post : Except RequestError α → Desk (Cabinet τ) → Prop) : Prop :=
  action.Returns desk ∧ action.Meets desk post

namespace Returns

/-- What follows ends wherever it starts. -/
theorem andThen {action : Action (Cabinet τ) α} {next : α → Action (Cabinet τ) β}
    (first : action.Returns desk) (rest : ∀ a after, (next a).Returns after) :
    (action >>= next).Returns desk :=
  first.bind (fun _ _ _ => trivial : action.Meets desk fun _ _ => True) fun a after _ => rest a after

theorem call (c : Call (Cabinet τ) α) (desk : Desk (Cabinet τ)) : (Action.call c).Returns desk := by
  unfold Returns Action.call
  cases c.run desk.world with
  | mk result world =>
    cases result with
    | ok _ => exact ⟨_, rfl⟩
    | error _ => exact ⟨_, rfl⟩

theorem count (change : Tally → Tally) (desk : Desk (Cabinet τ)) :
    (Action.count change).Returns desk := ⟨_, rfl⟩

theorem require (permission : Permission) (id : EntityId) (desk : Desk (Cabinet τ)) :
    (Action.require setup.host permission id).Returns desk := by
  have decided (allowed : Bool) (desk : Desk (Cabinet τ)) :
      Returns (if allowed = true then Pure.pure () else
        MonadExcept.throw (.permissionDenied permission id) : Action (Cabinet τ) Unit) desk := by
    cases allowed with
    | true => exact .pure () desk
    | false => exact .throw _ desk
  cases permission with
  | edit => exact (call _ desk).andThen decided
  | delete => exact (call _ desk).andThen decided

end Returns

namespace Ends

variable {post mid : Except RequestError α → Desk (Cabinet τ) → Prop}
  {post' : Except RequestError β → Desk (Cabinet τ) → Prop}

theorem mono {action : Action (Cabinet τ) α} (ends : action.Ends desk mid)
    (weaker : ∀ result after, mid result after → post result after) : action.Ends desk post :=
  ⟨ends.1, ends.2.mono weaker⟩

theorem outcome {action : Action (Cabinet τ) α} (ends : action.Ends desk post) :
    ∃ result after, action desk = some (result, after) ∧ post result after := by
  obtain ⟨⟨⟨result, after⟩, ran⟩, meets⟩ := ends
  exact ⟨result, after, ran, meets result after ran⟩

theorem pure {a : α} (holds : post (.ok a) desk) : Ends (Pure.pure a) desk post :=
  ⟨.pure a desk, .pure holds⟩

theorem bind {action : Action (Cabinet τ) α} {next : α → Action (Cabinet τ) β}
    (first : action.Ends desk mid) (ok : ∀ a after, mid (.ok a) after → (next a).Ends after post')
    (error : ∀ error after, mid (.error error) after → post' (.error error) after) :
    (action >>= next).Ends desk post' :=
  ⟨first.1.bind first.2 fun a after held => (ok a after held).1,
    first.2.bind (fun a after held => (ok a after held).2) error⟩

theorem forM {items : List ι} {work : ι → Action (Cabinet τ) Unit}
    (inv : List ι → Desk (Cabinet τ) → Prop)
    {post : Except RequestError Unit → Desk (Cabinet τ) → Prop} (start : inv [] desk)
    (each : ∀ seen item later, items = seen ++ item :: later → ∀ desk, inv seen desk →
      (work item).Ends desk fun result after =>
        match result with
        | .ok _ => inv (seen ++ [item]) after
        | .error error => post (.error error) after)
    (done : ∀ after, inv items after → post (.ok ()) after) : (items.forM work).Ends desk post := by
  constructor
  · refine .forM inv start fun seen item later split desk held => ?_
    obtain ⟨returns, meets⟩ := each seen item later split desk held
    refine ⟨returns, meets.mono fun result after ended => ?_⟩
    cases result with
    | ok _ => exact ended
    | error _ => trivial
  · exact .forM inv start (fun seen item later split desk held =>
      (each seen item later split desk held).2) done

theorem turn (action : StateM τ α) : (Action.turn (Cabinet.aside action)).Ends desk fun result after =>
    (∃ a, result = .ok a) ∧ desk.Looked after [] :=
  ⟨⟨_, rfl⟩, meets_turn action⟩

/-- Looks and goes on with the answer. -/
theorem look {first : Desk (Cabinet τ)} {extra : List Entry} {reason : RequestError → Prop}
    {action : Action (Cabinet τ) α} {next : α → Action (Cabinet τ) β}
    {answer : Except RequestError α → Prop} (kept : first.Kept desk extra)
    (returns : action.Returns desk) (looks : Looks setup.faults first.world.store action answer)
    (error : ∀ error after, first.Failed setup.faults reason error after → post' (.error error) after)
    (reasons : ∀ error, answer (.error error) → reason error)
    (ok : ∀ a after extra, first.Kept after extra → answer (.ok a) → (next a).Ends after post') :
    (action >>= next).Ends desk post' := by
  refine bind ⟨returns, looks desk kept.store⟩ ?_ ?_
  · rintro a after ⟨later, looked, ended⟩
    exact ok a after _ (kept.trans looked.kept) (by simpa using ended)
  · rintro e after ⟨later, looked, ended⟩
    refine error e after ⟨_, kept.trans looked.kept, ?_⟩
    rcases ended with answered | ⟨_, ⟨⟩, faulted⟩
    · exact .inl (reasons e answered)
    · exact .inr (faulted.later extra)

/-- Looks a folder up and goes on, whether or not there is one. -/
theorem lookFolder {first : Desk (Cabinet τ)} {extra : List Entry} {reason : RequestError → Prop}
    {id : EntityId} {next : Option Listing → Action (Cabinet τ) β} (kept : first.Kept desk extra)
    (error : ∀ error after, first.Failed setup.faults reason error after → post' (.error error) after)
    (missing : ∀ after extra, first.Kept after extra →
      first.world.store.contents.folder? id = none → (next none).Ends after post')
    (found : ∀ listing after extra, first.Kept after extra →
      first.world.store.contents.listing? id = some listing → (next (some listing)).Ends after post') :
    (call (setup.host.store.folder id) >>= next).Ends desk post' := by
  refine .look kept (.call _ desk) (looks_folder setup _ id) error (by rintro _ ⟨⟩) ?_
  rintro _ after extra kept ⟨⟩
  cases listed : first.world.store.contents.listing? id with
  | none => exact missing after extra kept (Contents.listing?_eq_none_iff.mp listed)
  | some listing => exact found listing after extra kept listed

/-- Asks for a permission and goes on. -/
theorem require {first : Desk (Cabinet τ)} {extra : List Entry} {reason : RequestError → Prop}
    {permission : Permission} {id : EntityId} {next : PUnit → Action (Cabinet τ) β}
    (kept : first.Kept desk extra)
    (error : ∀ error after, first.Failed setup.faults reason error after → post' (.error error) after)
    (reasons : ∀ error, Refused first.world.store error → reason error)
    (ok : ∀ after extra, first.Kept after extra →
      first.world.store.allows permission id = true → (next ⟨⟩).Ends after post') :
    (Action.require setup.host permission id >>= next).Ends desk post' := by
  refine bind ⟨.require permission id desk, meets_require kept permission id⟩ ?_ ?_
  · rintro _ after ⟨allowed, extra, kept⟩
    exact ok after extra kept allowed
  · exact fun e after failed => error e after (failed.mono fun e denied => reasons e ⟨_, _, denied⟩)

/-- An item ends well in any case: its failure is settled. -/
theorem item {work : Action (Cabinet τ) Unit} {mid post : Except RequestError Unit →
      Desk (Cabinet τ) → Prop} (first : work.Ends desk mid)
    (ok : ∀ between after, mid (.ok ()) between → between.Looked after [] → post (.ok ()) after)
    (error : ∀ error between after, mid (.error error) between →
      Desk.Looked { between with
        report := { between.report with failures := between.report.failures ++ [error] } } after [] →
      post (.ok ()) after) :
    (Action.item setup.host.job work).Ends desk post := by
  have settled : (Action.settle work).Ends desk fun result settled => result = .ok () ∧
      ∀ after, settled.Looked after [] → post (.ok ()) after :=
    ⟨first.1.settle, first.2.settle (fun after held => ⟨rfl, fun later => ok after later held⟩)
      fun e after held => ⟨rfl, fun later => error e after later held⟩⟩
  refine settled.bind ?_ (by rintro _ _ ⟨⟨⟩, _⟩)
  rintro _ between ⟨_, holds⟩
  refine (turn setup.job.step).mono ?_
  rintro _ after ⟨⟨_, rfl⟩, looked⟩
  exact holds after looked

theorem inLevel {total : Nat} {work : Action (Cabinet τ) Unit} {mid post : Except RequestError Unit →
      Desk (Cabinet τ) → Prop}
    (inside : ∀ pushed, desk.Looked pushed [] → work.Ends pushed mid)
    (ok : ∀ between after, mid (.ok ()) between → between.Looked after [] → post (.ok ()) after)
    (error : ∀ error after, mid (.error error) after → post (.error error) after) :
    (Action.inLevel setup.host.job total work).Ends desk post := by
  refine (turn (setup.job.push total)).bind ?_ (by rintro _ _ ⟨⟨_, ⟨⟩⟩, _⟩)
  rintro _ pushed ⟨_, looked⟩
  refine (inside pushed looked).bind (fun _ between held => ?_) error
  refine (turn setup.job.pop).mono ?_
  rintro _ after ⟨⟨_, rfl⟩, looked⟩
  exact ok between after held looked

end Ends

end Filing.Action
