import Filing.Proofs.Requests

/-!
# More depth

The depth that is allowed only ever cuts an action short. Whatever ends within some depth ends in the
same way within a greater one (`Action.Deepens`).

## Main results

* `Request.classifyAndRun_deeper`: a request that ends within some depth ends alike within a greater
  one.
* `Request.classifyAndRun_unique`: so it cannot end in two ways.
-/
namespace Filing

variable {σ α β ι : Type} {host : Host σ}

namespace Action

/-- Whatever `shallow` ends in, `deep` ends in. -/
def Deepens (shallow deep : Action σ α) : Prop :=
  ∀ desk outcome, shallow desk = some outcome → deep desk = some outcome

namespace Deepens

theorem refl (action : Action σ α) : Deepens action action := fun _ _ ended => ended

theorem tooDeep (deep : Action σ α) : Deepens Action.tooDeep deep := by
  rintro _ _ ⟨⟩

theorem bind {shallow deep : Action σ α} {next further : α → Action σ β}
    (first : Deepens shallow deep) (rest : ∀ a, Deepens (next a) (further a)) :
    Deepens (shallow >>= next) (deep >>= further) := by
  intro desk outcome ended
  rw [bind_apply, Option.bind_eq_some_iff] at ended
  obtain ⟨⟨result, after⟩, ran, ended⟩ := ended
  rw [bind_apply, first desk _ ran, Option.bind_some]
  cases result with
  | ok a => exact rest a after outcome ended
  | error _ => exact ended

/-- Both begin alike. -/
theorem after (action : Action σ α) {next further : α → Action σ β}
    (rest : ∀ a, Deepens (next a) (further a)) : Deepens (action >>= next) (action >>= further) :=
  (refl action).bind rest

/-- Nothing follows a failure. -/
theorem throw (error : RequestError) (next further : α → Action σ β) :
    Deepens (MonadExcept.throw error >>= next) (MonadExcept.throw error >>= further) := by
  rintro _ _ ⟨⟩
  rfl

theorem settle {shallow deep : Action σ Unit} (work : Deepens shallow deep) :
    Deepens (Action.settle shallow) (Action.settle deep) := by
  intro desk outcome ended
  rw [settle_apply, Option.bind_eq_some_iff] at ended
  obtain ⟨between, ran, ended⟩ := ended
  rw [settle_apply, work desk between ran]
  exact ended

theorem item {job : Job σ} {shallow deep : Action σ Unit} (work : Deepens shallow deep) :
    Deepens (Action.item job shallow) (Action.item job deep) :=
  work.settle.bind fun _ => refl _

theorem inLevel {job : Job σ} {total : Nat} {shallow deep : Action σ Unit}
    (work : Deepens shallow deep) :
    Deepens (Action.inLevel job total shallow) (Action.inLevel job total deep) :=
  after _ fun _ => work.bind fun _ => refl _

theorem forM {items : List ι} {shallow deep : ι → Action σ Unit}
    (each : ∀ item, Deepens (shallow item) (deep item)) :
    Deepens (items.forM shallow) (items.forM deep) := by
  induction items with
  | nil => exact refl _
  | cons item later ih => exact (each item).bind fun _ => ih

theorem place {place : Option EntityId} {shallow deep : EntityId → Listing → Action σ Unit}
    (each : ∀ parent folder, Deepens (shallow parent folder) (deep parent folder)) :
    Deepens (place.forM fun parent => requireFolder host parent (shallow parent))
      (place.forM fun parent => requireFolder host parent (deep parent)) := by
  cases place with
  | none => exact refl _
  | some parent =>
    apply after
    intro found
    cases found with
    | none => exact refl _
    | some folder => exact each parent folder

end Deepens

open Deepens (refl after)

variable {shallow deep : Nat} (deeper : shallow ≤ deep)
include deeper

theorem deepens_climbs (ancestor : EntityId) (seen : List EntityId) (current : EntityId) :
    Deepens (climbs host ancestor seen current shallow) (climbs host ancestor seen current deep) := by
  -- On the smaller depth. Where it is used up, nothing has ended.
  induction shallow generalizing deep seen current with
  | zero => exact .tooDeep _
  | succ shallow ih =>
    cases deep with
    | zero => exact absurd deeper (Nat.not_succ_le_zero _)
    | succ deep =>
      unfold climbs
      split
      · exact refl _
      split
      · exact refl _
      apply after
      intro found
      rcases found with _ | ⟨⟨_, _, _ | parent⟩, _, _⟩
      · exact refl _
      · exact refl _
      · exact ih (Nat.le_of_succ_le_succ deeper) _ parent

theorem deepens_isDescendantOrSelf (candidate ancestor : EntityId) :
    Deepens (isDescendantOrSelf host shallow candidate ancestor)
      (isDescendantOrSelf host deep candidate ancestor) :=
  deepens_climbs deeper ancestor [] candidate

omit deeper in
theorem deepens_mergeFolder {move further : EntityId → EntityId → Action σ Unit}
    (each : ∀ id target, Deepens (move id target) (further id target)) (source : Listing)
    (target : EntityId) :
    Deepens (mergeFolder host move source target) (mergeFolder host further source target) := by
  apply after
  intro _
  refine .inLevel (.bind (.forM fun child => ?_) fun _ => refl _)
  exact (each child target).item

theorem deepens_moveFolder (id target : EntityId) :
    Deepens (moveFolder host shallow id target) (moveFolder host deep id target) := by
  induction shallow generalizing deep id target with
  | zero => exact .tooDeep _
  | succ shallow ih =>
    cases deep with
    | zero => exact absurd deeper (Nat.not_succ_le_zero _)
    | succ deep =>
      unfold moveFolder
      -- The depth matters on the way up and for the children. All that lies between is the same for
      -- both.
      refine (deepens_isDescendantOrSelf deeper target id).bind fun under => ?_
      split
      · exact .throw _ _ _
      refine after _ fun found => ?_
      cases found with
      | none => exact refl _
      | some folder =>
        dsimp only
        split
        · exact refl _
        refine after _ fun _ => after _ fun opened => ?_
        cases opened with
        | none => exact refl _
        | some destination =>
          refine after _ fun clash => ?_
          cases clash with
          | none => exact refl _
          | some existing =>
            exact deepens_mergeFolder (ih (Nat.le_of_succ_le_succ deeper)) folder existing

omit deeper in
theorem deepens_copyChildren {copy further : EntityId → EntityId → Action σ Unit}
    (each : ∀ id target, Deepens (copy id target) (further id target)) (source : Listing)
    (target : EntityId) :
    Deepens (copyChildren host copy source target) (copyChildren host further source target) := by
  refine .inLevel (.bind (.forM fun child => ?_) fun _ => refl _)
  exact (each child target).item

theorem deepens_copyFolder (id target : EntityId) :
    Deepens (copyFolder host shallow id target) (copyFolder host deep id target) := by
  induction shallow generalizing deep id target with
  | zero => exact .tooDeep _
  | succ shallow ih =>
    cases deep with
    | zero => exact absurd deeper (Nat.not_succ_le_zero _)
    | succ deep =>
      unfold copyFolder
      -- As for a move, the depth matters on the way up and for the children.
      refine (deepens_isDescendantOrSelf deeper target id).bind fun under => ?_
      split
      · exact .throw _ _ _
      refine after _ fun found => ?_
      cases found with
      | none => exact refl _
      | some folder =>
        dsimp only
        split
        · exact refl _
        refine after _ fun opened => ?_
        cases opened with
        | none => exact refl _
        | some destination =>
          refine after _ fun copy => ?_
          exact deepens_copyChildren (ih (Nat.le_of_succ_le_succ deeper)) folder copy

theorem deepens_copyFolderAs (id : EntityId) (target : Option EntityId) (desired : EntityId) :
    Deepens (copyFolderAs host shallow id target desired) (copyFolderAs host deep id target desired) := by
  refine after _ fun found => ?_
  cases found with
  | none => exact refl _
  | some folder =>
    refine .bind (.place fun parent destination => ?_) fun _ => after _ fun copy => ?_
    · exact (deepens_isDescendantOrSelf deeper parent id).bind fun _ => refl _
    · exact deepens_copyChildren (deepens_copyFolder deeper) folder copy

theorem deepens_renameFolder (id : EntityId) (target : Option EntityId) (desired : EntityId) :
    Deepens (renameFolder host shallow id target desired) (renameFolder host deep id target desired) := by
  refine after _ fun found => ?_
  cases found with
  | none => exact refl _
  | some folder =>
    refine after _ fun _ => ?_
    dsimp only
    split
    · refine .bind (.place fun parent destination => ?_) fun _ => refl _
      exact (deepens_isDescendantOrSelf deeper parent id).bind fun _ => refl _
    · exact refl _

theorem deepens_deleteFolder (id : EntityId) :
    Deepens (deleteFolder host shallow id) (deleteFolder host deep id) := by
  induction shallow generalizing deep id with
  | zero => exact .tooDeep _
  | succ shallow ih =>
    cases deep with
    | zero => exact absurd deeper (Nat.not_succ_le_zero _)
    | succ deep =>
      unfold deleteFolder
      refine after _ fun found => ?_
      cases found with
      | none => exact refl _
      | some folder =>
        refine after _ fun _ => .inLevel (.bind (.forM fun child => ?_) fun _ => refl _)
        exact (ih (Nat.le_of_succ_le_succ deeper) child).item

end Action

namespace Request

open Filing.Action

variable {shallow deep : Nat} (deeper : shallow ≤ deep)
include deeper

theorem deepens_workOn (operation : Operation) (mode : Mode) (destination path : Path) :
    Deepens (workOn host shallow operation mode destination path)
      (workOn host deep operation mode destination path) := by
  obtain ⟨source, file⟩ := path
  unfold workOn
  -- Only folders are followed to any depth.
  cases file with
  | some file => split <;> exact .refl _
  | none =>
    cases source with
    | none => split <;> exact .refl _
    | some folder =>
      split
      · exact deepens_deleteFolder deeper folder
      · exact deepens_moveFolder deeper folder _
      · exact deepens_copyFolder deeper folder _
      · exact deepens_renameFolder deeper folder _ _
      · exact deepens_copyFolderAs deeper folder _ _
      · exact .refl _

omit deeper in
theorem deepens_workOff {work further : Path → Action σ Unit}
    (each : ∀ path, Deepens (work path) (further path)) (paths : List Path) :
    Deepens (workOff host work paths) (workOff host further paths) := by
  induction paths with
  | nil => exact .refl _
  | cons path later ih =>
    unfold workOff
    refine .after _ fun cancelled => ?_
    split
    · exact .refl _
    · exact (each path).item.bind fun _ => ih

theorem deepens_workAll (operation : Operation) (mode : Mode) (request : Request) :
    Deepens (workAll host shallow operation mode request) (workAll host deep operation mode request) :=
  .inLevel (deepens_workOff (deepens_workOn deeper operation mode request.destination) request.paths)

/-- A request that ends within some depth ends alike within a greater one. -/
theorem classifyAndRun_deeper {operation : Operation} {request : Request} {world after : σ}
    {result : Except RequestError Report}
    (ran : request.classifyAndRun host shallow operation world = some (result, after)) :
    request.classifyAndRun host deep operation world = some (result, after) := by
  unfold classifyAndRun at ran ⊢
  -- Sorting a request takes no depth.
  cases sorted : (request.classify host).run world with
  | mk told between =>
    rw [sorted] at ran
    cases told with
    | error error => exact ran
    | ok mode =>
      obtain ⟨⟨report, last⟩, worked, same⟩ := Option.bind_eq_some_iff.mp ran
      rw [run_eq, Option.map_eq_some_iff] at worked
      obtain ⟨outcome, worked, told⟩ := worked
      refine Option.bind_eq_some_iff.mpr ⟨(report, last), ?_, same⟩
      rw [run_eq, deepens_workAll deeper operation mode request _ outcome worked]
      exact congrArg some told

omit deeper in
/-- How deep folders may be followed decides whether a request ends, but not in what. -/
theorem classifyAndRun_unique {operation : Operation} {request : Request} {world : σ}
    {outcome outcome' : Except RequestError Report × σ}
    (ran : request.classifyAndRun host shallow operation world = some outcome)
    (ran' : request.classifyAndRun host deep operation world = some outcome') :
    outcome = outcome' := by
  apply Option.some.inj
  rcases Nat.le_total shallow deep with deeper | deeper
  · exact (classifyAndRun_deeper deeper ran).symm.trans ran'
  · exact ran.symm.trans (classifyAndRun_deeper deeper ran')

end Request

end Filing
