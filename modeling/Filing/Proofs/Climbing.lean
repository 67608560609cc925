import Filing.Proofs.Circling

/-!
# Going up

Nothing keeps a store from holding folders whose parents are missing or lead round in a circle. The way
up from a folder looks up no folder twice, and only the last one it comes to may be missing
(`Action.meets_climbs_reads`). So it is always found out whether one folder lies below another, and a
folder that is to be moved or copied into itself, or to somewhere below itself, is refused before
anything else is looked at (`Action.RefusesCycle`).

## Main results

* `Action.climbs_exactly`: how far going up gets, what it answers, and what is refused for that.
-/
namespace Filing.Action

open Relation (TransGen)

variable {τ α β ι : Type} {setup : Setup τ} {desk : Desk (Cabinet τ)} {id target : EntityId}

/-! ## What is read on the way up -/

/-- A look is one call, whatever it answers. -/
theorem meets_read (method : Scenario.Method) (id : EntityId) (view : MemoryStore → α) :
    (call (Cabinet.attempt setup.faults method id (Call.read view))).Meets desk fun result after =>
      after.world.store = desk.world.store ∧
      (∃ failed, after.world.log =
        desk.world.log ++ [⟨method, failed, desk.world.store.contents⟩]) ∧
      ∀ answer, result = .ok answer → answer = view desk.world.store := by
  intro result after ran
  cases decided : setup.faults method id desk.world.around with
  | mk fault around =>
    have went : (Cabinet.attempt setup.faults method id (Call.read view)).run desk.world =
        Cabinet.attempt setup.faults method id (Call.read view) desk.world := rfl
    simp only [call, went, Cabinet.attempt, decided] at ran
    cases fault with
    | some error =>
      cases ran
      exact ⟨rfl, ⟨true, rfl⟩, by rintro _ ⟨⟩⟩
    | none =>
      cases ran
      exact ⟨rfl, ⟨false, rfl⟩, by rintro _ ⟨⟩; rfl⟩

/-- Only folders that were not seen before are looked up, and at last perhaps one that is missing. -/
theorem meets_climbs_reads (ancestor : EntityId) (seen : List EntityId) (depth : Nat)
    (current : EntityId) :
    (climbs setup.host ancestor seen current depth).Meets desk fun _ after =>
      ∃ extra, after.world.log = desk.world.log ++ extra ∧
        (∀ entry ∈ extra, entry.method = .folder) ∧
        extra.length ≤ (desk.world.store.contents.folders \ {x | x ∈ seen}).ncard + 1 := by
  have nothing (desk : Desk (Cabinet τ)) (most : Nat) : ∃ extra,
      desk.world.log = desk.world.log ++ extra ∧ (∀ entry ∈ extra, entry.method = .folder) ∧
        extra.length ≤ most + 1 :=
    ⟨[], by simp, by simp, by simp⟩
  induction depth generalizing desk seen current with
  | zero => exact .tooDeep
  | succ depth ih =>
    unfold climbs
    split
    · exact .pure (nothing desk _)
    split
    · exact .pure (nothing desk _)
    next fresh =>
      -- Whatever the call for this folder comes to, it may be the last one.
      have once (failed : Bool) : ∃ extra, desk.world.log ++
          [⟨.folder, failed, desk.world.store.contents⟩] = desk.world.log ++ extra ∧
          (∀ entry ∈ extra, entry.method = .folder) ∧
          extra.length ≤ (desk.world.store.contents.folders \ {x | x ∈ seen}).ncard + 1 :=
        ⟨_, rfl, by simp, by simp⟩
      refine (meets_read .folder current fun s => s.contents.listing? current).bind ?_ ?_
      · rintro found after ⟨store, ⟨failed, log⟩, told⟩
        rw [told found rfl]
        cases stored : desk.world.store.contents.folder? current with
        | none =>
          simp only [Contents.listing?, stored, Option.map_none]
          exact .pure (log ▸ once failed)
        | some folder =>
          obtain ⟨_, _, up⟩ := folder
          simp only [Contents.listing?, stored, Option.map_some]
          cases up with
          | none => exact .pure (log ▸ once failed)
          | some parent =>
            -- This folder is among those that were seen from now on, which makes up for the call.
            refine (ih (current :: seen) parent).mono ?_
            rintro _ last ⟨extra, log', folders, few⟩
            refine ⟨⟨.folder, failed, desk.world.store.contents⟩ :: extra, ?_, ?_, ?_⟩
            · rw [log', log, List.append_assoc]
              rfl
            · simpa using folders
            · have fewer := Contents.ncard_unseen_lt ⟨_, stored⟩ fresh
              rw [store] at few
              simp only [List.length_cons]
              omega
      · rintro _ after ⟨_, ⟨failed, log⟩, _⟩
        exact log ▸ once failed

/-- The way up always ends, and where it has led is known then. -/
theorem climbed (reliable : setup.Reliable) (desk : Desk (Cabinet τ)) (id above : EntityId) :
    ∃ answer after extra, (∀ depth, desk.world.store.contents.folders.ncard < depth →
        isDescendantOrSelf setup.host depth id above desk = some (.ok answer, after)) ∧
      desk.Glanced setup.faults after extra ∧ (∀ entry ∈ extra, entry.method = .folder) ∧
      extra.length ≤ desk.world.store.contents.folders.ncard + 1 ∧
      (answer = true ↔ desk.world.store.contents.Below id above) := by
  have enough := Nat.lt_succ_self desk.world.store.contents.folders.ncard
  have returns : (isDescendantOrSelf setup.host _ id above).Returns desk :=
    returns_isDescendantOrSelf _ id above enough
  obtain ⟨⟨result, after⟩, ran⟩ := returns
  obtain ⟨extra, glanced, ended⟩ :=
    looks_isDescendantOrSelf setup _ _ id above desk rfl result after ran
  obtain ⟨_, log, folders, few⟩ := meets_climbs_reads above [] _ id result after ran
  cases List.append_cancel_left (glanced.log.symm.trans log)
  rcases ended with ⟨answer, rfl, exact⟩ | ⟨_, _, faulted⟩
  · refine ⟨answer, after, extra, fun depth deep => ?_, glanced, folders, by simpa using few, exact⟩
    exact deepens_isDescendantOrSelf deep id above desk _ ran
  · exact absurd faulted.canFail reliable

/-! ## Refusing -/

/-- The action never fails because a folder would end up inside itself. -/
def NoCycle (action : Action (Cabinet τ) α) : Prop :=
  ∀ desk, action.Meets desk fun result _ => ∀ folder, result ≠ .error (.cycle folder)

namespace NoCycle

theorem pure (a : α) : NoCycle (Pure.pure a : Action (Cabinet τ) α) :=
  fun _ => .pure (by simp)

theorem throw {error : RequestError} (other : ∀ folder, error ≠ .cycle folder) :
    NoCycle (MonadExcept.throw error : Action (Cabinet τ) α) :=
  fun _ => .throw (by simpa using other)

theorem bind {action : Action (Cabinet τ) α} {next : α → Action (Cabinet τ) β}
    (first : NoCycle action) (rest : ∀ a, NoCycle (next a)) : NoCycle (action >>= next) := by
  intro desk
  refine (first desk).bind (fun a after _ => rest a after) fun error _ other => ?_
  simpa using other

/-- A store has no such error. -/
theorem call (c : Call (Cabinet τ) α) : NoCycle (Action.call c) := by
  intro desk result after ran
  unfold Action.call at ran
  split at ran
  · cases ran
    simp
  · cases ran
    simp

theorem turn (action : StateM (Cabinet τ) α) : NoCycle (Action.turn action) := by
  intro desk
  refine (meets_told action desk).mono ?_
  rintro _ _ ⟨rfl, _⟩
  simp

theorem count (change : Tally → Tally) : NoCycle (Action.count change : Action (Cabinet τ) Unit) :=
  fun _ => .modify (by simp)

theorem forM {items : List ι} {work : ι → Action (Cabinet τ) Unit}
    (each : ∀ item, NoCycle (work item)) : NoCycle (items.forM work) := by
  induction items with
  | nil => exact pure ()
  | cons item later ih => exact (each item).bind fun _ => ih

/-- The failure of an item goes into the report. -/
theorem item (job : Job (Cabinet τ)) (work : Action (Cabinet τ) Unit) :
    NoCycle (Action.item job work) := by
  intro desk
  refine (Request.meets_item job work desk).mono ?_
  rintro _ _ rfl
  simp

theorem inLevel {job : Job (Cabinet τ)} {total : Nat} {work : Action (Cabinet τ) Unit}
    (inside : NoCycle work) : NoCycle (Action.inLevel job total work) :=
  (turn _).bind fun _ => inside.bind fun _ => turn _

theorem require (permission : Permission) (id : EntityId) :
    NoCycle (Action.require setup.host permission id) := by
  have decided (allowed : Bool) : NoCycle (if allowed = true then Pure.pure () else
      MonadExcept.throw (.permissionDenied permission id) : Action (Cabinet τ) Unit) := by
    split
    · exact pure ()
    · exact throw (by simp)
  cases permission with
  | edit => exact (call _).bind decided
  | delete => exact (call _).bind decided

theorem childFolderNamed (parent : Listing) (name : String) (except : Option EntityId) :
    NoCycle (Action.childFolderNamed setup.host parent name except) := by
  unfold Action.childFolderNamed
  induction parent.childFolders.filter (some · ≠ except) with
  | nil => exact pure none
  | cons child later ih =>
    refine (call _).bind fun found => ?_
    split
    · split
      · exact pure _
      · exact ih
    · exact ih

theorem mergeFolder (move : EntityId → EntityId → Action (Cabinet τ) Unit) (source : Listing)
    (target : EntityId) : NoCycle (Action.mergeFolder setup.host move source target) := by
  refine (count _).bind fun _ => .inLevel ?_
  refine (forM fun _ => item _ _).bind fun _ => ?_
  exact (forM fun _ => item _ _).bind fun _ => item _ _

theorem copyChildren (copy : EntityId → EntityId → Action (Cabinet τ) Unit) (source : Listing)
    (target : EntityId) : NoCycle (Action.copyChildren setup.host copy source target) :=
  .inLevel ((forM fun _ => item _ _).bind fun _ => forM fun _ => item _ _)

theorem copyTarget (folder : Listing) (id target : EntityId) (destination : Listing) :
    NoCycle (Action.copyTarget setup.host folder id target destination) := by
  refine (childFolderNamed destination folder.name none).bind fun clash => ?_
  split
  · exact (count _).bind fun _ => pure _
  · refine (call _).bind fun copy => (require .edit copy).bind fun _ => ?_
    exact (call _).bind fun _ => (count _).bind fun _ => pure copy

end NoCycle

/-- The action is refused because of a cycle if and only if `target` is the folder or lies below it, and
then nothing but looking has been done. -/
structure RefusesCycle (setup : Setup τ) (desk : Desk (Cabinet τ)) (id target : EntityId)
    (action : Nat → Action (Cabinet τ) Unit) : Prop where
  refuses : desk.world.store.contents.Below target id →
    ∃ after extra, desk.Glanced setup.faults after extra ∧
      ∀ depth, desk.world.store.contents.folders.ncard < depth →
        action depth desk = some (.error (.cycle id), after)
  only : ∀ depth after, action depth desk = some (.error (.cycle id), after) →
    desk.world.store.contents.Below target id ∧ ∃ extra, desk.Glanced setup.faults after extra

variable {next : Nat → Bool → Action (Cabinet τ) Unit} {action : Nat → Action (Cabinet τ) Unit}

/-- An action that goes up first, and fails for what it finds there and for nothing of that kind later. -/
theorem refusesCycle_of_climbs (reliable : setup.Reliable) (desk : Desk (Cabinet τ))
    (id target : EntityId) (begins : ∀ depth, action (depth + 1) =
      isDescendantOrSelf setup.host (depth + 1) target id >>= next depth)
    (shallow : action 0 = tooDeep)
    (refuses : ∀ depth desk, next depth true desk = some (.error (.cycle id), desk))
    (goesOn : ∀ depth, NoCycle (next depth false)) : RefusesCycle setup desk id target action := by
  obtain ⟨answer, after, extra, ran, glanced, _, _, exact⟩ := climbed reliable desk target id
  have refused (below : desk.world.store.contents.Below target id) (depth : Nat)
      (enough : desk.world.store.contents.folders.ncard < depth) :
      action depth desk = some (.error (.cycle id), after) := by
    obtain ⟨depth, rfl⟩ := Nat.exists_eq_add_one_of_ne_zero (Nat.ne_zero_of_lt enough)
    rw [begins, bind_apply, ran (depth + 1) enough, exact.mpr below]
    exact refuses depth after
  refine ⟨fun below => ⟨after, extra, glanced, refused below⟩, fun depth last ended => ?_⟩
  cases depth with
  | zero => simp [shallow, tooDeep] at ended
  | succ depth =>
    rw [begins] at ended
    -- However far going up was allowed to get, a failure of this kind comes from there.
    have found : (isDescendantOrSelf setup.host (depth + 1) target id >>= next depth).Meets desk
        fun result last => result = .error (.cycle id) →
          desk.world.store.contents.Below target id ∧ ∃ extra, desk.Glanced setup.faults last extra := by
      refine (looks_isDescendantOrSelf setup _ (depth + 1) target id desk rfl).bind ?_ ?_
      · rintro under between ⟨extra, glanced, told⟩
        obtain ⟨_, ⟨⟩, exact⟩ | ⟨_, ⟨⟩, _⟩ := told
        cases under with
        | true =>
          rintro _ _ ended _
          cases (refuses depth between).symm.trans ended
          exact ⟨exact.mp rfl, extra, glanced⟩
        | false => exact (goesOn depth between).mono fun _ _ other same => absurd same (other id)
      · rintro _ _ ⟨_, _, ⟨_, ⟨⟩, _⟩ | ⟨_, ⟨⟩, faulted⟩⟩ ⟨⟩
        obtain ⟨_, ⟨⟩⟩ := faulted.storage
    exact found _ _ ended rfl

theorem refusesCycle_moveFolder (reliable : setup.Reliable) (desk : Desk (Cabinet τ))
    (id target : EntityId) :
    RefusesCycle setup desk id target fun depth => moveFolder setup.host depth id target := by
  refine refusesCycle_of_climbs reliable desk id target (fun _ => rfl) rfl (fun _ _ => rfl) ?_
  intro depth
  refine (NoCycle.call _).bind fun found => ?_
  split
  · exact .pure ()
  split
  · exact .pure ()
  refine (NoCycle.require .edit id).bind fun _ => (NoCycle.call _).bind fun opened => ?_
  split
  · exact .throw (by simp)
  refine (NoCycle.childFolderNamed _ _ _).bind fun clash => ?_
  split
  · exact .mergeFolder _ _ _
  · exact (NoCycle.call _).bind fun _ => .count _

theorem refusesCycle_copyFolder (reliable : setup.Reliable) (desk : Desk (Cabinet τ))
    (id target : EntityId) :
    RefusesCycle setup desk id target fun depth => copyFolder setup.host depth id target := by
  refine refusesCycle_of_climbs reliable desk id target (fun _ => rfl) rfl (fun _ _ => rfl) ?_
  intro depth
  refine (NoCycle.call _).bind fun found => ?_
  split
  · exact .pure ()
  split
  · exact .pure ()
  refine (NoCycle.call _).bind fun opened => ?_
  split
  · exact .throw (by simp)
  · exact (NoCycle.copyTarget _ _ _ _).bind fun copy => .copyChildren _ _ _

/-- Whatever is stored, going up from a folder ends once it has looked up each stored folder and perhaps
a missing one, and says whether it was led to the other. Moving and copying a folder fail because of a
cycle exactly where this is so, and leave everything as it is. -/
theorem climbs_exactly (reliable : setup.Reliable) (desk : Desk (Cabinet τ)) (id above : EntityId) :
    (∃ answer after extra, (∀ depth, desk.world.store.contents.folders.ncard < depth →
        isDescendantOrSelf setup.host depth id above desk = some (.ok answer, after)) ∧
      desk.Glanced setup.faults after extra ∧ (∀ entry ∈ extra, entry.method = .folder) ∧
      extra.length ≤ desk.world.store.contents.folders.ncard + 1 ∧
      (answer = true ↔ id = above ∨ TransGen desk.world.store.contents.Inside id above)) ∧
    RefusesCycle setup desk above id (fun depth => moveFolder setup.host depth above id) ∧
    RefusesCycle setup desk above id fun depth => copyFolder setup.host depth above id := by
  refine ⟨?_, refusesCycle_moveFolder reliable desk above id,
    refusesCycle_copyFolder reliable desk above id⟩
  obtain ⟨answer, after, extra, ran, glanced, folders, few, exact⟩ := climbed reliable desk id above
  refine ⟨answer, after, extra, ran, glanced, folders, few, exact.trans ?_⟩
  rw [Contents.Below, Relation.reflTransGen_iff_eq_or_transGen, eq_comm]

open Sample Request in
/-- Of two folders that are each other's parents, neither can be moved into the other one. -/
theorem climbs_exactly_fenced : Setup.quiet.Reliable ∧
    (∃ answer after, isDescendantOrSelf Setup.quiet.host 3 note docs
        ((taking docs (.ofFolder note)).desk .move .bulk ⟨fenced, (), []⟩) = some (.ok answer, after) ∧
      answer = true) ∧
    ∃ after, moveFolder Setup.quiet.host 3 docs note
        ((taking docs (.ofFolder note)).desk .move .bulk ⟨fenced, (), []⟩) =
          some (.error (.cycle docs), after) ∧
      after.world.store = fenced := by
  have up : note = docs ∨ TransGen fenced.contents.Inside note docs :=
    .inr (.single (by decide : fenced.contents.parentOf note = some docs))
  obtain ⟨⟨answer, after, _, ran, _, _, _, exact⟩, moved, _⟩ := climbs_exactly Setup.quiet_reliable
    ((taking docs (.ofFolder note)).desk .move .bulk ⟨fenced, (), []⟩) note docs
  have below : fenced.contents.Below note docs := (Relation.reflTransGen_iff_eq_or_transGen).mpr
    (up.imp_left Eq.symm)
  obtain ⟨after', _, glanced, refused⟩ := moved.refuses below
  exact ⟨Setup.quiet_reliable, ⟨answer, after, ran 3 ncard_folders_fenced, exact.mpr up⟩,
    after', refused 3 ncard_folders_fenced, glanced.store⟩

end Filing.Action
