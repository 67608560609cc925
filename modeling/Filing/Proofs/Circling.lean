import Filing.Proofs.Working

/-!
# Folders that are in each other's way

Nothing keeps a store from holding folders that are each other's parents. To delete one of them is to
delete all folders inside it first, so this comes back to where it began, and as none of them is ever
empty, nothing that is deleted on the way opens the circle (`Steps.circular`). Such a deletion goes down
without end (`Action.endless_deleteFolder`). It is the only kind that does: one folder on the circle that
may not be deleted is enough to end it.

## Main results

- `Request.delete_ends`: which deletions come to an end.
-/
namespace Filing

open Relation (TransGen)

variable {τ : Type} {setup : Setup τ}

/-- Nobody ever cancels the job. -/
def Setup.Uncancelled (setup : Setup τ) : Prop :=
  ∀ around, (setup.job.isCancelled.run around).1 = false

/-! ## The circle stays closed -/

/-- A circle consists of folders that are not empty, so it is there as long as these are kept. -/
theorem MemoryStore.Circular.of_kept {s s' : MemoryStore} {id : EntityId}
    (kept : ∀ {x y parent}, s.Precedes x y → s.Precedes y parent → s'.Precedes y parent)
    (circular : s.Circular id) : s'.Circular id := by
  have follow {x : EntityId} (way : TransGen s.Precedes id x) : TransGen s'.Precedes id x := by
    induction way with
    | single precedes =>
      obtain ⟨child, before, _⟩ := circular.exists_precedes
      exact .single (kept before precedes)
    | tail way precedes ih =>
      obtain ⟨child, _, before⟩ := TransGen.tail'_iff.mp way
      exact ih.tail (kept before precedes)
  exact follow circular

theorem Step.circular {rules : Rules} {first second : Stage} {id : EntityId}
    (step : Step rules first second) (delete : rules.operation = .delete)
    (circular : first.store.Circular id) : second.store.Circular id := by
  -- A deletion that leaves every folder where it is leaves the circle.
  have calm {s s' : MemoryStore} (same : ∀ x, s'.contents.folder? x = s.contents.folder? x)
      (allows : s'.allows = s.allows) (circular : s.Circular id) : s'.Circular id := by
    refine circular.of_kept fun _ precedes => ⟨?_, allows ▸ precedes.permitted⟩
    rw [Contents.Inside, Contents.parentOf, same]
    exact precedes.inside
  cases step with
  | @deleteFolder s tally gone _ dissolves =>
    have kept {x y parent : EntityId} (before : s.Precedes x y) (precedes : s.Precedes y parent) :
        (s.discard gone).Precedes y parent := by
      have differs : gone ≠ y := by
        rintro rfl
        exact dissolves.vacant.folders x before.inside
      refine ⟨?_, precedes.permitted⟩
      rw [MemoryStore.discard, Contents.Inside, Contents.parentOf_erase, if_neg differs]
      exact precedes.inside
    exact circular.of_kept kept
  | @takeOut s tally file parent _ stored _ _ =>
    exact calm (MemoryStore.folder?_takeOut stored parent) (MemoryStore.allows_takeOut s file parent)
      circular
  | deleteFile _ stored _ =>
    have noFolder := Contents.folder?_eq_none_of_file? stored
    exact calm (Contents.folder?_erase_of_noFolder noFolder) rfl circular
  | evict other | merge other => exact absurd delete other
  | createFolder other | createFile other | replace other => simp [other] at delete
  | relist other | displace other | reparent other | dissolve other => simp [other] at delete
  | relocateFolder other | relocateFile other | relabelFile other | retitleFile other =>
    simp [other] at delete

theorem Steps.circular {rules : Rules} {first last : Stage} {id : EntityId}
    (steps : Steps rules first last) (delete : rules.operation = .delete)
    (circular : first.store.Circular id) : last.store.Circular id := by
  induction steps with
  | refl => exact circular
  | tail _ step ih => exact step.circular delete ih

theorem Desk.Traced.circular {first second : Desk (Cabinet τ)} {id : EntityId}
    (traced : first.Traced second) (delete : first.rules.operation = .delete)
    (circular : first.world.store.Circular id) : second.world.store.Circular id :=
  traced.steps.circular delete circular

/-! ## Going down without end -/

namespace Action

variable {desk : Desk (Cabinet τ)}

/-- It does not end at the depth it was given. -/
def Endless {α : Type} (action : Action (Cabinet τ) α) (desk : Desk (Cabinet τ)) : Prop :=
  action.Meets desk fun _ _ => False

namespace Endless

variable {α β : Type}

theorem eq_none {action : Action (Cabinet τ) α} (endless : action.Endless desk) : action desk = none := by
  cases ran : action desk with
  | none => rfl
  | some outcome => exact (endless _ _ ran).elim

/-- What comes after it is never begun. -/
theorem bind {action : Action (Cabinet τ) α} {next : α → Action (Cabinet τ) β}
    (endless : action.Endless desk) : (action >>= next).Endless desk :=
  Meets.bind endless (fun _ _ (ended : False) => ended.elim) fun _ _ ended => ended

/-- Getting to what does not end does not end either. -/
theorem after {action : Action (Cabinet τ) α} {next : α → Action (Cabinet τ) β}
    {mid : Except RequestError α → Desk (Cabinet τ) → Prop} (first : action.Meets desk mid)
    (rest : ∀ a later, mid (.ok a) later → (next a).Endless later)
    (unfailing : ∀ error later, ¬ mid (.error error) later) : (action >>= next).Endless desk :=
  Meets.bind first rest unfailing

theorem item {work : Action (Cabinet τ) Unit} (endless : work.Endless desk) :
    (Action.item setup.host.job work).Endless desk := by
  have settled : (Action.settle work).Endless desk :=
    Meets.settle endless (fun _ ended => ended) fun _ _ ended => ended
  exact settled.bind

end Endless

/-- However deep it may go, it is not deep enough. -/
theorem endless_deleteFolder (reliable : setup.Reliable) (depth : Nat) {id : EntityId}
    (delete : desk.rules.operation = .delete) (circular : desk.world.store.Circular id) :
    (deleteFolder setup.host depth id).Endless desk := by
  induction depth generalizing id desk with
  | zero => exact .tooDeep
  | succ depth ih =>
    obtain ⟨child, precedes, circular⟩ := circular.exists_precedes
    obtain ⟨_, up, _⟩ := TransGen.head'_iff.mp (circular.of_precedes precedes)
    obtain ⟨folder, stored, _⟩ := Contents.inside_iff.mp up.inside
    unfold deleteFolder
    refine .glanceFolder (.refl desk)
      (fun _ _ (missed : desk.Missed setup.faults (fun _ => False) _ _) =>
        missed.reason_of_reliable reliable) (fun _ extra glanced missing => ?_)
        fun listing _ extra glanced listed => ?_
    · cases missing.symm.trans stored
    · have member : child ∈ listing.childFolders := by
        rw [(Contents.listing?_eq_some_iff.mp listed).2.1]
        exact Contents.mem_childFolders_iff_inside.mpr precedes.inside
      refine .permit glanced (fun _ _ missed => missed.reason_of_reliable reliable)
        (fun _ denied => ?_) fun asked extra glanced _ => ?_
      · cases precedes.permitted.symm.trans denied.1
      refine Endless.after (meets_turn _) ?_ (by rintro _ _ ⟨⟨_, ⟨⟩⟩, _⟩)
      rintro _ pushed ⟨_, looked⟩
      -- Whatever is deleted before the child on the circle, the circle is closed when it is reached.
      have children : (listing.childFolders.forM fun child =>
          Action.item setup.host.job (deleteFolder setup.host depth child)).Endless pushed := by
        have begun := glanced.kept.trans looked.kept
        refine .forM (fun seen later => child ∉ seen ∧ later.rules.operation = .delete ∧
          later.world.store.Circular child) ⟨by simp, ?_, ?_⟩ ?_ ?_
        · rw [begun.rules]
          exact delete
        · rw [begun.store]
          exact circular
        · rintro seen other later split between ⟨notSeen, delete, circular⟩
          by_cases here : other = child
          · subst here
            exact (ih delete circular).item.mono fun _ _ ended => ended.elim
          · have traces : Traces between.rules (deleteFolder setup.host depth other) :=
              traces_deleteFolder delete depth other
            refine ((traces.item between rfl).and (Request.meets_item _ _ between)).mono ?_
            rintro _ after ⟨traced, rfl⟩
            refine ⟨by simp [notSeen, Ne.symm here], ?_, traced.circular delete circular⟩
            rwa [traced.rules]
        · exact fun _ ended => ended.1 member
      exact children.bind.bind

/-- A folder on a circle is come to, whatever is named before it. -/
theorem endless_deletePaths (reliable : setup.Reliable) (uncancelled : setup.Uncancelled) (depth : Nat)
    {id : EntityId} {paths : List Path} (named : .ofFolder id ∈ paths)
    (delete : desk.rules.operation = .delete) (circular : desk.world.store.Circular id) :
    (Request.workOff setup.host (deletePath setup.host depth) paths).Endless desk := by
  induction paths generalizing desk with
  | nil => cases named
  | cons path later ih =>
    intro result after ran
    have goesOn : (setup.host.job.isCancelled.run desk.world).1 = false := uncancelled _
    rw [Request.workOff_cons, goesOn, if_neg Bool.false_ne_true] at ran
    rcases List.mem_cons.mp named with rfl | named
    · have endless : (deletePath setup.host depth (.ofFolder id)).Endless (desk.asked setup.host.job) :=
        endless_deleteFolder reliable depth delete circular
      exact endless.item.bind result after ran
    · have traces : Traces desk.rules
          (Request.workOn setup.host depth desk.rules.operation desk.rules.mode .nowhere path) :=
        Request.traces_workOn depth .nowhere path fun move => by simp [delete] at move
      rw [delete] at traces
      have item := (traces.item (desk.asked setup.host.job) rfl).and
        (Request.meets_item setup.host.job _ _)
      refine Endless.after item ?_ (by rintro _ _ ⟨_, ⟨⟩⟩) result after ran
      rintro _ between ⟨traced, _⟩
      refine ih named ?_ (traced.circular delete circular)
      rw [traced.rules]
      exact delete

end Action

namespace Request

variable {cabinet : Cabinet τ} {paths : List Path}

/-- A request to delete a folder on a circle never ends, whatever else it names. -/
theorem delete_endless (reliable : setup.Reliable) (uncancelled : setup.Uncancelled) {id : EntityId}
    (named : .ofFolder id ∈ paths) (circular : cabinet.store.Circular id) (depth : Nat) :
    delete setup.host depth paths cabinet = none := by
  let request : Request := { paths, destination := .nowhere, interactive := false }
  have endless : (workAll setup.host depth .delete .bulk request).Endless
      (request.desk .delete .bulk cabinet) := by
    refine Action.Endless.after (Action.meets_turn _) ?_ (by rintro _ _ ⟨⟨_, ⟨⟩⟩, _⟩)
    rintro _ pushed ⟨_, looked⟩
    refine Action.Endless.bind (Action.endless_deletePaths reliable uncancelled depth named ?_ ?_)
    · rw [looked.kept.rules]
      rfl
    · rw [looked.store]
      exact circular
  change run setup.host depth .delete .bulk request cabinet = none
  rw [run_eq, endless.eq_none]
  rfl

/-- A deletion of anything but folders on a circle all of which may be deleted comes to an end, and no
other one does unless something fails or the job is cancelled. -/
theorem delete_ends (setup : Setup τ) (cabinet : Cabinet τ) (paths : List Path) :
    ((∀ id, .ofFolder id ∈ paths → ¬ cabinet.store.Circular id) →
      ∀ depth, cabinet.store.contents.folders.ncard < depth →
        ∃ report after, delete setup.host depth paths cabinet = some (report, after)) ∧
    (setup.Reliable → setup.Uncancelled → ∀ id, .ofFolder id ∈ paths → cabinet.store.Circular id →
      ∀ depth, delete setup.host depth paths cabinet = none) :=
  ⟨fun straight _ enough => delete_returns straight enough,
    fun reliable uncancelled _ named circular depth =>
      delete_endless reliable uncancelled named circular depth⟩

end Request

namespace Sample

/-- Two folders that are each other's parents, one of which may not be deleted. -/
def fenced : MemoryStore :=
  { MemoryStore.ofEntities [.folder ⟨docs, "docs", some note⟩, .folder ⟨note, "note", some docs⟩] with
    deleteDenied := .ofList [note] }

theorem fenced_straight : ¬ fenced.Circular docs := by
  intro circular
  obtain ⟨parent, precedes, _⟩ := TransGen.head'_iff.mp circular
  have up : fenced.contents.parentOf docs = some note := by decide
  cases Contents.inside_unique up precedes.inside
  exact absurd precedes.permitted (by decide)

theorem ncard_folders_fenced : fenced.contents.folders.ncard < 3 := by
  have within : fenced.contents.folders ⊆ {docs, note} := by
    rintro id ⟨folder, found⟩
    simp only [fenced, MemoryStore.ofEntities, Catalogue.ofList, List.foldl_cons, List.foldl_nil] at found
    rw [Contents.folder?_insert_folder, Contents.folder?_insert_folder] at found
    split at found
    next here => exact .inr here.symm
    next =>
      split at found
      next here => exact .inl here.symm
      next => cases found
  have few := Set.ncard_le_ncard within
  rw [Set.ncard_pair (by decide)] at few
  omega

/-- A folder that is its own parent. -/
def curled : MemoryStore := .ofEntities [.folder ⟨docs, "docs", some docs⟩]

theorem curled_circular : curled.Circular docs := by
  have up : curled.contents.parentOf docs = some docs := by decide
  exact .single ⟨up, by decide⟩

end Sample

open Sample in
theorem Request.delete_ends_fenced : (¬ fenced.Circular docs ∧ ∃ report after,
      delete Setup.quiet.host 3 [.ofFolder docs] ⟨fenced, (), []⟩ = some (report, after)) ∧
    curled.Circular docs ∧
      delete Setup.quiet.host 3 [.ofFolder docs] ⟨curled, (), []⟩ = none := by
  refine ⟨⟨fenced_straight, ?_⟩, curled_circular, ?_⟩
  · refine (delete_ends Setup.quiet ⟨fenced, (), []⟩ [.ofFolder docs]).1 ?_ 3 ncard_folders_fenced
    intro id named
    cases List.mem_singleton.mp named
    exact fenced_straight
  · exact (delete_ends Setup.quiet ⟨curled, (), []⟩ [.ofFolder docs]).2 Setup.quiet_reliable
      (fun _ => rfl) docs List.mem_cons_self curled_circular 3

open Sample in
/-- A folder that is its own parent is deleted without end. -/
theorem Request.not_delete_ends_curled : ¬ ∃ depth report after,
    delete Setup.quiet.host depth [.ofFolder docs] ⟨curled, (), []⟩ = some (report, after) := by
  rintro ⟨depth, report, after, ran⟩
  have endless : delete Setup.quiet.host depth [.ofFolder docs] ⟨curled, (), []⟩ = none :=
    delete_endless Setup.quiet_reliable (fun _ => rfl) List.mem_cons_self curled_circular depth
  cases endless.symm.trans ran

end Filing
