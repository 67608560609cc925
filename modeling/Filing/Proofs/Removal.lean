import Filing.Proofs.Collision

/-!
# Removing

What deleting does to one file or to one folder that should be empty by now, and that a deletion is
traced.
-/
namespace Filing

variable {τ : Type}

namespace Action

variable {setup : Setup τ} {desk : Desk (Cabinet τ)}

theorem listing_isEmpty_iff {c : Contents} {id : EntityId} {listing : Listing}
    (found : c.listing? id = some listing) : listing.isEmpty = true ↔ c.Vacant id := by
  obtain ⟨_, folders, files⟩ := Contents.listing?_eq_some_iff.mp found
  simp only [Listing.isEmpty, folders, files, Bool.and_eq_true, List.isEmpty_iff]
  constructor
  · rintro ⟨noFolders, noFiles⟩
    constructor
    · intro x inside
      have member := Contents.mem_childFolders_iff_inside.mpr inside
      simp [noFolders] at member
    · intro x file stored listed
      have member : x ∈ c.childFiles id := Contents.mem_childFiles.mpr ⟨file, stored, listed⟩
      simp [noFiles] at member
  · intro vacant
    constructor
    · refine List.eq_nil_iff_forall_not_mem.mpr fun x member => ?_
      exact vacant.folders x (Contents.mem_childFolders_iff_inside.mp member)
    · refine List.eq_nil_iff_forall_not_mem.mpr fun x member => ?_
      obtain ⟨file, stored, listed⟩ := Contents.mem_childFiles.mp member
      exact vacant.files stored listed

theorem meets_removeIfEmpty (id : EntityId) :
    (removeIfEmpty setup.host id).Meets desk fun result after =>
      match result with
      | .ok true => Dissolves desk.world.store id ∧
          desk.Altered setup.faults after (desk.world.store.discard id) (fun tally => tally)
      | .ok false => ∃ extra, desk.Glanced setup.faults after extra ∧
          ∀ folder, desk.world.store.contents.folder? id = some folder →
            ¬ desk.world.store.contents.Vacant id
      | .error error =>
        desk.Missed setup.faults (Denied desk.world.store .delete id) error after := by
  unfold removeIfEmpty
  refine .glanceFolder (.refl desk) (fun _ _ missed => missed) (fun _ extra glanced missing => ?_)
    fun folder _ extra glanced found => ?_
  · exact .pure ⟨extra, glanced, by simp [missing]⟩
  · dsimp only
    split
    next empty =>
      have stored := (Contents.listing?_eq_some_iff.mp found).1
      refine .permit glanced (fun _ _ missed => missed) (fun _ denied => denied) ?_
      intro asked extra glanced permitted
      have has : asked.world.store.has id = true := by
        rw [glanced.store]
        exact Contents.has_of_folder? stored
      refine .alter glanced (meets_delete has) (fun _ _ missed => missed) fun after wrote drift => ?_
      rw [glanced.store] at wrote
      have vacant := (listing_isEmpty_iff found).mp empty
      exact .pure ⟨⟨⟨_, stored⟩, vacant, permitted⟩, _, _, _, glanced, wrote, drift⟩
    next filled =>
      refine .pure ⟨extra, glanced, fun _ _ vacant => ?_⟩
      exact filled ((listing_isEmpty_iff found).mpr vacant)

/-- The last item of a merged folder's level: the folder goes if it is empty by now, and otherwise
there was no more to it than looking. -/
theorem Meets.removeIfEmpty {id : EntityId} {post : Except RequestError Unit → Desk (Cabinet τ) → Prop}
    (stays : ∀ result after extra, desk.Glanced setup.faults after extra → post result after)
    (goes : ∀ after, Dissolves desk.world.store id →
      desk.Altered setup.faults after (desk.world.store.discard id) (fun tally => tally) →
        post (.ok ()) after) :
    (discard (Action.removeIfEmpty setup.host id)).Meets desk post := by
  refine (meets_removeIfEmpty id).bind ?_ ?_
  · intro removed after ended
    refine .pure ?_
    cases removed with
    | false =>
      obtain ⟨extra, glanced, _⟩ := ended
      exact stays _ after extra glanced
    | true => exact goes after ended.1 ended.2
  · rintro error after ⟨extra, glanced, _⟩
    exact stays _ after extra glanced

theorem meets_deleteFile (id : EntityId) (parent : Option EntityId) :
    (deleteFile setup.host id parent).Meets desk fun result after =>
      match result with
      | .ok _ =>
        (∃ extra, desk.Kept after extra ∧ ∀ file, desk.world.store.contents.file? id = some file →
          ∃ folder, parent = some folder ∧ folder ∉ file.parents) ∨
        ∃ file, desk.world.store.contents.file? id = some file ∧
          match parent with
          | none => desk.world.store.allows .delete id = true ∧
              desk.Changed after (desk.world.store.discard id)
                fun tally => { tally with filesDeleted := tally.filesDeleted + 1 }
          | some folder => folder ∈ file.parents ∧
              desk.world.store.allows (file.removalPermission folder) id = true ∧
              desk.Changed after (desk.world.store.takeOut file folder) (file.countRemoval folder)
      | .error error => desk.Failed setup.faults (Refused desk.world.store) error after := by
  unfold deleteFile
  refine .look_ok (.refl desk) (looks_file setup _ id) (fun _ _ failed => failed) ?_
  intro between extra kept
  cases stored : desk.world.store.contents.file? id with
  | none => exact .pure (.inl ⟨extra, kept, by simp⟩)
  | some file =>
    have sameId := Contents.id_of_file? stored
    cases parent with
    | none =>
      refine .require kept (fun _ _ failed => failed) (fun _ refused => refused) ?_
      intro asked extra kept permitted
      have has : asked.world.store.has id = true := by
        rw [kept.store]
        exact Contents.has_of_file? stored
      refine .write kept (meets_delete has) (fun _ _ failed => failed) fun after wrote => ?_
      rw [kept.store] at wrote
      exact .count wrote fun _ counted => .inr ⟨file, rfl, permitted, _, _, _, kept, counted⟩
    | some folder =>
      dsimp only
      split
      next listed =>
        refine .require kept (fun _ _ failed => failed) (fun _ refused => refused) ?_
        intro asked extra kept permitted
        subst sameId
        refine (meets_detachOrDelete kept folder stored).bind ?_ ?_
        · rintro deleted after ⟨rfl, method, wrote, _⟩
          -- Whether another folder lists the file decides what is counted.
          cases elsewhere : file.isElsewhere folder with
          | true =>
            rw [Bool.not_true, if_neg Bool.false_ne_true]
            refine .count wrote fun _ counted => ?_
            refine .inr ⟨file, rfl, listed, permitted, asked, extra, method, kept, ?_⟩
            rwa [File.countRemoval_of_elsewhere elsewhere]
          | false =>
            rw [Bool.not_false, if_pos rfl]
            refine .count wrote fun _ counted => ?_
            refine .inr ⟨file, rfl, listed, permitted, asked, extra, method, kept, ?_⟩
            rwa [File.countRemoval_of_only elsewhere]
        · intro error after missed
          exact (missed.failed.after_keeping kept).mono (by simp)
      next absent => exact .pure (.inl ⟨extra, kept, by simp [absent]⟩)

/-- The last item of a deleted folder's level. -/
theorem meets_deleteEmptied (id : EntityId) :
    (deleteEmptied setup.host id).Meets desk fun result after =>
      match result with
      | .ok _ =>
        (∃ extra, desk.Kept after extra ∧
          ∀ folder, desk.world.store.contents.folder? id = some folder →
            ¬ desk.world.store.contents.Vacant id) ∨
        Dissolves desk.world.store id ∧ desk.Changed after (desk.world.store.discard id)
          fun tally => { tally with foldersDeleted := tally.foldersDeleted + 1 }
      | .error error => desk.Failed setup.faults (Refused desk.world.store) error after := by
  refine (meets_removeIfEmpty id).bind ?_ fun _ _ missed =>
    missed.failed.mono fun _ denied => ⟨_, _, denied⟩
  intro removed between ended
  cases removed with
  | false =>
    obtain ⟨_, glanced, filled⟩ := ended
    exact .pure (.inl ⟨_, glanced.kept, filled⟩)
  | true =>
    obtain ⟨dissolves, _, _, _, glanced, wrote, _⟩ := ended
    rw [if_pos rfl]
    exact .count wrote fun _ counted => .inr ⟨dissolves, _, _, _, glanced.kept, counted⟩

/-! ## Traces -/

variable {rules : Rules}

theorem traces_deleteFile (delete : rules.operation = .delete) (id : EntityId)
    (parent : Option EntityId) : Traces rules (deleteFile setup.host id parent) := by
  rintro desk rfl
  refine (meets_deleteFile id parent).mono fun result after ended => ?_
  cases result with
  | error _ => exact ended.traced
  | ok _ =>
    rcases ended with ⟨_, kept, _⟩ | ⟨file, stored, removed⟩
    · exact kept.traced
    cases parent with
    | none => exact removed.2.traced (.deleteFile delete stored removed.1)
    | some folder =>
      obtain ⟨listed, permitted, changed⟩ := removed
      cases Contents.id_of_file? stored
      exact changed.traced (.takeOut delete stored listed permitted)

theorem traces_deleteFolder (delete : rules.operation = .delete) (depth : Nat) (id : EntityId) :
    Traces rules (deleteFolder setup.host depth id) := by
  induction depth generalizing id with
  | zero => exact fun _ _ => .tooDeep
  | succ depth ih =>
    unfold deleteFolder
    refine .bind (.look fun store => looks_folder setup store id) fun found => ?_
    split
    next => exact .pure ()
    next folder =>
      refine .bind (.look fun store => looks_require setup store .delete id) fun _ => ?_
      refine .inLevel (.bind (.forM fun child => (ih child).item) fun _ => ?_)
      refine .bind (.forM fun child => (traces_deleteFile delete child (some id)).item) fun _ => ?_
      refine .item ?_
      rintro desk rfl
      refine (meets_deleteEmptied id).mono fun result after ended => ?_
      match result, ended with
      | .error _, failed => exact failed.traced
      | .ok _, .inl ⟨_, kept, _⟩ => exact kept.traced
      | .ok _, .inr ⟨dissolves, changed⟩ => exact changed.traced (.deleteFolder delete dissolves)

end Action

end Filing
