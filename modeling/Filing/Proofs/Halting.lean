import Filing.Proofs.Requests
import Filing.Proofs.Returning

/-!
# Moving comes to an end

A folder may be merged into one that lies above it. Then folders go over into those that have yet to
be worked on, and more may lie below one of these than when the work began. But whatever is worked on,
nothing above it gets another parent (`Contents.Steady`). So the way up is longer for each folder than
for the one it was found in, and it goes through stored folders only.

## Main results

* `Action.steady_moveFolder`: moving a folder ends, unless there are loops.
* `Request.plan_returns`: so does a request to move paths into a folder.
-/
namespace Filing

open Relation (TransGen)

variable {τ : Type} {setup : Setup τ}

namespace Contents

/-- No loop and no folder has come into being, and of the folders that lie somewhere the `fixed` ones
still lie there. -/
structure Steady (c : Contents) (fixed : EntityId → EntityId → Prop) (c' : Contents) : Prop where
  loopFree : c'.LoopFree
  folders : c'.folders ⊆ c.folders
  inside : ∀ {x p}, fixed x p → c.Inside x p → c'.Inside x p

/-- What may not change while `id` is moved: what lies in a folder above it, but for `id` itself. -/
def Over (c : Contents) (id x p : EntityId) : Prop := x ≠ id ∧ TransGen c.Inside id p

/-- What may not change while the children of `id` are moved and those in `seen` have been. -/
def Waiting (c : Contents) (id : EntityId) (seen : List EntityId) (x p : EntityId) : Prop :=
  x ∉ seen ∧ c.Below id p

/-- The stored folders that are not met on the way up from `id`. -/
def outlying (c : Contents) (id : EntityId) : Set EntityId := c.folders \ {x | c.Below id x}

variable {c c' c'' : Contents} {fixed fixed' goal : EntityId → EntityId → Prop} {id child : EntityId}
  {seen : List EntityId}

theorem ncard_outlying_le (c : Contents) (id : EntityId) :
    (c.outlying id).ncard ≤ c.folders.ncard :=
  Set.ncard_le_ncard Set.sdiff_subset c.finite_folders

namespace Steady

theorem of_same (loopFree : c.LoopFree) (same : ∀ x, c'.folder? x = c.folder? x) :
    c.Steady fixed c' where
  loopFree := loopFree.congr same
  folders x stored := by simpa [Contents.folders, same] using stored
  inside _ inside := by simpa [Inside, parentOf, same] using inside

theorem trans (steady : c.Steady fixed c') (steady' : c'.Steady fixed' c'')
    (early : ∀ {x p}, goal x p → c.Inside x p → fixed x p)
    (late : ∀ {x p}, goal x p → c.Inside x p → fixed' x p) : c.Steady goal c'' where
  loopFree := steady'.loopFree
  folders := steady'.folders.trans steady.folders
  inside holds inside := steady'.inside (late holds inside) (steady.inside (early holds inside) inside)

variable (loopFree : c.LoopFree) (children : ∀ x ∈ seen, c.Inside x id)
include loopFree children

/-- While children of a folder are moved, the way up from it stays. -/
theorem below (steady : c.Steady (c.Waiting id seen) c') {p : EntityId} (below : c.Below id p) :
    c'.Below id p := by
  induction below with
  | refl => exact .refl
  | @tail y p before up ih =>
    refine ih.tail (steady.inside ⟨fun member => ?_, before.tail up⟩ up)
    exact loopFree.not_below_of_inside (children y member) before

variable (fresh : child ∉ seen) (inside : c.Inside child id)
include fresh inside

theorem next (steady : c.Steady (c.Waiting id seen) c') (steady' : c'.Steady (c'.Over child) c'') :
    c.Steady (c.Waiting id (seen ++ [child])) c'' := by
  have up : c'.Inside child id := steady.inside ⟨fresh, .refl⟩ inside
  refine steady.trans steady' ?_ ?_
  · rintro x p ⟨waits, below⟩ _
    exact ⟨fun member => waits (by simp [member]), below⟩
  · rintro x p ⟨waits, below⟩ _
    refine ⟨fun same => waits (by simp [same]), .head' up ?_⟩
    exact steady.below loopFree children below

/-- Fewer folders are off the way up from a child. -/
theorem ncard_outlying_lt (steady : c.Steady (c.Waiting id seen) c') :
    (c'.outlying child).ncard < (c.outlying id).ncard := by
  have up : c'.Inside child id := steady.inside ⟨fresh, .refl⟩ inside
  refine Set.ncard_lt_ncard ⟨?_, fun fewer => ?_⟩ c.finite_folders.sdiff
  · rintro x ⟨stored, off⟩
    refine ⟨steady.folders stored, fun above => off ?_⟩
    exact up.trans_below (steady.below loopFree children above)
  · have here : child ∈ c.outlying id :=
      ⟨mem_folders_of_inside inside, loopFree.not_below_of_inside inside⟩
    exact (fewer here).2 (below_refl c' child)

end Steady

/-- Once all children have been moved, the folder itself may go. -/
theorem Steady.complete (loopFree : c.LoopFree) (children : ∀ x ∈ seen, c.Inside x id)
    (steady : c.Steady (c.Waiting id seen) c') (steady' : c'.Steady (fun x _ => x ≠ id) c'') :
    c.Steady (c.Over id) c'' := by
  -- A child lies in the folder itself and so in none above it.
  refine steady.trans steady' ?_ fun holds _ => holds.1
  rintro x p ⟨_, above⟩ inside
  refine ⟨fun member => ?_, above.to_reflTransGen⟩
  rw [inside_unique inside (children x member)] at above
  exact loopFree id above

end Contents

open Contents

namespace Action

variable {desk : Desk (Cabinet τ)} {P Q : Contents → Prop}

/-- The action ends well, and `P` holds of what is stored then. -/
def Settles (action : Action (Cabinet τ) Unit) (desk : Desk (Cabinet τ)) (P : Contents → Prop) : Prop :=
  action.Ends desk fun result after => result = .ok () ∧ P after.world.store.contents

namespace Settles

theorem bind {action : Action (Cabinet τ) Unit} {next : Unit → Action (Cabinet τ) Unit}
    (first : Settles action desk P)
    (rest : ∀ after : Desk (Cabinet τ), P after.world.store.contents → Settles (next ()) after Q) :
    Settles (action >>= next) desk Q := by
  refine Ends.bind first (fun _ after ended => rest after ended.2) ?_
  rintro _ _ ⟨⟨⟩, _⟩

theorem item {work : Action (Cabinet τ) Unit}
    (ends : work.Ends desk fun _ after => P after.world.store.contents) :
    Settles (Action.item setup.host.job work) desk P := by
  refine Ends.item ends (fun between after holds looked => ⟨rfl, ?_⟩)
    fun _ between after holds looked => ⟨rfl, ?_⟩
  · rwa [looked.store]
  · rwa [looked.store]

theorem inLevel {total : Nat} {work : Action (Cabinet τ) Unit}
    (inside : ∀ pushed : Desk (Cabinet τ), pushed.world.store = desk.world.store →
      Settles work pushed P) : Settles (Action.inLevel setup.host.job total work) desk P := by
  refine Ends.inLevel (fun pushed looked => inside pushed looked.store) ?_ fun _ _ ended => ended
  rintro between after ⟨_, holds⟩ looked
  exact ⟨rfl, by rwa [looked.store]⟩

theorem forM {ι : Type} {items : List ι} {work : ι → Action (Cabinet τ) Unit}
    (inv : List ι → Contents → Prop) (start : inv [] desk.world.store.contents)
    (each : ∀ seen item later, items = seen ++ item :: later → ∀ desk : Desk (Cabinet τ),
      inv seen desk.world.store.contents → Settles (work item) desk (inv (seen ++ [item]))) :
    Settles (items.forM work) desk (inv items) := by
  refine Ends.forM (fun seen desk => inv seen desk.world.store.contents) start ?_
    fun _ holds => ⟨rfl, holds⟩
  intro seen item later split desk holds
  refine (each seen item later split desk holds).mono ?_
  rintro _ after ⟨rfl, holds⟩
  exact holds

theorem workOff {paths : List Path} {work : Path → Action (Cabinet τ) Unit}
    (each : ∀ path ∈ paths, ∀ desk : Desk (Cabinet τ), P desk.world.store.contents →
      (work path).Ends desk fun _ after => P after.world.store.contents)
    (start : P desk.world.store.contents) : Settles (Request.workOff setup.host work paths) desk P := by
  induction paths generalizing desk with
  | nil => exact .pure ⟨rfl, start⟩
  | cons path later ih =>
    unfold Request.workOff
    refine Ends.bind (.turn setup.job.isCancelled) ?_ (by rintro _ _ ⟨⟨_, ⟨⟩⟩, _⟩)
    rintro cancelled asked ⟨_, looked⟩
    rw [← looked.store] at start
    split
    · exact ⟨⟨_, rfl⟩, .modify ⟨rfl, start⟩⟩
    · refine bind (item (each path (by simp) asked start)) fun after holds => ?_
      exact ih (fun path member => each path (by simp [member])) holds

end Settles

/-! ## Items -/

/-- Moving a file leaves all folders where they are. -/
theorem folder?_moveFile (id : EntityId) (source : Option EntityId) (target : EntityId) :
    (moveFile setup.host id source target).Meets desk fun _ after =>
      ∀ x, after.world.store.contents.folder? x = desk.world.store.contents.folder? x := by
  refine (meets_moveFile id source target).mono fun result after ended => ?_
  cases ended with
  | missing kept _ => exact fun _ => by rw [kept.store]
  | already kept _ => exact fun _ => by rw [kept.store]
  | clashes kept _ _ => exact fun _ => by rw [kept.store]
  | idle _ room _ => exact room.folder?
  | @moved between _ file room relists _ wrote =>
    have noFolder : between.world.store.contents.folder? (file.reparent source target).1.id = none :=
      (room.folder? file.id).trans (folder?_eq_none_of_file? relists.stored)
    intro x
    rw [wrote.store]
    exact (folder?_insert_file_of_noFolder noFolder x).trans (room.folder? x)
  | stuck _ room failed =>
    obtain ⟨_, kept, _⟩ := failed
    exact fun x => by rw [kept.store, room.folder?]
  | failed failed =>
    obtain ⟨_, kept, _⟩ := failed
    exact fun _ => by rw [kept.store]
  | hindered failed =>
    obtain ⟨_, kept, _⟩ := failed
    exact fun _ => by rw [kept.store]

theorem steady_moveFile (fixed : EntityId → EntityId → Prop)
    (loopFree : desk.world.store.contents.LoopFree) (id : EntityId) (source : Option EntityId)
    (target : EntityId) : (moveFile setup.host id source target).Ends desk fun _ after =>
      desk.world.store.contents.Steady fixed after.world.store.contents :=
  ⟨returns_moveFile id source target desk,
    (folder?_moveFile id source target).mono fun _ _ same => .of_same loopFree same⟩

theorem steady_removeIfEmpty (loopFree : desk.world.store.contents.LoopFree) (id : EntityId) :
    (discard (removeIfEmpty setup.host id)).Ends desk fun _ after =>
      desk.world.store.contents.Steady (fun x _ => x ≠ id) after.world.store.contents := by
  refine ⟨(returns_removeIfEmpty id desk).andThen fun _ desk => .pure () desk, .removeIfEmpty ?_ ?_⟩
  · intro _ after _ glanced
    exact .of_same loopFree fun _ => by rw [glanced.store]
  · intro after _ altered
    rw [altered.changed.store_eq]
    refine ⟨loopFree.erase id, ?_, ?_⟩
    · rintro x ⟨folder, stored⟩
      exact ⟨folder, (folder?_erase_eq_some_iff.mp stored).2⟩
    · intro x p differs inside
      rwa [Inside, MemoryStore.discard, parentOf_erase, if_neg (Ne.symm differs)]

/-! ## Folders -/

/-- A folder is moved to its end if every folder it is merged into is filled to its end. -/
theorem Ends.moveFolder {depth : Nat} {id target : EntityId}
    {post : Except RequestError Unit → Desk (Cabinet τ) → Prop}
    (meets : (Action.moveFolder setup.host (depth + 1) id target).Meets desk post)
    (enough : desk.world.store.contents.folders.ncard < depth + 1)
    (merges : ∀ between extra folder existing, desk.Kept between extra →
      desk.world.store.contents.listing? id = some folder →
      FolderClash desk.world.store.contents folder.name existing target (some id) →
      (mergeFolder setup.host (Action.moveFolder setup.host depth) folder existing).Returns between) :
    (Action.moveFolder setup.host (depth + 1) id target).Ends desk post := by
  -- What the end is like is known already, so it does not matter on the way there.
  suffices walk : (Action.moveFolder setup.host (depth + 1) id target).Ends desk fun _ _ => True from
    ⟨walk.1, meets⟩
  unfold Action.moveFolder
  refine .look (.refl desk) (returns_isDescendantOrSelf (depth + 1) target id enough)
    (looks_isDescendantOrSelf setup _ (depth + 1) target id) (fun _ _ _ => trivial)
    (fun _ _ => trivial) fun under between extra kept _ => ?_
  split
  · exact ⟨.throw _ between, fun _ _ _ => trivial⟩
  -- Any reason for a failure will do.
  have failed (error : RequestError) (after : Desk (Cabinet τ))
      (_ : desk.Failed setup.faults (fun _ => True) error after) : True := trivial
  refine .lookFolder kept failed (fun _ _ _ _ => .pure trivial) fun folder between extra kept listed => ?_
  dsimp only
  split
  next => exact .pure trivial
  next =>
    refine .require kept (fun _ _ _ => trivial) (fun _ _ => trivial) fun between extra kept _ => ?_
    refine .lookFolder kept failed (fun between _ _ _ => ?_) fun destination between extra kept opened => ?_
    · exact ⟨.throw _ between, fun _ _ _ => trivial⟩
    · refine .look kept (returns_folderNamed folder.name _ between)
        (looks_childFolderNamed setup opened folder.name (some id)) (fun _ _ _ => trivial)
        (fun _ _ => trivial) ?_
      rintro _ between extra kept ⟨_, ⟨⟩, clash⟩
      split at clash
      next => exact ⟨(Returns.call _ between).andThen fun _ => .count _, fun _ _ _ => trivial⟩
      next existing => exact ⟨merges between extra folder existing kept listed clash, fun _ _ _ => trivial⟩

/-- What is moved into the children's place may lie above the folder, so the children are taken as they
are found by then, each with the way up that it has by then. -/
theorem steady_mergeFolder {depth : Nat} {listing : Listing} {target : EntityId}
    (moves : ∀ (desk : Desk (Cabinet τ)) id, desk.world.store.contents.LoopFree →
      (desk.world.store.contents.outlying id).ncard + desk.world.store.contents.folders.ncard < depth →
      (Action.moveFolder setup.host depth id target).Ends desk fun _ after =>
        desk.world.store.contents.Steady (desk.world.store.contents.Over id)
          after.world.store.contents)
    (loopFree : desk.world.store.contents.LoopFree)
    (found : desk.world.store.contents.listing? listing.id = some listing)
    (enough : (desk.world.store.contents.outlying listing.id).ncard +
      desk.world.store.contents.folders.ncard < depth + 1) :
    (mergeFolder setup.host (Action.moveFolder setup.host depth) listing target).Ends desk
      fun _ after => desk.world.store.contents.Steady (desk.world.store.contents.Over listing.id)
        after.world.store.contents := by
  generalize start : desk.world.store.contents = c at *
  have children (child : EntityId) (member : child ∈ listing.childFolders) :
      c.Inside child listing.id := inside_of_mem_listing found member
  have once : listing.childFolders.Nodup :=
    (listing?_eq_some_iff.mp found).2.1 ▸ c.nodup_childFolders listing.id
  have counted : Settles (Action.count fun t => { t with foldersMerged := t.foldersMerged + 1 }) desk
      (· = c) := ⟨.count _ desk, .modify ⟨rfl, start⟩⟩
  suffices all : Settles (mergeFolder setup.host (Action.moveFolder setup.host depth) listing target)
      desk (c.Steady (c.Over listing.id)) from all.mono fun _ _ ended => ended.2
  refine counted.bind fun tallied same => .inLevel fun pushed store => ?_
  have same : pushed.world.store.contents = c := store ▸ same
  -- What was done to the children before a child is done above it or beside it, never to its parent.
  have folders : Settles (listing.childFolders.forM fun child =>
      Action.item setup.host.job (Action.moveFolder setup.host depth child target)) pushed
      (c.Steady (c.Waiting listing.id listing.childFolders)) := by
    refine .forM (fun seen => c.Steady (c.Waiting listing.id seen)) ?_ ?_
    · rw [same]
      exact .of_same loopFree fun _ => rfl
    · intro seen child later split between steady
      have fresh : child ∉ seen := by
        rw [split, List.nodup_append] at once
        exact fun member => once.2.2 child member child (by simp) rfl
      have up : c.Inside child listing.id := children child (by simp [split])
      have before (x : EntityId) (member : x ∈ seen) : c.Inside x listing.id :=
        children x (by simp [split, member])
      have less := steady.ncard_outlying_lt loopFree before fresh up
      have fewer := Set.ncard_le_ncard steady.folders c.finite_folders
      refine .item ((moves between child steady.loopFree (by omega)).mono fun _ _ steady' => ?_)
      exact steady.next loopFree before fresh up steady'
  refine folders.bind fun filled steady => ?_
  have files : Settles (listing.childFiles.forM fun child =>
      Action.item setup.host.job (moveFile setup.host child (some listing.id) target)) filled
      (c.Steady (c.Waiting listing.id listing.childFolders)) := by
    refine .forM (fun _ => c.Steady (c.Waiting listing.id listing.childFolders)) steady ?_
    intro _ child _ _ between steady
    refine .item ((steady_moveFile (c.Waiting listing.id listing.childFolders) steady.loopFree child
      (some listing.id) target).mono fun _ _ steady' => ?_)
    exact steady.trans steady' (fun holds _ => holds) fun holds _ => holds
  refine files.bind fun emptied steady => .item ?_
  refine (steady_removeIfEmpty steady.loopFree listing.id).mono fun _ _ steady' => ?_
  exact steady.complete loopFree children steady'

/-- Moving a folder comes to an end, whatever is in the way, and nothing above it changes its place. -/
theorem steady_moveFolder (depth : Nat) (id target : EntityId)
    (loopFree : desk.world.store.contents.LoopFree)
    (enough : (desk.world.store.contents.outlying id).ncard +
      desk.world.store.contents.folders.ncard < depth) :
    (Action.moveFolder setup.host depth id target).Ends desk fun _ after =>
      desk.world.store.contents.Steady (desk.world.store.contents.Over id)
        after.world.store.contents := by
  -- On the depth, as the folders that are not above become fewer from a folder to its children. All
  -- the folders are added to them, as looking for a loop may meet every one.
  induction depth generalizing desk id target with
  | zero => exact absurd enough (Nat.not_lt_zero _)
  | succ depth ih =>
    have merges (between : Desk (Cabinet τ)) (listing : Listing) (there : EntityId)
        (store : between.world.store = desk.world.store)
        (found : desk.world.store.contents.listing? id = some listing) :
        (mergeFolder setup.host (Action.moveFolder setup.host depth) listing there).Ends between
          fun _ after => desk.world.store.contents.Steady (desk.world.store.contents.Over id)
            after.world.store.contents := by
      cases id_of_listing? found
      rw [← store] at loopFree enough found ⊢
      exact steady_mergeFolder (fun _ id loopFree => ih id there loopFree) loopFree found enough
    refine .moveFolder ?_ (by omega) fun between extra listing there kept found _ =>
      (merges between listing there kept.store found).1
    refine .moveFolder ?_ ?_ ?_ ?_
    · exact fun after extra glanced _ => .of_same loopFree fun _ => by rw [glanced.store]
    · rintro error after ⟨_, glanced, _⟩
      exact .of_same loopFree fun _ => by rw [glanced.store]
    · rintro after folder rfl reparents _ altered
      rw [altered.changed.store_eq]
      refine ⟨reparents.loopFree loopFree, ?_, ?_⟩
      · rintro x ⟨other, found⟩
        by_cases here : folder.id = x
        · exact here ▸ ⟨folder, reparents.stored⟩
        · exact ⟨other, by simpa [MemoryStore.save, here] using found⟩
      · rintro x p ⟨differs, _⟩ inside
        rwa [Inside, MemoryStore.save, parentOf_insert_folder, if_neg (Ne.symm differs)]
    · intro between extra listing there glanced _ found _ _
      exact (merges between listing there glanced.store found).2

end Action

namespace Request

open Filing.Action (Settles)

/-- Work on paths that go into a folder ends, and no more can be met on the way up than before. -/
theorem settles_workAll {desk : Desk (Cabinet τ)} {depth : Nat} (request : Request)
    (loopFree : desk.world.store.contents.LoopFree)
    (enough : 2 * desk.world.store.contents.folders.ncard < depth) :
    Settles (workAll setup.host depth .move .bulk request) desk fun c =>
      c.LoopFree ∧ c.folders ⊆ desk.world.store.contents.folders := by
  refine .inLevel fun pushed store => .workOff ?_ (by rw [store]; exact ⟨loopFree, subset_rfl⟩)
  rintro ⟨source, file⟩ _ desk' ⟨loopFree, fewer⟩
  have stays : Action.Ends (pure () : Action (Cabinet τ) Unit) desk' fun _ after =>
      after.world.store.contents.LoopFree ∧
        after.world.store.contents.folders ⊆ desk.world.store.contents.folders :=
    .pure ⟨loopFree, fewer⟩
  obtain ⟨folder, leaf⟩ := request.destination
  cases folder with
  | none => exact stays
  | some target =>
    cases file with
    | some file =>
      refine (Action.steady_moveFile (fun _ _ => True) loopFree file source target).mono ?_
      exact fun _ _ steady => ⟨steady.loopFree, steady.folders.trans fewer⟩
    | none =>
      cases source with
      | none => exact stays
      | some folder =>
        -- The depth was enough for what was stored at the beginning, and there are no more folders now.
        have less := desk'.world.store.contents.ncard_outlying_le folder
        have fewest := Set.ncard_le_ncard fewer (finite_folders _)
        refine (Action.steady_moveFolder depth folder target loopFree (by omega)).mono ?_
        exact fun _ _ steady => ⟨steady.loopFree, steady.folders.trans fewer⟩

/-- A request to move paths into a folder ends with a report, unless there are loops. -/
theorem plan_returns (reliable : setup.Reliable) {request : Request} {cabinet : Cabinet τ}
    (bulk : request.modeIn cabinet.store.contents = .bulk)
    (loopFree : cabinet.store.contents.LoopFree) {depth : Nat}
    (enough : 2 * cabinet.store.contents.folders.ncard < depth) :
    ∃ report after, request.plan setup.host depth cabinet = some (.ok report, after) := by
  obtain ⟨between, same, _, sorted⟩ := classifyAndRun_eq reliable depth .move request cabinet
  rw [← same] at loopFree enough
  have settles : Settles (workAll setup.host depth .move .bulk request)
      (request.desk .move .bulk between) _ := settles_workAll request loopFree enough
  obtain ⟨result, desk, worked, _⟩ := settles.outcome
  refine ⟨desk.report, desk.world, ?_⟩
  unfold plan
  rw [sorted, bulk, run_eq, worked]
  rfl

end Request

end Filing
