import Filing.Proofs.Integrity
import Filing.Proofs.Repeating

/-!
# A destination lasts

While folders are moved, emptied ones go, and a folder that is merged is moved piece by piece. But all
that lies below the folder that was named, and whatever has a folder of these above it is one of them
(`Contents.Encloses`). So nothing else changes its place or goes (`Action.spares_moveFolder`). The
destination is not among them, or the folder would be refused; so after a move into it, it is there as
before (`Request.folder?_plan`). A copy leaves all folders as they were (`Request.folder?_copy`). Either
way, later requests into that place are sorted alike (`Order.rules_of_bulk`).
-/
namespace Filing

variable {τ : Type} {setup : Setup τ}

namespace Contents

/-- Whatever lies in one of these is one of them. -/
def Encloses (c : Contents) (inner : Set EntityId) : Prop :=
  ∀ {x p}, c.Inside x p → p ∈ inner → x ∈ inner

variable {c c' : Contents} {inner : Set EntityId}

theorem encloses_below (c : Contents) (id : EntityId) : c.Encloses {x | c.Below x id} :=
  fun inside below => inside.trans_below below

theorem Encloses.congr (encloses : c.Encloses inner)
    (same : ∀ x, x ∉ inner → c'.folder? x = c.folder? x) : c'.Encloses inner := by
  intro x p inside member
  -- Whatever is not one of these is where it was.
  by_contra outer
  have before : c.Inside x p := by rwa [Inside, parentOf, same x outer] at inside
  exact outer (encloses before member)

end Contents

namespace Desk

variable {inner : Set EntityId}

/-- All folders but these are as before, if what lies in these is among them. -/
def Spares (inner : Set EntityId) (before after : Desk (Cabinet τ)) : Prop :=
  before.world.store.contents.Encloses inner → ∀ x, x ∉ inner →
    after.world.store.contents.folder? x = before.world.store.contents.folder? x

variable {first second third : Desk (Cabinet τ)}

theorem Spares.of_same (same : ∀ x, second.world.store.contents.folder? x =
    first.world.store.contents.folder? x) : first.Spares inner second := fun _ x _ => same x

theorem Kept.spares {extra : List Entry} (kept : first.Kept second extra) :
    first.Spares inner second := .of_same fun _ => by rw [kept.store]

theorem link_spares (inner : Set EntityId) :
    Link (Spares inner : Desk (Cabinet τ) → Desk (Cabinet τ) → Prop) where
  refl _ := .of_same fun _ => rfl
  trans spares spares' encloses x outer :=
    (spares' (encloses.congr (spares encloses)) x outer).trans (spares encloses x outer)
  failing _ _ := .of_same fun _ => rfl
  leftOff _ := .of_same fun _ => rfl

theorem chain_spares (setup : Setup τ) (inner : Set EntityId) :
    Chain setup (Spares inner : Desk (Cabinet τ) → Desk (Cabinet τ) → Prop) :=
  (link_spares inner).chain Kept.spares setup

/-- The folder under the identifier is as before. -/
def SameFolder (id : EntityId) (before after : Desk (Cabinet τ)) : Prop :=
  after.world.store.contents.folder? id = before.world.store.contents.folder? id

theorem chain_sameFolder (setup : Setup τ) (id : EntityId) :
    Chain setup (SameFolder id : Desk (Cabinet τ) → Desk (Cabinet τ) → Prop) := by
  have link : Link (SameFolder id : Desk (Cabinet τ) → Desk (Cabinet τ) → Prop) :=
    { refl := fun _ => rfl
      trans := fun first second => second.trans first
      failing := fun _ _ => rfl
      leftOff := fun _ => rfl }
  refine link.chain (fun kept => ?_) setup
  rw [SameFolder, kept.store]

end Desk

namespace Action

open Desk (Spares SameFolder link_spares chain_spares)

variable {desk : Desk (Cabinet τ)} {inner : Set EntityId} {id : EntityId}

theorem spares_moveFile (child : EntityId) (source : Option EntityId) (target : EntityId) :
    Links (Spares inner) (moveFile setup.host child source target) :=
  fun _ => (folder?_moveFile child source target).mono fun _ _ same => .of_same same

theorem spares_removeIfEmpty (member : id ∈ inner) :
    Links (Spares inner) (discard (removeIfEmpty setup.host id)) := by
  intro desk
  refine .removeIfEmpty (fun _ _ _ glanced => glanced.kept.spares) ?_
  intro after _ altered _ x outer
  have differs : ¬ id = x := fun same => outer (same ▸ member)
  rw [altered.changed.store_eq, MemoryStore.discard, Contents.folder?_erase, if_neg differs]

/-- The children are among those that are touched, and so is what is left of the folder. -/
theorem spares_mergeFolder {move : EntityId → EntityId → Action (Cabinet τ) Unit} {source : Listing}
    {target : EntityId} (member : source.id ∈ inner)
    (children : ∀ child ∈ source.childFolders, Links (Spares inner) (move child target)) :
    Links (Spares inner) (mergeFolder setup.host move source target) := by
  have link := link_spares (τ := τ) inner
  have job := (chain_spares setup inner).toJobLink
  refine .bind link (fun desk => .modify (.of_same fun _ => rfl)) fun _ => .inLevel job ?_
  refine .bind link (.forM link fun child listed => .item job (children child listed)) fun _ => ?_
  refine .bind link (.forM link fun child _ => .item job ?_) fun _ => .item job ?_
  · exact spares_moveFile child (some source.id) target
  · exact spares_removeIfEmpty member

/-- Moving a folder touches nothing but what lies below it, wherever that is by then. -/
theorem spares_moveFolder (depth : Nat) (target : EntityId) (member : id ∈ inner) :
    Links (Spares inner) (moveFolder setup.host depth id target) := by
  -- The set stays the same from level to level: with a folder, its children are in it.
  induction depth generalizing id target with
  | zero => exact fun _ => .tooDeep
  | succ depth ih =>
    intro desk
    refine .moveFolder ?_ ?_ ?_ ?_
    · exact fun _ _ glanced _ => glanced.kept.spares
    · rintro _ _ ⟨_, glanced, _⟩
      exact glanced.kept.spares
    · rintro after folder rfl _ _ altered _ x outer
      have differs : ¬ folder.id = x := fun same => outer (same ▸ member)
      rw [altered.changed.store_eq, MemoryStore.save, Contents.folder?_insert_folder, if_neg differs]
    · intro between _ folder existing glanced sameId listed _ _ result after ran encloses
      subst sameId
      have merges : Links (Spares inner)
          (mergeFolder setup.host (moveFolder setup.host depth) folder existing) :=
        spares_mergeFolder member fun child listed' =>
          ih existing (encloses (Contents.inside_of_mem_listing listed listed') member)
      exact (link_spares inner).trans glanced.kept.spares (merges between result after ran) encloses

/-- A folder that is the destination or lies above it is not moved at all. -/
theorem sameFolder_movePath (depth : Nat) (target : EntityId) (path : Path) :
    Links (SameFolder target) (movePath setup.host depth target path) := by
  intro desk
  obtain ⟨source, file⟩ := path
  cases file with
  | some file => exact (folder?_moveFile file source target).mono fun _ _ same => same target
  | none =>
    cases source with
    | none => exact .pure rfl
    | some id =>
      -- Above the destination the request is refused, and elsewhere the destination is spared.
      by_cases below : desk.world.store.contents.Below target id
      · cases depth with
        | zero => exact .tooDeep
        | succ depth =>
          refine .moveFolder ?_ ?_ ?_ ?_
          · exact fun _ _ glanced _ => by rw [SameFolder, glanced.store]
          · rintro _ _ ⟨_, glanced, _⟩
            rw [SameFolder, glanced.store]
          · rintro _ _ rfl reparents _ _
            exact absurd below reparents.away
          · rintro _ _ _ _ _ rfl _ reparents _
            exact absurd below reparents.away
      · have lies : id ∈ {x | desk.world.store.contents.Below x id} := .refl
        have spares : Links (Spares {x | desk.world.store.contents.Below x id})
            (moveFolder setup.host depth id target) := spares_moveFolder depth target lies
        refine (spares desk).mono fun _ _ spared => ?_
        exact spared (desk.world.store.contents.encloses_below id) target below

end Action

/-- Copying leaves folders as they are. -/
theorem Step.folder?_of_copy {rules : Rules} {first second : Stage} (step : Step rules first second)
    (copy : rules.operation = .copy) {id : EntityId} {folder : Folder}
    (stored : first.store.contents.folder? id = some folder) :
    second.store.contents.folder? id = some folder := by
  -- What is new goes where nothing was, so not to where the folder is.
  have newFile {s : MemoryStore} {file : File} (unused : s.has file.id = false)
      (stored : s.contents.folder? id = some folder) :
      Contents.folder? (s.contents.insert (.file file)) id = some folder :=
    (Contents.folder?_insert_file_of_noFolder (Contents.folder?_eq_none_of_unused unused) id).trans stored
  cases step with
  | evict _ displaces => exact (MemoryStore.folder?_takeOut displaces.storedExisting _ _).trans stored
  | merge _ => exact stored
  | @createFolder s _ new name parent _ creates _ =>
    have differs : ¬ new = id := by
      rintro rfl
      simp [Contents.folder?_eq_none_of_unused creates.unused] at stored
    exact (Contents.folder?_insert_folder ⟨new, name, parent⟩).trans ((if_neg differs).trans stored)
  | createFile _ _ creates _ => exact newFile creates.unused stored
  | replace _ displaces creates =>
    exact newFile creates.unused ((MemoryStore.folder?_takeOut displaces.storedExisting _ _).trans stored)
  | deleteFolder other | takeOut other | deleteFile other => simp [other] at copy
  | relist other | displace other | reparent other | dissolve other => simp [other] at copy
  | relocateFolder other | relocateFile other | relabelFile other | retitleFile other =>
    simp [other] at copy

namespace Request

variable {depth : Nat} {request : Request} {cabinet after : Cabinet τ} {target : EntityId}
  {result : Except RequestError Report}

/-- The folder that takes what is moved is neither moved nor removed nor renamed. -/
theorem folder?_plan (ran : request.plan setup.host depth cabinet = some (result, after))
    (destination : request.destination = .ofFolder target)
    (bulk : request.modeIn cabinet.store.contents = .bulk) :
    after.store.contents.folder? target = cabinet.store.contents.folder? target := by
  rcases classifyAndRun_cases ran with ⟨_, _, _, _, store, _⟩ | ⟨between, _, report, _, store, _, _, ran⟩
  · rw [store]
  · rw [bulk] at ran
    obtain ⟨ended, desk, worked, _, rfl⟩ := work_of_run ran
    have job := (Desk.chain_sameFolder setup target).toJobLink
    have links : Action.Links (Desk.SameFolder target)
        (workAll setup.host depth .move .bulk request) := by
      unfold workAll
      rw [destination]
      exact .inLevel job (.workOff job fun path _ => Action.sameFolder_movePath depth target path)
    have stays : desk.world.store.contents.folder? target = between.store.contents.folder? target :=
      links _ _ _ worked
    rw [stays, store]

/-- Nor is the one that takes what is copied. -/
theorem folder?_copy {folder : Folder}
    (ran : request.copy setup.host depth cabinet = some (result, after))
    (stored : cabinet.store.contents.folder? target = some folder) :
    after.store.contents.folder? target = some folder := by
  have ran : (Order.copy request).run setup.host depth cabinet = some (result, after) := ran
  refine (Order.throughout (P := fun c => c.folder? target = some folder) ran ?_ ?_ stored).1
  · rintro ⟨⟩
  · exact fun step => step.folder?_of_copy rfl

end Request

/-- After a request of this kind, the next one into the same place is of this kind. -/
theorem Order.rules_of_bulk {depth : Nat} {order : Order} {cabinet after : Cabinet τ}
    {result : Except RequestError Report}
    (ran : order.run setup.host depth cabinet = some (result, after))
    (bulk : (order.rules cabinet.store.contents).mode = .bulk) :
    order.rules after.store.contents = order.rules cabinet.store.contents := by
  cases order with
  | plan request =>
    replace bulk : request.modeIn cabinet.store.contents = .bulk := bulk
    obtain ⟨target, destination, folder, stored⟩ := Request.destination_of_bulk bulk
    have stays := Request.folder?_plan ran destination bulk
    have again := Request.bulk_of_destination destination ⟨folder, stays.trans stored⟩
    simp only [rules, bulk, again]
  | copy request =>
    replace bulk : request.modeIn cabinet.store.contents = .bulk := bulk
    obtain ⟨target, destination, folder, stored⟩ := Request.destination_of_bulk bulk
    have again := Request.bulk_of_destination destination ⟨folder, Request.folder?_copy ran stored⟩
    simp only [rules, bulk, again]
  | delete paths => rfl

end Filing
