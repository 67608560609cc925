import Filing.Proofs.Joining

/-!
# Loops of folders

Folders may name a parent that is not stored. Going up ends there, so such a folder does not count as
lying inside anything else.

Moving into a folder and deleting close no loop (`Order.loopFree_throughout`). What creates folders or
changes their identifiers may, by an identifier that nobody uses but that some folder names as its
parent (`Order.not_loopFree_orphaned`). Where no such identifier comes into use, all requests keep
folders free of loops (`Order.loopFree_of_unclaimed`).
-/
namespace Filing

open Contents

variable {τ : Type} {setup : Setup τ}

/-- What a step does to folders. -/
inductive Reshaped (rules : Rules) (store : MemoryStore) (c : Contents) : Prop
  | same (same : ∀ id, c.folder? id = store.contents.folder? id)
  | reparented {folder target} (move : rules.operation = .move)
      (reparents : Reparents store folder target)
      (contents : c = store.contents.insert (.folder { folder with parent := some target }))
  | dissolved {id} (notCopy : rules.operation ≠ .copy) (dissolves : Dissolves store id)
      (contents : c = store.contents.erase id)
  | created {id name parent} (copy : rules.operation = .copy) (creates : Creates store id parent)
      (contents : c = store.contents.insert (.folder { id, name, parent }))

theorem Step.reshaped {rules : Rules} {before after : Stage} (step : Step rules before after) :
    Reshaped rules before.store after.store.contents := by
  -- Where a file is saved there is no folder, or else that folder would be gone.
  have saved {store : MemoryStore} {file : File} (noFolder : store.contents.folder? file.id = none) :
      Reshaped rules store (store.save (.file file)).contents :=
    .same (folder?_insert_file_of_noFolder noFolder)
  cases step with
  | evict _ displaces => exact .same (MemoryStore.folder?_takeOut displaces.storedExisting _)
  | relist _ _ relists _ => exact saved (folder?_eq_none_of_file? relists.stored)
  | @displace store _ file existing source target _ _ displaces relists =>
    have out := MemoryStore.folder?_takeOut displaces.storedExisting target
    have noFolder : (store.takeOut existing target).contents.folder?
        (file.reparent source target).1.id = none :=
      (out file.id).trans (folder?_eq_none_of_file? relists.stored)
    exact .same fun id => (folder?_insert_file_of_noFolder noFolder id).trans (out id)
  | reparent move _ reparents _ => exact .reparented move reparents rfl
  | merge _ => exact .same fun _ => rfl
  | dissolve move _ dissolves => exact .dissolved (by simp [move]) dissolves rfl
  | createFolder copy creates _ => exact .created copy creates rfl
  | createFile _ _ creates _ => exact saved (folder?_eq_none_of_unused creates.unused)
  | @replace store _ source existing id target _ displaces creates =>
    have out := MemoryStore.folder?_takeOut displaces.storedExisting target
    have noFolder := folder?_eq_none_of_unused creates.unused
    exact .same fun x => (folder?_insert_file_of_noFolder noFolder x).trans (out x)
  | deleteFolder delete dissolves => exact .dissolved (by simp [delete]) dissolves rfl
  | takeOut _ stored _ _ => exact .same (MemoryStore.folder?_takeOut stored _)
  | deleteFile _ stored _ =>
    exact .same (folder?_erase_of_noFolder (folder?_eq_none_of_file? stored))
  | relocateFolder move _ reparents => exact .reparented move reparents rfl
  | relocateFile _ _ relists => exact saved (folder?_eq_none_of_file? relists.stored)
  | @relabelFile store _ file id _ _ stored unused _ =>
    have out := folder?_erase_of_noFolder (folder?_eq_none_of_file? stored)
    have noFolder : Contents.folder? (store.contents.erase file.id) id = none :=
      (out id).trans (folder?_eq_none_of_unused unused)
    exact .same fun x => (folder?_insert_file_of_noFolder noFolder x).trans (out x)
  | retitleFile _ _ stored => exact saved (folder?_eq_none_of_file? stored)

/-- Only a new folder can close a loop. -/
theorem Step.loopFree {rules : Rules} {before after : Stage} (step : Step rules before after)
    (notCopy : rules.operation ≠ .copy) (loopFree : before.store.contents.LoopFree) :
    after.store.contents.LoopFree := by
  cases step.reshaped with
  | same same => exact loopFree.congr same
  | reparented _ reparents contents => exact contents ▸ reparents.loopFree loopFree
  | dissolved _ _ contents => exact contents ▸ loopFree.erase _
  | created copy _ _ => exact absurd copy notCopy

namespace Order

variable {depth : Nat} {order : Order} {cabinet after : Cabinet τ} {result : Except RequestError Report}

/-- Moving, merging and deleting close no loop, whatever folders point at and whichever calls fail. -/
theorem loopFree_throughout (ran : order.run setup.host depth cabinet = some (result, after))
    (plain : ¬ order.RenamesFolder) (notCopy : ∀ request, order ≠ .copy request)
    (loopFree : cabinet.store.contents.LoopFree) :
    after.store.contents.LoopFree ∧ ∃ extra, after.log = cabinet.log ++ extra ∧
      ∀ entry ∈ extra, entry.contents.LoopFree := by
  have operation : (order.rules cabinet.store.contents).operation ≠ .copy := by
    cases order with
    | plan _ => rintro ⟨⟩
    | copy request => exact absurd rfl (notCopy request)
    | delete _ => rintro ⟨⟩
  exact throughout ran plain (fun step loopFree => step.loopFree operation loopFree) loopFree

end Order

/-! ## New identifiers -/

namespace Contents

/-- Some folder names `id` as its parent, but no such folder is stored. -/
def Dangling (c : Contents) (id : EntityId) : Prop := (∃ x, c.Inside x id) ∧ c.folder? id = none

/-- Folders were added to those of `c`, and whatever dangles now did so before. There is no loop
unless something that dangled has come into being. -/
structure Extends (c c' : Contents) : Prop where
  folders : ∀ {id folder}, c.folder? id = some folder → c'.folder? id = some folder
  dangling : ∀ {id}, c'.Dangling id → c.Dangling id
  loopFree : c'.LoopFree ∨ ∃ id folder, c.Dangling id ∧ c'.folder? id = some folder

theorem Extends.refl {c : Contents} (loopFree : c.LoopFree) : Extends c c :=
  ⟨fun found => found, fun dangling => dangling, .inl loopFree⟩

/-- Going up to what is not stored ends in something that dangles. -/
theorem Dangling.of_below {c : Contents} {a id : EntityId} {folder : Folder}
    (stored : c.folder? a = some folder) (missing : c.folder? id = none) (below : c.Below a id) :
    c.Dangling id := by
  rcases Relation.ReflTransGen.cases_tail below with same | ⟨x, _, inside⟩
  · simp [← same, missing] at stored
  · exact ⟨⟨x, inside⟩, missing⟩

end Contents

theorem Step.extends {rules : Rules} {before after : Stage} {start : Contents}
    (step : Step rules before after) (copy : rules.operation = .copy)
    (soFar : start.Extends before.store.contents) : start.Extends after.store.contents := by
  cases step.reshaped with
  | same same =>
    have inside (x id : EntityId) : after.store.contents.Inside x id ↔
        before.store.contents.Inside x id := by
      simp [Inside, parentOf, same]
    refine ⟨fun found => (same _).trans (soFar.folders found), fun dangling => ?_, ?_⟩
    · apply soFar.dangling
      simpa [Dangling, inside, same] using dangling
    · refine soFar.loopFree.imp (fun loopFree => loopFree.congr same) ?_
      rintro ⟨id, folder, dangled, found⟩
      exact ⟨id, folder, dangled, (same id).trans found⟩
  | reparented move _ _ => simp [copy] at move
  | dissolved notCopy _ _ => exact absurd copy notCopy
  | @created id name parent _ creates contents =>
    have missing := folder?_eq_none_of_unused creates.unused
    -- The new folder takes nobody's place, and its parent is there.
    have stays {x : EntityId} {folder : Folder}
        (found : before.store.contents.folder? x = some folder) :
        after.store.contents.folder? x = some folder := by
      rw [contents, folder?_insert_folder, if_neg, found]
      rintro rfl
      simp [missing] at found
    refine ⟨fun found => stays (soFar.folders found), ?_, ?_⟩
    -- Nothing that is missing is named by the new folder only.
    · rintro up ⟨⟨x, inside⟩, gone⟩
      rw [contents, folder?_insert_folder] at gone
      split at gone
      · cases gone
      refine soFar.dangling ⟨⟨x, ?_⟩, gone⟩
      rw [contents, Inside, parentOf_insert_folder] at inside
      split at inside
      next here =>
        obtain ⟨above, found⟩ := creates.destination up inside
        simp [gone] at found
      next => exact inside
    -- If the new folder closes a loop, its identifier was met on the way up from its parent.
    · rcases soFar.loopFree with loopFree | ⟨claimed, folder, dangled, found⟩
      · by_cases under : ∃ target, parent = some target ∧ before.store.contents.Below target id
        · obtain ⟨target, rfl, below⟩ := under
          obtain ⟨above, found⟩ := creates.destination target rfl
          refine .inr ⟨id, ⟨id, name, some target⟩, soFar.dangling (.of_below found missing below), ?_⟩
          simp [contents]
        · refine .inl (contents ▸ loopFree.insert_folder fun target up below => ?_)
          exact under ⟨target, up, below⟩
      · exact .inr ⟨claimed, folder, dangled, stays found⟩

namespace Desk.Relocated

variable {desk after : Desk (Cabinet τ)} {folder : Folder}

theorem loopFree (relocated : desk.Relocated after folder)
    (loopFree : desk.world.store.contents.LoopFree) : after.world.store.contents.LoopFree := by
  cases relocated with
  | stays kept _ => exact kept.store ▸ loopFree
  | moved into reparents changed =>
    cases into
    exact changed.store_eq ▸ reparents.loopFree loopFree

/-- Where a folder is relocated to, something is stored. -/
theorem dangling (relocated : desk.Relocated after folder) {id : EntityId}
    (dangling : after.world.store.contents.Dangling id) : desk.world.store.contents.Dangling id := by
  cases relocated with
  | stays kept _ => exact kept.store ▸ dangling
  | @moved old target into reparents changed =>
    cases into
    obtain ⟨⟨x, inside⟩, missing⟩ := dangling
    rw [changed.store_eq] at inside missing
    -- The folder and its destination are both stored, so the gap was there before.
    simp only [MemoryStore.save, folder?_insert_folder] at missing
    split at missing
    · cases missing
    refine ⟨⟨x, ?_⟩, missing⟩
    simp only [MemoryStore.save, Inside, parentOf_insert_folder] at inside
    split at inside
    · cases inside
      obtain ⟨above, found⟩ := reparents.destination
      simp [missing] at found
    · exact inside

end Desk.Relocated

/-- A folder that gets a new identifier closes no loop unless something pointed at that already. -/
theorem FolderRename.loopFree {setup : Setup τ} {desk after : Desk (Cabinet τ)}
    {id desired : EntityId} {target : Option EntityId} {result : Except RequestError Unit}
    (ended : FolderRename setup desk id target desired result after) (reliable : setup.Reliable)
    (loopFree : desk.world.store.contents.LoopFree)
    (unclaimed : ∀ id, desk.world.store.contents.Dangling id →
      after.world.store.contents.folder? id = none) : after.world.store.contents.LoopFree := by
  cases ended with
  | kept kept _ => exact kept.store ▸ loopFree
  | failed failed =>
    obtain ⟨_, kept, _⟩ := failed
    exact kept.store ▸ loopFree
  | @placed between _ listing folder _ listed sameId _ _ relocated ended _ =>
    subst sameId
    have placed := relocated.loopFree loopFree
    cases ended with
    | stays _ => exact placed
    | failed failed =>
      obtain ⟨_, kept, _⟩ := failed
      exact kept.store ▸ placed
    | @renamed named renamed contents unused _ relabelled rewrote _ _ =>
      obtain ⟨apart, children⟩ := relocated.children loopFree listed
      have whole := relabelled apart children
      have same : named.world.store.contents = contents := by rw [rewrote.store]
      -- Counting the renaming leaves the store as it is.
      change ∀ id, _ → named.world.store.contents.folder? id = none at unclaimed
      change named.world.store.contents.LoopFree
      rw [same] at unclaimed ⊢
      refine whole.loopFree placed fun x inside => ?_
      -- Then the new identifier dangled, but now the folder is stored under it.
      have missing := folder?_eq_none_of_unused unused
      have gone := unclaimed renamed (relocated.dangling ⟨⟨x, inside⟩, missing⟩)
      have sameId : listing.id = folder.id := Contents.id_of_listing? listed
      rw [whole.folders, if_pos rfl, sameId, relocated.stored] at gone
      cases gone
    | broke _ _ broke => exact absurd broke.canFail reliable

namespace Request

/-- One folder gets a place and an identifier of its own. -/
theorem loopFree_renaming {depth : Nat} {request : Request} {cabinet after : Cabinet τ}
    {report : Report} {folder : EntityId} (reliable : setup.Reliable)
    (only : request.paths = [.ofFolder folder])
    (ran : request.run setup.host depth .move .single cabinet = some (report, after))
    (loopFree : cabinet.store.contents.LoopFree)
    (unclaimed : ∀ id, cabinet.store.contents.Dangling id → after.store.contents.folder? id = none) :
    after.store.contents.LoopFree := by
  obtain ⟨_, desk, worked, rfl, rfl⟩ := work_of_run ran
  -- Which identifiers come into use is known only at the end, so this is a condition there.
  have meets : (workAll setup.host depth .move .single request).Meets
      (request.desk .move .single cabinet) fun _ after =>
        (∀ id, cabinet.store.contents.Dangling id → after.world.store.contents.folder? id = none) →
          after.world.store.contents.LoopFree := by
    refine meets_workAll_only only (fun after store _ _ => ?_) fun begun looked => ?_
    · rw [store]
      exact loopFree
    have same : begun.world.store = cabinet.store := looked.store
    rw [workOn_renaming]
    split
    next desired _ =>
      refine (Action.meets_renameFolder depth folder _ desired).mono fun _ ended outcome => ?_
      rintro after store _ unclaimed
      rw [store] at unclaimed ⊢
      exact outcome.loopFree reliable (same ▸ loopFree) (same ▸ unclaimed)
    next =>
      refine .pure fun after store _ _ => ?_
      rw [store, same]
      exact loopFree
  exact meets _ _ worked unclaimed

end Request

/-- Folders stay free of loops if nothing comes into being that was named as a parent and missing. -/
theorem Order.loopFree_of_unclaimed {depth : Nat} {order : Order} {cabinet after : Cabinet τ}
    {result : Except RequestError Report} (reliable : setup.Reliable)
    (ran : order.run setup.host depth cabinet = some (result, after))
    (loopFree : cabinet.store.contents.LoopFree)
    (unclaimed : ∀ id, cabinet.store.contents.Dangling id → after.store.contents.folder? id = none) :
    after.store.contents.LoopFree := by
  by_cases renames : order.RenamesFolder
  · cases order with
    | plan request =>
      obtain ⟨named, folder, only⟩ := renames
      rcases Request.classifyAndRun_cases ran with
        ⟨_, _, _, canFail, _⟩ | ⟨between, _, report, _, store, _, _, ran⟩
      · exact absurd canFail reliable
      rw [Request.modeIn_of_leaf named only] at ran
      rw [← store] at loopFree unclaimed
      exact Request.loopFree_renaming reliable only ran loopFree unclaimed
    | copy _ => exact renames.elim
    | delete _ => exact renames.elim
  · cases order with
    | plan request => exact (loopFree_throughout ran renames (by rintro _ ⟨⟩) loopFree).1
    | copy request =>
      -- Copying only adds folders, so what would have closed a loop is still there.
      have grown := throughout ran renames (fun step soFar => step.extends rfl soFar)
        (.refl loopFree)
      rcases grown.1.loopFree with loopFree | ⟨id, folder, dangled, found⟩
      · exact loopFree
      · simp [unclaimed id dangled] at found
    | delete paths => exact (loopFree_throughout ran renames (by rintro _ ⟨⟩) loopFree).1

namespace Sample

/-- A folder of the same name in another drive. -/
def elsewhere : EntityId := ⟨⟨"e", by decide⟩, note.name⟩

/-- A folder whose parent is missing, and another one that has the name of that parent. -/
def orphaned : MemoryStore :=
  .ofEntities [.folder ⟨docs, "docs", some note⟩, .folder ⟨elsewhere, "note", none⟩]

/-- Copies the one into the other, under the identifier given or under its own. -/
def copyDown (leaf : Option EntityId) : Order :=
  .copy { paths := [.ofFolder elsewhere], destination := ⟨some docs, leaf⟩, interactive := false }

theorem inside_orphaned {x y : EntityId} (inside : orphaned.contents.Inside x y) :
    x = docs ∧ y = note := by
  simp only [orphaned, MemoryStore.ofEntities, Catalogue.ofList, List.foldl_cons, List.foldl_nil,
    Inside, parentOf_insert_folder] at inside
  split at inside
  · cases inside
  · split at inside
    next here =>
      cases inside
      exact ⟨here.symm, rfl⟩
    next => cases inside

theorem orphaned_loopFree : orphaned.contents.LoopFree := by
  intro x loop
  obtain ⟨y, up, below⟩ := Relation.TransGen.head'_iff.mp loop
  obtain ⟨rfl, rfl⟩ := inside_orphaned up
  rcases below_iff.mp below with same | ⟨_, up', _⟩
  · exact absurd same (by decide)
  · exact absurd (inside_orphaned up').1 (by decide)

end Sample

open Sample in
/-- The copy gets the identifier that the destination names as its parent. -/
theorem Order.not_loopFree_orphaned : orphaned.contents.LoopFree ∧ ∃ result after,
    (copyDown none).run Setup.quiet.host 9 ⟨orphaned, (), []⟩ = some (result, after) ∧
    ¬ after.store.contents.LoopFree := by
  refine ⟨orphaned_loopFree, ?_⟩
  have closed : (((copyDown none).run Setup.quiet.host 9 ⟨orphaned, (), []⟩).map fun outcome =>
      (outcome.2.store.contents.parentOf docs, outcome.2.store.contents.parentOf note)) =
      some (some note, some docs) := by decide +kernel
  obtain ⟨⟨result, after⟩, ran, found⟩ := Option.map_eq_some_iff.mp closed
  obtain ⟨up, upAgain⟩ := Prod.mk.inj found
  exact ⟨result, after, ran, fun loopFree => loopFree docs (.head up (.single upAgain))⟩

open Sample in
theorem Order.loopFree_of_unclaimed_orphaned : ∃ result after,
    (copyDown (some inner)).run Setup.quiet.host 9 ⟨orphaned, (), []⟩ = some (result, after) ∧
    after.store.contents.folder? inner = some ⟨inner, "inner", some docs⟩ ∧
    after.store.contents.LoopFree := by
  have copied : (((copyDown (some inner)).run Setup.quiet.host 9 ⟨orphaned, (), []⟩).map
      fun outcome => (outcome.2.store.contents.folder? inner,
        outcome.2.store.contents.folder? note)) =
      some (some ⟨inner, "inner", some docs⟩, none) := by decide +kernel
  obtain ⟨⟨result, after⟩, ran, found⟩ := Option.map_eq_some_iff.mp copied
  obtain ⟨foundInner, missing⟩ := Prod.mk.inj found
  refine ⟨result, after, ran, foundInner,
    Order.loopFree_of_unclaimed Setup.quiet_reliable ran orphaned_loopFree ?_⟩
  rintro id ⟨⟨x, inside⟩, _⟩
  rw [(inside_orphaned inside).2]
  exact missing

end Filing
