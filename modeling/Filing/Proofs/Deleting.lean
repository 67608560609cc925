import Filing.Proofs.Cleanly
import Filing.Proofs.Counting
import Filing.Proofs.Returning
import Filing.Proofs.Integrity

/-!
# Deleting folders
-/

namespace Filing

open Contents

variable {τ : Type} {setup : Setup τ} {rules : Rules}

namespace Action

theorem cleanly_deleteFile (id parent : EntityId) :
    Cleanly rules (deleteFile setup.host id (some parent)) fun s _ s' =>
      Cleared s.contents s'.contents ∅ fun x => {p | x = id ∧ p = parent} := by
  intro desk
  refine (meets_deleteFile id (some parent)).mono fun result after ended clean => ?_
  cases result with
  | error error =>
    refine ⟨ended.clean clean, ?_⟩
    rintro _ ⟨⟩
  | ok _ =>
    rcases ended with ⟨_, kept, unlisted⟩ | ⟨file, stored, listed, _, changed⟩
    -- A file that is not listed here is left alone, and there was nothing to clear.
    · refine ⟨kept.clean clean, fun _ _ => ?_⟩
      rw [kept.store]
      refine ⟨fun _ _ => by simp, fun x => .of_apart ?_⟩
      rintro file found p listed ⟨rfl, rfl⟩
      obtain ⟨_, ⟨⟩, absent⟩ := unlisted file found
      exact absent listed
    · refine ⟨changed.clean clean, fun _ _ => ?_⟩
      rw [changed.store_eq]
      cases id_of_file? stored
      exact MemoryStore.cleared_takeOut stored listed

theorem cleanly_deleteEmptied (id : EntityId) :
    Cleanly rules (deleteEmptied setup.host id) fun s _ s' =>
      id ∈ s.contents.folders → s.contents.Vacant id →
        Cleared s.contents s'.contents {id} fun _ => ∅ := by
  intro desk
  refine (meets_deleteEmptied id).mono fun result after ended clean => ?_
  cases result with
  | error error =>
    refine ⟨ended.clean clean, ?_⟩
    rintro _ ⟨⟩
  | ok _ =>
    rcases ended with ⟨_, kept, filled⟩ | ⟨dissolves, changed⟩
    · refine ⟨kept.clean clean, ?_⟩
      rintro _ _ ⟨folder, stored⟩ vacant
      exact absurd vacant (filled folder stored)
    · refine ⟨changed.clean clean, fun _ _ _ _ => ?_⟩
      rw [changed.store_eq]
      exact MemoryStore.cleared_discard dissolves.stored

/-- Everything under these folders is gone from the store. -/
def ClearedUnder (ids : List EntityId) (s s' : MemoryStore) : Prop :=
  s.contents.LoopFree →
    Cleared s.contents s'.contents (s.contents.underAny ids) fun _ => s.contents.underAny ids

namespace ClearedUnder

variable {s m s' : MemoryStore} {ids : List EntityId} {id : EntityId}

theorem nil (s : MemoryStore) : ClearedUnder [] s s := fun _ =>
  (Cleared.refl s.contents).congr (by simp [underAny]) (by simp [underAny])

theorem concat (first : ClearedUnder ids s m)
    (next : m.contents.LoopFree → Cleared m.contents s'.contents (m.contents.under id)
      fun _ => m.contents.under id) : ClearedUnder (ids ++ [id]) s s' := fun loopFree =>
  (first loopFree).concat (next ((first loopFree).loopFree loopFree))

end ClearedUnder

/-- The files of a folder leave it. -/
theorem cleanly_deleteFiles (files : List EntityId) (id : EntityId) :
    Cleanly rules (files.forM fun child => item setup.host.job (deleteFile setup.host child (some id)))
      fun s _ s' => Cleared s.contents s'.contents ∅ fun x => {p | x ∈ files ∧ p = id} := by
  refine .forM (fun s seen s' =>
    Cleared s.contents s'.contents ∅ fun x => {p | x ∈ seen ∧ p = id}) (fun s => ?_) fun file => ?_
  · exact (Cleared.refl s.contents).congr rfl (by simp)
  · refine (Cleanly.item (cleanly_deleteFile file id)).mono ?_
    intro m _ s' step s seen later _ soFar
    refine (soFar.trans step).congr (by simp) fun _ p _ => ?_
    simp [or_and_right]

/-- A folder goes with everything under it. -/
theorem cleanly_deleteFolder (depth : Nat) (id : EntityId) :
    Cleanly rules (deleteFolder setup.host depth id) fun s _ s' => s.contents.LoopFree →
      Cleared s.contents s'.contents (s.contents.under id) fun _ => s.contents.under id := by
  induction depth generalizing id with
  | zero => exact .tooDeep
  | succ depth ih =>
    unfold deleteFolder
    refine .look_ok (fun store => looks_folder setup store id) fun found => ?_
    split
    next =>
      refine .pure fun s missing _ => ?_
      have absent : id ∉ s.contents.folders := by
        rintro ⟨folder, stored⟩
        simp [listing?_eq_none_iff.mp missing.symm] at stored
      rw [under_of_not_mem_folders absent]
      exact .refl s.contents
    next listing =>
      have folders : Cleanly rules (listing.childFolders.forM fun child =>
          item setup.host.job (deleteFolder setup.host depth child)) fun s _ s' =>
          ClearedUnder listing.childFolders s s' := by
        refine .forM (fun s seen s' => ClearedUnder seen s s') (.nil ·) fun child => ?_
        refine (Cleanly.item (ih child)).mono ?_
        intro m _ s' step s seen later _ soFar
        exact soFar.concat step
      refine .require (.inLevel ?_)
      refine .bind folders fun _ => .bind (cleanly_deleteFiles listing.childFiles id) fun _ => ?_
      refine (Cleanly.item (cleanly_deleteEmptied id)).mono ?_
      intro s₂ _ s' last s₁ files s folders found loopFree
      obtain ⟨stored, rfl', rfl''⟩ := listing?_eq_some_iff.mp found.symm
      rw [rfl'] at folders
      rw [rfl''] at files
      have here : id ∈ s.contents.folders := ⟨_, stored⟩
      -- What was listed at first is all there was, so the folder is empty by now.
      obtain ⟨still, vacant⟩ := Cleared.vacant here loopFree (folders loopFree) files
      exact Cleared.folder here (folders loopFree) files (last still vacant)

end Action

/-! ## Coming to an end -/

/-- How a deletion fares: nothing comes to lie elsewhere, what is allowed stays allowed, and nothing
fails that is not denied. -/
structure Desk.Fares (setup : Setup τ) (first : Desk (Cabinet τ)) (result : Except RequestError Unit)
    (last : Desk (Cabinet τ)) : Prop where
  fewer : ∀ {x parent}, last.world.store.contents.Inside x parent →
    first.world.store.contents.Inside x parent
  allows : last.world.store.allows = first.world.store.allows
  unfailing : setup.Reliable → first.world.store.Permissive → result = .ok () ∧
    last.report.failures = first.report.failures ∧ last.world.store.Permissive

namespace Desk

variable {first second third : Desk (Cabinet τ)} {extra : List Entry} {store : MemoryStore}
  {change : Tally → Tally} {result : Except RequestError Unit} {error : RequestError}

theorem Kept.fares (kept : first.Kept second extra) : first.Fares setup (.ok ()) second where
  fewer inside := kept.store ▸ inside
  allows := kept.store ▸ rfl
  unfailing _ permissive := ⟨rfl, kept.failures, kept.store ▸ permissive⟩

theorem Failed.fares (failed : first.Failed setup.faults (Refused first.world.store) error second) :
    first.Fares setup (.error error) second := by
  obtain ⟨extra, kept, ended⟩ := failed
  refine ⟨fun inside => kept.store ▸ inside, kept.store ▸ rfl, fun reliable permissive => ?_⟩
  rcases ended with ⟨permission, id, denied, _⟩ | faulted
  · simp [permissive permission id] at denied
  · exact absurd faulted.canFail reliable

theorem Changed.fares (changed : first.Changed second store change)
    (fewer : ∀ {x parent}, store.contents.Inside x parent →
      first.world.store.contents.Inside x parent)
    (allows : store.allows = first.world.store.allows) : first.Fares setup (.ok ()) second := by
  have same : second.world.store.allows = first.world.store.allows := by rw [changed.store_eq, allows]
  refine ⟨fun inside => ?_, same, fun _ permissive => ⟨rfl, changed.failures, ?_⟩⟩
  · rw [changed.store_eq] at inside
    exact fewer inside
  · intro permission id
    rw [same]
    exact permissive permission id

theorem Fares.trans (fares : first.Fares setup (.ok ()) second)
    (fares' : second.Fares setup result third) : first.Fares setup result third where
  fewer inside := fares.fewer (fares'.fewer inside)
  allows := fares'.allows.trans fares.allows
  unfailing reliable permissive := by
    obtain ⟨_, failures, permissive⟩ := fares.unfailing reliable permissive
    obtain ⟨ended, failures', permissive⟩ := fares'.unfailing reliable permissive
    exact ⟨ended, failures'.trans failures, permissive⟩

/-- So nothing becomes circular. -/
theorem Fares.straight (fares : first.Fares setup result second) {id : EntityId}
    (straight : ¬ first.world.store.Circular id) : ¬ second.world.store.Circular id :=
  fun circular => straight (MemoryStore.preceding_mono fares.fewer fares.allows id circular)

theorem Fares.ncard_preceding_le (fares : first.Fares setup result second) (id : EntityId) :
    (second.world.store.preceding id).ncard ≤ (first.world.store.preceding id).ncard :=
  Set.ncard_le_ncard (MemoryStore.preceding_mono fares.fewer fares.allows id)
    (MemoryStore.finite_preceding _ id)

end Desk

namespace Action

variable {desk : Desk (Cabinet τ)}

theorem Ends.item_fares {work : Action (Cabinet τ) Unit} (ends : work.Ends desk (desk.Fares setup)) :
    (Action.item setup.host.job work).Ends desk (desk.Fares setup) := by
  refine ends.item (fun between after fares looked => fares.trans looked.kept.fares) ?_
  intro error between after fares looked
  refine ⟨fun inside => fares.fewer (looked.store ▸ inside), looked.store ▸ fares.allows,
    fun reliable permissive => ?_⟩
  obtain ⟨⟨⟩, _⟩ := fares.unfailing reliable permissive

theorem ends_deleteFile (id : EntityId) (parent : Option EntityId) :
    (deleteFile setup.host id parent).Ends desk (desk.Fares setup) := by
  refine ⟨returns_deleteFile id parent desk, (meets_deleteFile id parent).mono ?_⟩
  intro result after ended
  match result, ended with
  | .error _, failed => exact failed.fares
  | .ok _, .inl ⟨_, kept, _⟩ => exact kept.fares
  | .ok _, .inr ⟨file, stored, ended⟩ =>
    cases id_of_file? stored
    cases parent with
    | none =>
      refine ended.2.fares (fun {x _} inside => ?_) rfl
      have same := folder?_erase_of_noFolder (folder?_eq_none_of_file? stored) x
      rwa [Inside, parentOf, MemoryStore.discard, same] at inside
    | some parent =>
      obtain ⟨listed, _, changed⟩ := ended
      have cleared := MemoryStore.cleared_takeOut stored listed
      exact changed.fares (fun inside => (cleared.inside_iff.mp inside).1)
        (MemoryStore.allows_takeOut _ file parent)

theorem ends_deleteEmptied (id : EntityId) :
    (deleteEmptied setup.host id).Ends desk (desk.Fares setup) := by
  refine ⟨(returns_removeIfEmpty id desk).andThen fun removed desk => ?_,
    (meets_deleteEmptied id).mono ?_⟩
  · split
    · exact .count _ desk
    · exact .pure () desk
  · intro result after ended
    match result, ended with
    | .error _, failed => exact failed.fares
    | .ok _, .inl ⟨_, kept, _⟩ => exact kept.fares
    | .ok _, .inr ⟨dissolves, changed⟩ =>
      have cleared := MemoryStore.cleared_discard dissolves.stored
      exact changed.fares (fun inside => (cleared.inside_iff.mp inside).1) rfl

/-- What fares well one after another does so together. -/
theorem Ends.bind_fares {action : Action (Cabinet τ) Unit} {next : Unit → Action (Cabinet τ) Unit}
    (first : action.Ends desk (desk.Fares setup))
    (rest : ∀ later, desk.Fares setup (.ok ()) later → (next ()).Ends later (later.Fares setup)) :
    (action >>= next).Ends desk (desk.Fares setup) :=
  first.bind (fun _ later fares => (rest later fares).mono fun _ _ => fares.trans) fun _ _ fares => fares

theorem Ends.forM_fares {items : List EntityId} {work : EntityId → Action (Cabinet τ) Unit}
    (each : ∀ child ∈ items, ∀ later, desk.Fares setup (.ok ()) later →
      (work child).Ends later (later.Fares setup)) :
    (items.forM work).Ends desk (desk.Fares setup) := by
  refine .forM (fun _ later => desk.Fares setup (.ok ()) later) (Desk.Kept.refl desk).fares ?_
    fun _ fares => fares
  intro seen child later split between fares
  refine (each child (by simp [split]) between fares).mono fun result after fares' => ?_
  cases result with
  | ok _ => exact fares.trans fares'
  | error _ => exact fares.trans fares'

theorem Ends.inLevel_fares {total : Nat} {work : Action (Cabinet τ) Unit}
    (inside : ∀ pushed, desk.Looked pushed [] → work.Ends pushed (pushed.Fares setup)) :
    (Action.inLevel setup.host.job total work).Ends desk (desk.Fares setup) := by
  have fares (pushed : Desk (Cabinet τ)) (looked : desk.Looked pushed []) :
      work.Ends pushed (desk.Fares setup) :=
    (inside pushed looked).mono fun _ _ => looked.kept.fares.trans
  exact .inLevel fares (fun _ _ fares looked => fares.trans looked.kept.fares) fun _ _ fares => fares

theorem ends_deleteFolder (depth : Nat) (id : EntityId) (straight : ¬ desk.world.store.Circular id)
    (enough : (desk.world.store.preceding id).ncard < depth) :
    (deleteFolder setup.host depth id).Ends desk (desk.Fares setup) := by
  induction depth generalizing id desk with
  | zero => exact absurd enough (Nat.not_lt_zero _)
  | succ depth ih =>
    unfold deleteFolder
    refine .lookFolder (.refl desk) (fun _ _ failed => failed.fares)
      (fun _ _ kept _ => .pure kept.fares) fun listing _ extra kept found => ?_
    refine .require kept (fun _ _ failed => failed.fares) (fun _ refused => refused) ?_
    intro asked extra kept permitted
    refine Ends.mono (Ends.inLevel_fares fun pushed looked => ?_) fun _ _ => kept.fares.trans
    have soFar : desk.Fares setup (.ok ()) pushed := kept.fares.trans looked.kept.fares
    refine .bind_fares (.forM_fares fun child member later fares => .item_fares ?_) fun later _ => ?_
    -- Deletion puts nothing below any folder, so the depth that sufficed still does.
    · have fares := soFar.trans fares
      have precedes : desk.world.store.Precedes child id :=
        ⟨inside_of_mem_listing found member, permitted⟩
      refine ih child (fares.straight fun circular => straight (circular.of_precedes precedes)) ?_
      have less := MemoryStore.ncard_preceding_lt straight precedes
      exact lt_of_le_of_lt (fares.ncard_preceding_le child) (by omega)
    · refine .bind_fares (.forM_fares fun child _ later _ => .item_fares ?_) fun later _ => ?_
      · exact ends_deleteFile child (some id)
      · exact .item_fares (ends_deleteEmptied id)

theorem ends_deletePath (depth : Nat) (path : Path)
    (straight : ∀ id, path = .ofFolder id → ¬ desk.world.store.Circular id)
    (enough : ∀ id, (desk.world.store.preceding id).ncard < depth) :
    (deletePath setup.host depth path).Ends desk (desk.Fares setup) := by
  obtain ⟨folder, file⟩ := path
  cases file with
  | some file => exact ends_deleteFile file folder
  | none =>
    cases folder with
    | none => exact .pure (Desk.Kept.refl desk).fares
    | some folder => exact ends_deleteFolder depth folder (straight folder rfl) (enough folder)

theorem ends_deletePaths (depth : Nat) (paths : List Path)
    (straight : ∀ id, .ofFolder id ∈ paths → ¬ desk.world.store.Circular id)
    (enough : ∀ id, (desk.world.store.preceding id).ncard < depth) :
    (Request.workOff setup.host (deletePath setup.host depth) paths).Ends desk (desk.Fares setup) := by
  induction paths generalizing desk with
  | nil => exact .pure (Desk.Kept.refl desk).fares
  | cons path later ih =>
    unfold Request.workOff
    refine (Ends.turn setup.job.isCancelled).bind ?_ (by rintro _ _ ⟨⟨_, ⟨⟩⟩, _⟩)
    rintro cancelled asked ⟨_, looked⟩
    refine Ends.mono ?_ fun _ _ => looked.kept.fares.trans
    split
    · exact ⟨⟨_, rfl⟩, .modify ⟨fun inside => inside, rfl, fun _ permissive => ⟨rfl, rfl, permissive⟩⟩⟩
    · rw [← looked.store] at straight enough
      refine .bind_fares (.item_fares (ends_deletePath depth path ?_ enough)) fun rest fares => ?_
      · exact fun id here => straight id (by simp [here])
      · refine ih (fun id member => fares.straight (straight id (by simp [member]))) fun id => ?_
        exact lt_of_le_of_lt (fares.ncard_preceding_le id) (enough id)

/-- Everything under the named folders goes. -/
theorem cleanly_deletePaths (depth : Nat) (ids : List EntityId) :
    Cleanly rules (Request.workOff setup.host (deletePath setup.host depth) (ids.map .ofFolder))
      fun s _ s' => ClearedUnder ids s s' := by
  have named : (ids.map Path.ofFolder).filterMap Path.folder = ids := by
    simp [Path.ofFolder, List.filterMap_map, Function.comp_def]
  have acc : Cleanly rules
      (Request.workOff setup.host (deletePath setup.host depth) (ids.map .ofFolder))
      fun s _ s' => ClearedUnder ((ids.map Path.ofFolder).filterMap Path.folder) s s' := by
    refine .workOff (fun s seen s' => ClearedUnder (seen.filterMap Path.folder) s s') (.nil ·) ?_
    intro path member
    obtain ⟨id, _, rfl⟩ := List.mem_map.mp member
    refine (cleanly_deleteFolder depth id).mono fun m _ s' step s seen before => ?_
    simpa [Path.ofFolder] using before.concat step
  rwa [named] at acc

theorem balanced_deletePaths (depth : Nat) (ids : List EntityId) :
    Links Desk.Balanced
      (Request.workOff setup.host (deletePath setup.host depth) (ids.map .ofFolder)) := by
  refine .workOff (Desk.chain_balanced setup).toJobLink fun path member => ?_
  obtain ⟨id, _, rfl⟩ := List.mem_map.mp member
  exact balanced_deleteFolder depth id

end Action

/-- What deleting the folders `gone` comes to. -/
structure Contents.Deleted (c c' : Contents) (gone : Set EntityId) (tally : Tally) : Prop where
  cleared : Cleared c c' gone fun _ => gone
  foldersDeleted : tally.foldersDeleted = gone.ncard
  filesDeleted : tally.filesDeleted = (c.files \ c'.files).ncard
  leftFolders : tally.filesDeleted + tally.filesDetached = {l ∈ c.listings | l.2 ∈ gone}.ncard

/-- The counts follow from what is gone. -/
theorem Contents.Deleted.of_balanced {before after : Stage} {gone : Set EntityId}
    (cleared : Cleared before.store.contents after.store.contents gone fun _ => gone)
    (stored : gone ⊆ before.store.contents.folders) (balanced : before.Balanced after)
    (fresh : before.tally = {}) :
    Deleted before.store.contents after.store.contents gone after.tally := by
  -- Each count makes up for what has become fewer, and what has become fewer is what was cleared.
  obtain ⟨folders, files, listings⟩ := balanced
  rw [fresh] at folders files listings
  have fewerFiles : after.store.contents.files ⊆ before.store.contents.files := by
    intro id still
    obtain ⟨file, found, _⟩ := cleared.mem_files_iff.mp still
    exact ⟨file, found⟩
  refine ⟨cleared, ?_, ?_, ?_⟩
  · have parts := Set.ncard_sdiff_add_ncard_of_subset stored before.store.contents.finite_folders
    rw [← cleared.folders_eq] at parts
    simp only at folders
    omega
  · have parts := Set.ncard_sdiff_add_ncard_of_subset fewerFiles before.store.contents.finite_files
    simp only at files
    omega
  · have parts := Set.ncard_inter_add_ncard_sdiff_eq_ncard before.store.contents.listings
      {l | l.2 ∈ gone} before.store.contents.finite_listings
    rw [← cleared.listings_eq] at parts
    change _ = (before.store.contents.listings ∩ {l | l.2 ∈ gone}).ncard
    simp only at listings
    omega

namespace Request

/-- The request that deletes these folders. -/
def deletion (ids : List EntityId) : Request where
  paths := ids.map .ofFolder
  destination := .nowhere
  interactive := false

theorem cleanly_deletion (depth : Nat) (ids : List EntityId) :
    Action.Cleanly rules (workAll setup.host depth .delete .bulk (deletion ids))
      fun s _ s' => Action.ClearedUnder ids s s' :=
  .inLevel (Action.cleanly_deletePaths depth ids)

theorem balanced_deletion (depth : Nat) (ids : List EntityId) :
    Action.Links Desk.Balanced (workAll setup.host depth .delete .bulk (deletion ids)) :=
  .inLevel (Desk.chain_balanced setup).toJobLink (Action.balanced_deletePaths depth ids)

/-- Whatever is deleted, folders and files. -/
theorem ends_deleting {desk : Desk (Cabinet τ)} (depth : Nat) (request : Request)
    (straight : ∀ id, .ofFolder id ∈ request.paths → ¬ desk.world.store.Circular id)
    (enough : ∀ id, (desk.world.store.preceding id).ncard < depth) :
    (workAll setup.host depth .delete .bulk request).Ends desk (desk.Fares setup) := by
  refine .inLevel_fares fun pushed looked => ?_
  rw [← looked.store] at straight enough
  exact Action.ends_deletePaths depth request.paths straight enough

theorem ends_deletion {desk : Desk (Cabinet τ)} (depth : Nat) (ids : List EntityId)
    (loopFree : desk.world.store.contents.LoopFree)
    (enough : ∀ id, (desk.world.store.contents.beneath id).ncard < depth) :
    (workAll setup.host depth .delete .bulk (deletion ids)).Ends desk (desk.Fares setup) := by
  refine ends_deleting depth (deletion ids)
    (fun id _ => MemoryStore.not_circular_of_loopFree loopFree id) fun id => ?_
  exact lt_of_le_of_lt (Set.ncard_le_ncard (MemoryStore.preceding_subset_beneath _ id)
    (finite_beneath _ id)) (enough id)

/-- Every deletion comes to an end that would not have to delete a named folder before itself. -/
theorem delete_returns {cabinet : Cabinet τ} {paths : List Path}
    (straight : ∀ id, .ofFolder id ∈ paths → ¬ cabinet.store.Circular id) {depth : Nat}
    (enough : cabinet.store.contents.folders.ncard < depth) :
    ∃ report after, delete setup.host depth paths cabinet = some (report, after) := by
  have deep (id : EntityId) : (cabinet.store.preceding id).ncard < depth := by
    have stored : cabinet.store.preceding id ⊆ cabinet.store.contents.folders :=
      (cabinet.store.preceding_subset_beneath id).trans (beneath_subset_folders _ id)
    have fewer := Set.ncard_le_ncard stored cabinet.store.contents.finite_folders
    omega
  let request : Request := { paths, destination := .nowhere, interactive := false }
  have ends : (workAll setup.host depth .delete .bulk request).Ends (request.desk .delete .bulk cabinet)
      ((request.desk .delete .bulk cabinet).Fares setup) := ends_deleting depth request straight deep
  obtain ⟨result, desk, worked, _⟩ := ends.outcome
  refine ⟨desk.report, desk.world, ?_⟩
  change run setup.host depth .delete .bulk request cabinet = _
  rw [run_eq, worked]
  rfl

/-- In loop-free contents, deleting folders comes to one and the same thing in whichever order: once
nothing failed and nothing was left out, exactly the folders under the named ones are gone, every
file has left them, and all of that was counted. A report comes of it unless folders lie deeper than
allowed, and if nothing is denied there are no failures in it. -/
theorem delete_exact {cabinet : Cabinet τ} (loopFree : cabinet.store.contents.LoopFree)
    (ids : List EntityId) :
    (∀ depth report after, delete setup.host depth (ids.map .ofFolder) cabinet = some (report, after) →
      report.cancelled = false → report.failures = [] →
      Deleted cabinet.store.contents after.store.contents (cabinet.store.contents.underAny ids)
        report.tally) ∧
    ∀ depth, cabinet.store.contents.folders.ncard < depth → ∃ report after,
      delete setup.host depth (ids.map .ofFolder) cabinet = some (report, after) ∧
      (setup.Reliable → cabinet.store.Permissive → report.failures = []) := by
  constructor
  · intro depth report after ran whole unfailing
    obtain ⟨result, desk, worked, rfl, rfl⟩ := work_of_run ran
    have ended := meets_workAll _ result desk worked
    subst ended
    have balanced := balanced_deletion depth ids _ _ desk worked
    have traces : Action.Traces ⟨.delete, .bulk, false⟩
        (workAll setup.host depth .delete .bulk (deletion ids)) :=
      traces_workAll depth (deletion ids) (by rintro ⟨⟩)
    have clean : desk.Clean ⟨.delete, .bulk, false⟩ :=
      ⟨(traces _ rfl _ desk worked).rules, unfailing, whole⟩
    obtain ⟨_, cleared⟩ := cleanly_deletion depth ids _ _ desk worked clean
    refine .of_balanced (cleared () rfl loopFree) ?_ balanced rfl
    -- What lies below a stored folder is stored.
    rintro x ⟨id, _, stored, below⟩
    rcases below_iff.mp below with rfl | ⟨_, inside, _⟩
    · exact stored
    · exact mem_folders_of_inside inside
  · intro depth enough
    have deep (id : EntityId) : (cabinet.store.contents.beneath id).ncard < depth := by
      have fewer := Set.ncard_le_ncard (cabinet.store.contents.beneath_subset_folders id)
        cabinet.store.contents.finite_folders
      omega
    have ends : (workAll setup.host depth .delete .bulk (deletion ids)).Ends
        ((deletion ids).desk .delete .bulk cabinet)
        (((deletion ids).desk .delete .bulk cabinet).Fares setup) := ends_deletion depth ids loopFree deep
    obtain ⟨result, desk, worked, fares⟩ := ends.outcome
    refine ⟨desk.report, desk.world, ?_, fun reliable permissive => ?_⟩
    · change run setup.host depth .delete .bulk (deletion ids) cabinet = _
      rw [run_eq, worked]
      rfl
    · exact (fares.unfailing reliable permissive).2.1

end Request

namespace Sample

def page : EntityId := ⟨drive, ⟨"page", by decide⟩⟩

/-- A folder in a folder, and a file that is listed in both. -/
def shelf : MemoryStore := .ofEntities
  [.folder ⟨docs, "docs", none⟩, .folder ⟨note, "note", some docs⟩,
    .file ⟨page, "page", [], .ofList [docs, note]⟩]

theorem shelf_wellFormed : shelf.contents.WellFormed := by
  have outer : WellFormed (Catalogue.empty.insert (.folder ⟨docs, "docs", none⟩)) :=
    WellFormed.empty.insert_folder (by simp)
  refine (outer.insert_unused (by decide) ?_).insert_file ?_ ?_
  · rintro _ ⟨⟩
    exact ⟨⟨docs, "docs", none⟩, by decide⟩
  · decide
  · intro parent listed
    simp only [Catalogue.ofList, List.foldl_cons, List.foldl_nil, IdSet.mem_insert] at listed
    rcases listed with rfl | rfl | ⟨⟨⟩⟩
    · exact ⟨⟨note, "note", some docs⟩, by decide⟩
    · exact ⟨⟨docs, "docs", none⟩, by decide⟩

end Sample

open Sample in
theorem Request.delete_exact_shelf : ∃ report after,
    delete Setup.quiet.host 3 ([note, docs].map .ofFolder) ⟨shelf, (), []⟩ = some (report, after) ∧
    report.tally.filesDetached = 1 ∧
    Deleted shelf.contents after.store.contents (shelf.contents.underAny [note, docs])
      report.tally := by
  have deleted : ((delete Setup.quiet.host 3 ([note, docs].map .ofFolder) ⟨shelf, (), []⟩).map
      fun outcome => (outcome.1.cancelled, outcome.1.failures, outcome.1.tally.filesDetached)) =
      some (false, [], 1) := by decide +kernel
  obtain ⟨⟨report, after⟩, ran, told⟩ := Option.map_eq_some_iff.mp deleted
  simp only [Prod.mk.injEq] at told
  obtain ⟨whole, unfailing, detached⟩ := told
  exact ⟨report, after, ran, detached,
    (delete_exact shelf_wellFormed.loopFree [note, docs]).1 3 report after ran whole unfailing⟩

end Filing
