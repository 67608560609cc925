import Filing.Proofs.Reckoning
import Filing.Proofs.Sparing

/-!
# Counts that reconcile

A folder that goes in a move was counted as merged just before (`Action.costs_moveFolder`), and a new
name changes nothing about how much is stored (`Action.sameSizes_renamePath`). Together with the steps
of the other requests, that reconciles every report with the store (`Order.tally_reconciles`).
-/
namespace Filing

variable {τ : Type}

/-! ## Merged folders -/

/-- Folders that are stored and those that went into others. -/
noncomputable def Desk.accounted (desk : Desk (Cabinet τ)) : Nat :=
  desk.world.store.contents.folders.ncard + desk.report.tally.foldersMerged

namespace Desk

variable {first second : Desk (Cabinet τ)} {file : File} {target : EntityId}
  {except : Option EntityId} {extra : List Entry}

theorem Kept.accounted (kept : first.Kept second extra) : second.accounted = first.accounted := by
  simp [Desk.accounted, kept.store, kept.tally]

theorem chain_accounted (setup : Setup τ) : Chain setup
    fun first second : Desk (Cabinet τ) => first.accounted ≤ second.accounted := by
  have link : Link fun first second : Desk (Cabinet τ) => first.accounted ≤ second.accounted :=
    { refl := fun desk => le_refl desk.accounted
      trans := fun before after => before.trans after
      failing := fun desk _ => le_refl desk.accounted
      leftOff := fun desk => le_refl desk.accounted }
  exact link.chain (fun kept => kept.accounted.ge) setup

theorem Room.foldersMerged (room : first.Room second file target except) :
    second.report.tally.foldersMerged = first.report.tally.foldersMerged := by
  cases room with
  | free kept _ => rw [kept.tally]
  | evicted _ changed => rw [changed.tally]

end Desk

theorem FileMove.foldersMerged {faults : Faults τ} {desk after : Desk (Cabinet τ)} {id target : EntityId}
    {source : Option EntityId} {result : Except RequestError Unit}
    (ended : FileMove faults desk id source target result after) :
    after.report.tally.foldersMerged = desk.report.tally.foldersMerged := by
  cases ended with
  | missing kept _ | already kept _ | clashes kept _ _ => rw [kept.tally]
  | idle _ room _ => exact room.foldersMerged
  | moved room _ _ wrote =>
    rw [wrote.report]
    exact room.foldersMerged
  | stuck _ room failed =>
    obtain ⟨_, kept, _⟩ := failed
    rw [kept.tally, room.foldersMerged]
  | failed failed | hindered failed =>
    obtain ⟨_, kept, _⟩ := failed
    rw [kept.tally]

namespace Action

variable {setup : Setup τ} {α β : Type}

/-- At most so many folders go that were not counted as merged. -/
def Costs (folders : Nat) (action : Action (Cabinet τ) α) : Prop :=
  Links (fun before after => before.accounted ≤ after.accounted + folders) action

namespace Costs

variable {folders folders' : Nat} {work : Action (Cabinet τ) Unit}

theorem bind {action : Action (Cabinet τ) α} {next : α → Action (Cabinet τ) β}
    (first : Costs folders action) (rest : ∀ a, Costs folders' (next a)) :
    Costs (folders + folders') (action >>= next) := by
  intro desk
  refine (first desk).bind (fun a between before => ?_) fun _ _ before => ?_
  · refine (rest a between).mono fun _ _ after => ?_
    omega
  · omega

theorem inLevel {total : Nat} (costs : Costs folders work) :
    Costs folders (Action.inLevel setup.host.job total work) := by
  have job := (Desk.chain_accounted setup).toJobLink
  have pushed : Costs 0 (turn (setup.host.job.push total)) := Links.turn job fun _ => .push total
  have popped : Costs 0 (turn setup.host.job.pop) := Links.turn job fun _ => .pop
  have all := pushed.bind fun _ => costs.bind fun _ => popped
  rwa [Nat.zero_add, Nat.add_zero] at all

theorem item (costs : Costs folders work) : Costs folders (Action.item setup.host.job work) := by
  have job := (Desk.chain_accounted setup).toJobLink
  have settled : Costs folders (settle work) := fun desk =>
    (costs desk).settle (fun _ before => before) fun _ _ before => before
  have stepped : Costs 0 (turn setup.host.job.step) := Links.turn job fun _ => .step
  exact settled.bind fun _ => stepped

end Costs

theorem costs_moveFile (id : EntityId) (source : Option EntityId) (target : EntityId) :
    Costs 0 (moveFile setup.host id source target) := by
  intro desk
  refine ((folder?_moveFile id source target).and (meets_moveFile id source target)).mono ?_
  rintro _ after ⟨same, ended⟩
  have sameFolders : after.world.store.contents.folders = desk.world.store.contents.folders := by
    simp [Contents.folders, same]
  simp [Desk.accounted, sameFolders, ended.foldersMerged]

theorem costs_removeIfEmpty (id : EntityId) : Costs 1 (discard (removeIfEmpty setup.host id)) := by
  intro desk
  refine .removeIfEmpty ?_ ?_
  · intro _ after _ glanced
    have := glanced.kept.accounted
    omega
  · intro after dissolves altered
    have here : id ∈ desk.world.store.contents.folders := dissolves.stored
    -- One folder goes, and nothing is counted here.
    have fewer := Set.ncard_sdiff_singleton_add_one here desk.world.store.contents.finite_folders
    simp only [Desk.accounted, altered.changed.store_eq, altered.changed.tally, MemoryStore.discard,
      Contents.folders_erase]
    omega

/-- The folder that goes is the one that was counted. -/
theorem costs_mergeFolder {move : EntityId → EntityId → Action (Cabinet τ) Unit} {source : Listing}
    {target : EntityId} (moves : ∀ child, Costs 0 (move child target)) :
    Costs 0 (mergeFolder setup.host move source target) := by
  have job := (Desk.chain_accounted setup).toJobLink
  have level : Costs 1 (Action.inLevel setup.host.job (source.childCount + 1) do
      source.childFolders.forM fun child => item setup.host.job (move child target)
      source.childFiles.forM fun child =>
        item setup.host.job (moveFile setup.host child (some source.id) target)
      item setup.host.job (discard (removeIfEmpty setup.host source.id))) := by
    have folders : Costs 0 (source.childFolders.forM fun child =>
        item setup.host.job (move child target)) :=
      Links.forM job.toLink fun child _ => (moves child).item
    have files : Costs 0 (source.childFiles.forM fun child =>
        item setup.host.job (moveFile setup.host child (some source.id) target)) :=
      Links.forM job.toLink fun child _ => (costs_moveFile child (some source.id) target).item
    exact .inLevel (folders.bind fun _ => files.bind fun _ => (costs_removeIfEmpty source.id).item)
  -- The level may cost one folder, which the count before it pays for, whether the folder goes or not.
  intro desk
  refine .tally_bind ((level _).mono fun _ after merged => ?_)
  have counted : (desk.tallied fun t => { t with foldersMerged := t.foldersMerged + 1 }).accounted =
      desk.accounted + 1 := rfl
  omega

theorem costs_moveFolder (depth : Nat) (id target : EntityId) :
    Costs 0 (moveFolder setup.host depth id target) := by
  induction depth generalizing id target with
  | zero => exact fun _ => .tooDeep
  | succ depth ih =>
    intro desk
    refine .moveFolder ?_ ?_ ?_ ?_
    · exact fun _ _ glanced _ => glanced.kept.accounted.ge
    · rintro _ _ ⟨_, glanced, _⟩
      exact glanced.kept.accounted.ge
    · rintro after folder rfl reparents _ altered
      have same : (desk.world.store.save (.folder (folder.into target))).contents.folders =
          desk.world.store.contents.folders :=
        (MemoryStore.same_save_folder reparents.stored (by rfl)).1
      change _ ≤ Set.ncard _ + _ + 0
      rw [altered.changed.store_eq, altered.changed.tally]
      exact (congrArg (Set.ncard · + desk.report.tally.foldersMerged) same).ge
    · intro between extra folder existing glanced _ _ _ _
      have kept := glanced.kept.accounted
      refine (costs_mergeFolder (fun child => ih child existing) between).mono fun _ _ merged => ?_
      omega

end Action

/-! ## A name of its own -/

/-- As many folders are stored, and as many files. -/
structure MemoryStore.SameSizes (before after : MemoryStore) : Prop where
  folders : after.contents.folders.ncard = before.contents.folders.ncard
  files : after.contents.files.ncard = before.contents.files.ncard

namespace MemoryStore.SameSizes

variable {first second third s : MemoryStore} {id renamed : EntityId}

theorem refl (s : MemoryStore) : s.SameSizes s := ⟨rfl, rfl⟩

theorem trans (same : first.SameSizes second) (same' : second.SameSizes third) :
    first.SameSizes third :=
  ⟨same'.folders.trans same.folders, same'.files.trans same.files⟩

theorem of_same (same : second.contents.folders = first.contents.folders ∧
    second.contents.files = first.contents.files) : first.SameSizes second :=
  ⟨by rw [same.1], by rw [same.2]⟩

/-- One identifier goes and a new one comes. -/
theorem relabelled {entity : Entity} (stored : s.contents.find? id = some entity)
    (unused : s.has renamed = false) :
    s.SameSizes ((s.discard id).save (entity.withId renamed)) := by
  obtain ⟨noFolder, noFile⟩ := Contents.not_mem_of_unused unused
  cases entity with
  | folder folder =>
    have here : id ∈ s.contents.folders := ⟨folder, Contents.folder?_eq_some_iff.mpr stored⟩
    have fewer := Set.ncard_sdiff_singleton_add_one here s.contents.finite_folders
    -- The new identifier was not in use, so what is put there is one more.
    have absent : renamed ∉ s.contents.folders \ {id} := fun member => noFolder member.1
    have more := Set.ncard_insert_of_notMem absent s.contents.finite_folders.sdiff
    have otherKind : ({ folder with id := renamed } : Folder).id ∉
        Contents.files (s.contents.erase id) := by
      rw [Contents.files_erase]
      exact fun member => noFile member.1
    constructor
    · simp only [save, discard, Entity.withId, Contents.folders_insert_folder, Contents.folders_erase]
      omega
    · simp only [save, discard, Entity.withId, Contents.files_insert_folder otherKind]
      simp [Contents.not_mem_files here]
  | file file =>
    have here : id ∈ s.contents.files := ⟨file, Contents.file?_eq_some_iff.mpr stored⟩
    have fewer := Set.ncard_sdiff_singleton_add_one here s.contents.finite_files
    have absent : renamed ∉ s.contents.files \ {id} := fun member => noFile member.1
    have more := Set.ncard_insert_of_notMem absent s.contents.finite_files.sdiff
    have otherKind : ({ file with id := renamed } : File).id ∉
        Contents.folders (s.contents.erase id) := by
      rw [Contents.folders_erase]
      exact fun member => noFolder member.1
    constructor
    · simp only [save, discard, Entity.withId, Contents.folders_insert_file otherKind]
      simp [Contents.not_mem_folders here]
    · simp only [save, discard, Entity.withId, Contents.files_insert_file, Contents.files_erase]
      omega

end MemoryStore.SameSizes

namespace Desk

def SameSizes (before after : Desk (Cabinet τ)) : Prop :=
  before.world.store.SameSizes after.world.store

variable {first second : Desk (Cabinet τ)} {extra : List Entry}

theorem Kept.sameSizes (kept : first.Kept second extra) : first.SameSizes second := by
  rw [SameSizes, kept.store]
  exact .refl _

theorem Failed.sameSizes {faults : Faults τ} {reason : RequestError → Prop} {error : RequestError}
    (failed : first.Failed faults reason error second) : first.SameSizes second := by
  obtain ⟨_, kept, _⟩ := failed
  exact kept.sameSizes

theorem Relocated.sameSizes {folder : Folder} (relocated : first.Relocated second folder) :
    first.SameSizes second := by
  cases relocated with
  | stays kept _ => exact kept.sameSizes
  | moved into reparents changed =>
    subst into
    rw [SameSizes, changed.store_eq]
    exact .of_same (MemoryStore.same_save_folder reparents.stored (by rfl))

theorem Refiled.sameSizes {file : File} {source target : Option EntityId}
    (refiled : first.Refiled second file source target) : first.SameSizes second := by
  cases refiled with
  | stays kept _ _ => exact kept.sameSizes
  | moved _ relists changed =>
    rw [SameSizes, changed.store_eq]
    exact .of_same (MemoryStore.same_save_file relists.stored (by rfl))

theorem link_sameSizes : Link (SameSizes : Desk (Cabinet τ) → Desk (Cabinet τ) → Prop) where
  refl desk := .refl desk.world.store
  trans same same' := MemoryStore.SameSizes.trans same same'
  failing desk _ := .refl desk.world.store
  leftOff desk := .refl desk.world.store

theorem chain_sameSizes (setup : Setup τ) : Chain setup (SameSizes : Desk (Cabinet τ) → _ → Prop) :=
  link_sameSizes.chain Kept.sameSizes setup

end Desk

namespace Action

variable {setup : Setup τ} {desk between : Desk (Cabinet τ)} {extra : List Entry}

/-- A call fails only if the surroundings decide so. -/
theorem sameSizes_of_fault {error : RequestError} {after : Desk (Cabinet τ)}
    (failed : desk.Failed setup.faults (fun _ => False) error after) : desk.SameSizes after :=
  failed.sameSizes

theorem sameSizes_save_folder {folder changed : Folder} (kept : desk.Kept between extra)
    (stored : desk.world.store.contents.folder? folder.id = some folder)
    (sameId : changed.id = folder.id) :
    (call (setup.host.store.save (.folder changed))).Meets between fun _ after =>
      desk.SameSizes after := by
  refine .written kept (meets_save _) (fun _ _ => sameSizes_of_fault) fun after wrote => ?_
  rw [Desk.SameSizes, wrote.store, kept.store]
  exact .of_same (MemoryStore.same_save_folder stored sameId)

theorem sameSizes_save_file {file changed : File} (kept : desk.Kept between extra)
    (stored : desk.world.store.contents.file? file.id = some file)
    (sameId : changed.id = file.id) :
    (call (setup.host.store.save (.file changed))).Meets between fun _ after =>
      desk.SameSizes after := by
  refine .written kept (meets_save _) (fun _ _ => sameSizes_of_fault) fun after wrote => ?_
  rw [Desk.SameSizes, wrote.store, kept.store]
  exact .of_same (MemoryStore.same_save_file stored sameId)

/-- Each child is saved again, if it is still there. -/
theorem sameSizes_repointChildren (old : Listing) (renamed : EntityId) :
    Links Desk.SameSizes (repointChildren setup.host old renamed) := by
  have link := Desk.link_sameSizes (τ := τ)
  refine .bind link (.forM link fun child _ desk => ?_) fun _ => .forM link fun child _ desk => ?_
  · refine .lookFolder (.refl desk) (fun _ _ => sameSizes_of_fault)
      (fun _ _ kept _ => .pure kept.sameSizes) fun folder _ extra kept listed => ?_
    have stored := (Contents.listing?_eq_some_iff.mp listed).1
    cases Contents.id_of_folder? stored
    exact sameSizes_save_folder kept stored rfl
  · refine .look_ok (.refl desk) (looks_file setup _ child) (fun _ _ => sameSizes_of_fault) ?_
    intro found extra kept
    split
    next file stored =>
      cases Contents.id_of_file? stored
      dsimp only
      split
      next => exact sameSizes_save_file kept stored rfl
      next => exact .pure kept.sameSizes
    next => exact .pure kept.sameSizes

theorem sameSizes_setDisplayName (id : EntityId) (name : String) :
    Links Desk.SameSizes (setDisplayName setup.host id name) := by
  intro desk
  refine .lookFolder (.refl desk) (fun _ _ => sameSizes_of_fault) (fun _ extra kept _ => ?_)
    fun folder _ extra kept listed => ?_
  · refine .look_ok kept (looks_file setup _ id) (fun _ _ => sameSizes_of_fault) ?_
    intro found extra kept
    split
    next file stored =>
      cases Contents.id_of_file? stored
      exact sameSizes_save_file kept stored rfl
    next => exact .throw kept.sameSizes
  · have stored := (Contents.listing?_eq_some_iff.mp listed).1
    cases Contents.id_of_folder? stored
    exact sameSizes_save_folder kept stored rfl

theorem sameSizes_assignIdentifier {current : EntityId} {entity : Entity}
    (stored : desk.world.store.contents.find? current = some entity) (desired : EntityId) :
    (assignIdentifier setup.host current desired).Meets desk fun _ after => desk.SameSizes after := by
  refine (meets_assignIdentifier desired stored).mono fun result after ended => ?_
  match result, ended with
  | .error _, failed => exact failed.sameSizes
  | .ok renamed, ⟨given, _, _, _, kept, wrote⟩ =>
    rw [Desk.SameSizes, wrote.store]
    exact .relabelled stored (MemoryStore.unused_of_freeId given)

theorem sameSizes_finishFolder {id : EntityId} {folder : Folder}
    (stored : desk.world.store.contents.folder? id = some folder) (desired : EntityId) (old : Listing)
    (name : String) :
    (finishFolder setup.host id desired old name).Meets desk fun _ after => desk.SameSizes after := by
  have link := Desk.link_sameSizes (τ := τ)
  unfold finishFolder
  split
  next renames =>
    refine (sameSizes_assignIdentifier (Contents.folder?_eq_some_iff.mp stored) desired).bind ?_
      fun _ _ same => same
    intro renamed labelled same
    have rest : Links Desk.SameSizes (repointChildren setup.host old renamed >>= fun _ =>
        setDisplayName setup.host renamed name >>= fun _ =>
          count fun t => { t with itemsRenamed := t.itemsRenamed + 1 }) :=
      .bind link (sameSizes_repointChildren old renamed) fun _ =>
        .bind link (sameSizes_setDisplayName renamed name) fun _ _ => .modify (.refl _)
    exact (rest labelled).mono fun _ _ same' => same.trans same'
  next => exact .pure (link.refl desk)

theorem sameSizes_finishFile {id : EntityId} {file : File}
    (stored : desk.world.store.contents.file? id = some file) (desired : EntityId) (name : String) :
    (finishFile setup.host id desired name).Meets desk fun _ after => desk.SameSizes after := by
  have link := Desk.link_sameSizes (τ := τ)
  unfold finishFile
  split
  next renames =>
    refine (sameSizes_assignIdentifier (Contents.file?_eq_some_iff.mp stored) desired).bind ?_
      fun _ _ same => same
    intro renamed labelled same
    have rest : Links Desk.SameSizes (setDisplayName setup.host renamed name >>= fun _ =>
        count fun t => { t with itemsRenamed := t.itemsRenamed + 1 }) :=
      .bind link (sameSizes_setDisplayName renamed name) fun _ _ => .modify (.refl _)
    exact (rest labelled).mono fun _ _ same' => same.trans same'
  next => exact .pure (link.refl desk)

theorem sameSizes_renamePath (depth : Nat) (target : Option EntityId) (desired : EntityId)
    (path : Path) : Links Desk.SameSizes (renamePath setup.host depth target desired path) := by
  obtain ⟨folder, leaf⟩ := path
  intro desk
  cases leaf with
  | some file =>
    refine .renameFile (fun _ _ kept _ => kept.sameSizes) (fun _ _ failed => failed.sameSizes) ?_
    rintro between file stored rfl _ refiled _
    refine (sameSizes_finishFile refiled.stored desired _).mono fun _ _ same => ?_
    exact refiled.sameSizes.trans same
  | none => cases folder with
    | none => exact .pure (.refl _)
    | some folder =>
      refine .renameFolder (fun _ _ kept _ => kept.sameSizes) (fun _ _ failed => failed.sameSizes) ?_
      rintro between listing folder _ rfl _ _ relocated _
      refine (sameSizes_finishFolder relocated.stored desired _ _).mono fun _ _ same => ?_
      exact relocated.sameSizes.trans same

end Action

/-! ## Requests -/

namespace Request

variable {setup : Setup τ}

theorem costs_workAll (depth : Nat) (request : Request) :
    Action.Costs 0 (workAll setup.host depth .move .bulk request) := by
  have job := (Desk.chain_accounted setup).toJobLink
  have stays : Action.Costs 0 (pure () : Action (Cabinet τ) Unit) := .pure job.toLink ()
  refine .inLevel (.workOff job ?_)
  rintro ⟨source, file⟩ _
  obtain ⟨folder, leaf⟩ := request.destination
  cases folder with
  | none => exact stays
  | some target =>
    cases file with
    | some file => exact Action.costs_moveFile file source target
    | none => cases source with
      | some folder => exact Action.costs_moveFolder depth folder target
      | none => exact stays

theorem sameSizes_workAll (depth : Nat) (request : Request) :
    Action.Links Desk.SameSizes (workAll setup.host depth .move .single request) := by
  have job := (Desk.chain_sameSizes setup).toJobLink
  refine .inLevel job (.workOff job fun path _ => ?_)
  obtain ⟨folder, leaf⟩ := request.destination
  cases leaf with
  | none => exact .pure job.toLink ()
  | some desired => exact Action.sameSizes_renamePath depth folder desired path

end Request

/-- Every copy is counted. Each count of a file that was overwritten belongs to one that left a folder,
and those that no other folder listed are gone. -/
structure Stage.CountsCopies (rules : Rules) (before after : Stage) (overwritten : List Departure) :
    Prop where
  ledger : Ledger rules Tally.filesOverwritten Stage.Overwrites before overwritten after
  counted : overwritten.length = after.tally.filesOverwritten
  folders : after.store.contents.folders.ncard =
    before.store.contents.folders.ncard + after.tally.foldersCopied
  files : after.store.contents.files.ncard + overwritten.countP Departure.last =
    before.store.contents.files.ncard + after.tally.filesCopied
  lost : overwritten.countP Departure.last ≤ after.tally.filesOverwritten

/-- Every deletion is counted, and nothing has come. Each count of a detached file belongs to one that
left a folder, and besides those only the listings of files that were deleted are gone. -/
structure Stage.CountsDeletions (rules : Rules) (before after : Stage) (detached : List Departure) :
    Prop where
  ledger : Ledger rules Tally.filesDetached Stage.Detaches before detached after
  counted : (detached.map Departure.listing).Nodup ∧ detached.length = after.tally.filesDetached
  foldersLeft : after.store.contents.folders ⊆ before.store.contents.folders
  filesLeft : after.store.contents.files ⊆ before.store.contents.files
  folders : after.store.contents.folders.ncard + after.tally.foldersDeleted =
    before.store.contents.folders.ncard
  files : after.store.contents.files.ncard + after.tally.filesDeleted =
    before.store.contents.files.ncard
  listings : after.store.contents.listings =
    {l ∈ before.store.contents.listings | l.1 ∈ after.store.contents.files} \
      {l | l ∈ detached.map Departure.listing}
  taken : ∀ l ∈ detached.map Departure.listing, l ∈ before.store.contents.listings

/-- Nothing has come. Folders that are gone were counted as merged, and files that are gone as
overwritten. -/
structure Stage.CountsMoves (before after : Stage) : Prop where
  foldersLeft : after.store.contents.folders ⊆ before.store.contents.folders
  filesLeft : after.store.contents.files ⊆ before.store.contents.files
  merged : (before.store.contents.folders \ after.store.contents.folders).ncard ≤
    after.tally.foldersMerged
  overwritten : (before.store.contents.files \ after.store.contents.files).ncard ≤
    after.tally.filesOverwritten

namespace Order

variable {setup : Setup τ} {depth : Nat} {order : Order} {cabinet after : Cabinet τ} {report : Report}

/-- The counts fit what was stored before and what is stored now. -/
def Reconciles (order : Order) (before after : Stage) : Prop :=
  match order with
  | copy _ => ∃ overwritten, before.CountsCopies (order.rules before.store.contents) after overwritten
  | delete _ => ∃ detached, before.CountsDeletions (order.rules before.store.contents) after detached
  | plan request =>
    (request.modeIn before.store.contents = .bulk → before.CountsMoves after) ∧
    (request.modeIn before.store.contents = .single → before.store.SameSizes after.store)

/-- Whatever is requested, permitted, answered and cancelled, and whichever calls fail. -/
theorem tally_reconciles (ran : order.run setup.host depth cabinet = some (.ok report, after)) :
    order.Reconciles ⟨cabinet.store, {}⟩ ⟨after.store, report.tally⟩ := by
  cases order with
  | copy request =>
    obtain ⟨overwritten, ledger, added⟩ := (steps_of_report ran (by rintro ⟨⟩)).added rfl
    have counted : 0 + overwritten.length = report.tally.filesOverwritten := ledger.length
    have lost : overwritten.countP Departure.last ≤ overwritten.length := List.countP_le_length
    have files : _ + 0 = _ := added.files
    refine ⟨overwritten, ledger, ?_, added.folders, ?_, ?_⟩
    · exact (Nat.zero_add _).symm.trans counted
    · exact (Nat.add_zero _).symm.trans files
    · exact lost.trans (by simpa using counted.le)
  | delete paths =>
    obtain ⟨detached, ledger, removed⟩ := (steps_of_report ran (by rintro ⟨⟩)).removed rfl
    have counted : 0 + detached.length = report.tally.filesDetached := ledger.length
    refine ⟨detached, ledger, ⟨removed.once, (Nat.zero_add _).symm.trans counted⟩,
      removed.foldersLeft, removed.filesLeft, removed.folders, removed.files, ?_, removed.taken⟩
    ext l
    simpa [and_assoc] using removed.listings l
  | plan request =>
    have ⟨between, ended, desk, same, worked, reported, left⟩ := Request.work_of_report ran
    constructor
    · intro bulk
      replace bulk : request.modeIn cabinet.store.contents = .bulk := bulk
      have thinned := (steps_of_report ran fun _ => by simp [rules, bulk]).thinned rfl bulk
      have overwritten := thinned.overwritten
      rw [bulk] at worked
      have merged : (request.desk .move .bulk between).accounted ≤ desk.accounted + 0 :=
        Request.costs_workAll depth request _ _ _ worked
      simp only [Desk.accounted, Request.desk, same, reported, left] at merged
      -- Nothing has come, so what is gone is counted by the difference in numbers.
      have folders := Set.ncard_sdiff_add_ncard_of_subset thinned.folders
        cabinet.store.contents.finite_folders
      have files := Set.ncard_sdiff_add_ncard_of_subset thinned.files
        cabinet.store.contents.finite_files
      dsimp only at overwritten folders files
      refine ⟨thinned.folders, thinned.files, ?_, ?_⟩
      · dsimp only
        omega
      · dsimp only
        omega
    · intro single
      replace single : request.modeIn cabinet.store.contents = .single := single
      rw [single] at worked
      have sizes : between.store.SameSizes desk.world.store :=
        Request.sameSizes_workAll depth request _ _ _ worked
      rwa [same, left] at sizes

end Order

namespace Sample

/-- Nothing can be saved, and whoever is asked agrees. -/
def full : Setup (List Answered) :=
  { agreeing with faults := fun method _ around =>
      (if method = .save then some (.backend "full") else none, around) }

/-- Fills the folder inside with copies. -/
def double : Order := .copy unite

end Sample

open Sample in
theorem Order.tally_reconciles_rivals : ∃ report after leaving,
    double.run full.host 9 ⟨rivals, [], []⟩ = some (.ok report, after) ∧
    report.failures = [.storage (some (.backend "full"))] ∧
    report.tally = { foldersMerged := 1, filesOverwritten := 1 } ∧
    Stage.CountsCopies (double.rules rivals.contents) ⟨rivals, {}⟩ ⟨after.store, report.tally⟩
      [leaving] := by
  have went : ((double.run full.host 9 ⟨rivals, [], []⟩).map fun outcome =>
      outcome.1.map fun report => (report.failures, report.tally)) =
      some (.ok ([.storage (some (.backend "full"))],
        { foldersMerged := 1, filesOverwritten := 1 })) := by decide +kernel
  obtain ⟨⟨result, after⟩, ran, found⟩ := Option.map_eq_some_iff.mp went
  cases result with
  | error error => cases found
  | ok report =>
    obtain ⟨failures, tally⟩ := Prod.mk.inj (Except.ok.inj found)
    obtain ⟨overwritten, counts⟩ := tally_reconciles ran
    have one : overwritten.length = 1 := counts.counted.trans (congrArg Tally.filesOverwritten tally)
    obtain ⟨leaving, rfl⟩ := List.length_eq_one_iff.mp one
    exact ⟨report, after, leaving, ran, failures, tally, counts⟩

end Filing
