import Filing.Proofs.Copying

/-!
# New identifiers for folders

Between the new identifier of a folder and the last child that is pointed at it, what is stored is not
well formed. What comes out in the end is described as a whole (`Contents.Relabelled`) and well formed
again, unless a call failed in between (`Desk.Broke`).
-/
namespace Filing

variable {τ : Type}

def Folder.into (parent : EntityId) (folder : Folder) : Folder :=
  { folder with parent := some parent }

def Folder.repoint (id renamed : EntityId) (folder : Folder) : Folder :=
  if folder.parent = some id then folder.into renamed else folder

def File.repoint (id renamed : EntityId) (file : File) : File :=
  if id ∈ file.parents then (file.reparent (some id) renamed).1 else file

theorem File.reparent_repoint {file : File} {id renamed : EntityId} (listed : id ∈ file.parents) :
    ((file.repoint id renamed).reparent (some id) renamed).1 = file.repoint id renamed := by
  have parents : ((file.repoint id renamed).reparent (some id) renamed).1.parents =
      (file.repoint id renamed).parents := by
    refine IdSet.ext fun x => ?_
    simp only [repoint, if_pos listed, mem_parents_reparent]
    grind
  have rest : ((file.repoint id renamed).reparent (some id) renamed).1 = { file.repoint id renamed with
      parents := ((file.repoint id renamed).reparent (some id) renamed).1.parents } := rfl
  rw [rest, parents]

/-- What is found now is what was found, with the change made under the identifiers in `seen`. -/
def Rewritten {κ : Type} (change : κ → κ) (seen : List EntityId) (before after : EntityId → Option κ) :
    Prop :=
  ∀ x, after x = if x ∈ seen then (before x).map change else before x

namespace Rewritten

variable {κ : Type} {change : κ → κ} {seen : List EntityId} {before between after : EntityId → Option κ}
  {child : EntityId}

theorem nil (before : EntityId → Option κ) : Rewritten change [] before before := fun x => by simp

/-- The change is made once more. -/
theorem concat (rewritten : Rewritten change seen before between)
    (next : ∀ x, after x = if x = child then (before x).map change else between x) :
    Rewritten change (seen ++ [child]) before after := by
  intro x
  rw [next, rewritten]
  by_cases here : x = child
  · simp [here]
  · simp [here]

/-- There is nothing left to change. -/
theorem concat_same (rewritten : Rewritten change seen before after)
    (same : after child = (before child).map change) :
    Rewritten change (seen ++ [child]) before after := by
  refine rewritten.concat fun x => ?_
  split
  next here => rw [here, same]
  next => rfl

theorem eq_none (rewritten : Rewritten change seen before after) (missing : after child = none) :
    before child = none := by
  rw [rewritten] at missing
  split at missing
  · exact Option.map_eq_none_iff.mp missing
  · exact missing

/-- Whether the change was made or not, there was something before. -/
theorem of_some (rewritten : Rewritten change seen before after) {here : κ}
    (found : after child = some here) :
    ∃ old, before child = some old ∧ (here = old ∨ here = change old) := by
  have changed := (rewritten child).symm.trans found
  split at changed
  · obtain ⟨old, stored, rfl⟩ := Option.map_eq_some_iff.mp changed
    exact ⟨old, stored, .inr rfl⟩
  · exact ⟨here, changed, .inl rfl⟩

end Rewritten

namespace Contents

/-- Puts the folder under another identifier. -/
def shift (c : Contents) (folder : Folder) (renamed : EntityId) : Contents :=
  (c.erase folder.id).insert (.folder { folder with id := renamed })

theorem folder?_shift {c : Contents} {folder : Folder} {renamed x : EntityId} :
    (c.shift folder renamed).folder? x =
      if x = renamed then some { folder with id := renamed }
      else if x = folder.id then none else c.folder? x := by
  simp [shift, eq_comm]

theorem file?_shift {c : Contents} {folder : Folder} {renamed x : EntityId} :
    (c.shift folder renamed).file? x =
      if x = renamed then none else if x = folder.id then none else c.file? x := by
  simp [shift, eq_comm]

/-- The folder `id` is now `renamed` and displayed as `name`, and everything that pointed at it
follows. -/
structure Relabelled (c c' : Contents) (id renamed : EntityId) (name : String) : Prop where
  folders : ∀ x, c'.folder? x =
    if x = renamed then (c.folder? id).map fun folder => { folder with id := renamed, name }
    else if x = id then none
    else (c.folder? x).map (Folder.repoint id renamed)
  files : ∀ x, c'.file? x = (c.file? x).map (File.repoint id renamed)

namespace Relabelled

variable {c c' : Contents} {id renamed x y : EntityId} {name : String}

/-- Where a folder was stored before. -/
def origin (id renamed x : EntityId) : EntityId := if x = renamed then id else x

/-- Where what pointed at a folder points now. -/
def follow (id renamed x : EntityId) : EntityId := if x = id then renamed else x

theorem origin_follow (differs : x ≠ renamed) : origin id renamed (follow id renamed x) = x := by
  by_cases here : x = id
  · simp [origin, follow, here]
  · simp [origin, follow, here, differs]

theorem inside (relabelled : c.Relabelled c' id renamed name) (loopFree : c.LoopFree)
    (inside : c'.Inside x y) :
    ∃ p, c.Inside (origin id renamed x) p ∧ y = follow id renamed p := by
  obtain ⟨folder, found, up⟩ := inside_iff.mp inside
  rw [relabelled.folders] at found
  split at found
  next here =>
    -- The folder itself stays in its parent, which is not the folder.
    obtain ⟨old, stored, rfl⟩ := Option.map_eq_some_iff.mp found
    have insideOld : c.Inside id y := inside_iff.mpr ⟨old, stored, up⟩
    have differs : y ≠ id := by
      rintro rfl
      exact loopFree.not_below_of_inside insideOld (below_refl c y)
    exact ⟨y, by simpa [origin, here] using insideOld, by simp [follow, differs]⟩
  next elsewhere =>
    split at found
    · cases found
    obtain ⟨old, stored, rfl⟩ := Option.map_eq_some_iff.mp found
    simp only [origin, if_neg elsewhere]
    unfold Folder.repoint Folder.into at up
    split at up
    next wasInside =>
      cases up
      exact ⟨id, inside_iff.mpr ⟨old, stored, wasInside⟩, by simp [follow]⟩
    next wasElsewhere =>
      have differs : y ≠ id := by
        rintro rfl
        exact wasElsewhere up
      exact ⟨y, inside_iff.mpr ⟨old, stored, up⟩, by simp [follow, differs]⟩

theorem listed {file : File} (listed : y ∈ (file.repoint id renamed).parents) :
    ∃ p ∈ file.parents, y = follow id renamed p := by
  unfold File.repoint at listed
  split at listed
  next member =>
    simp only [File.reparent, IdSet.mem_insert, IdSet.mem_erase] at listed
    rcases listed with rfl | ⟨differs, listed⟩
    · exact ⟨id, member, by simp [follow]⟩
    · exact ⟨y, listed, by simp [follow, differs]⟩
  next absent =>
    have differs : y ≠ id := by
      rintro rfl
      exact absent listed
    exact ⟨y, listed, by simp [follow, differs]⟩

theorem stored (relabelled : c.Relabelled c' id renamed name) (differs : x ≠ renamed)
    (stored : ∃ folder, c.folder? x = some folder) :
    ∃ folder, c'.folder? (follow id renamed x) = some folder := by
  obtain ⟨folder, found⟩ := stored
  by_cases here : x = id
  · subst here
    exact ⟨_, by simp only [follow, if_true, relabelled.folders, found]; rfl⟩
  · exact ⟨_, by simp only [follow, if_neg here, relabelled.folders, if_neg differs, found]; rfl⟩

/-- A loop after the renaming is one that was there before, unless something points at the new
identifier already. -/
theorem loopFree (relabelled : c.Relabelled c' id renamed name) (loopFree : c.LoopFree)
    (unclaimed : ∀ x, ¬ c.Inside x renamed) : c'.LoopFree := by
  intro x loop
  refine loopFree (origin id renamed x) (loop.lift (origin id renamed) fun x y inside => ?_)
  obtain ⟨p, insideOld, rfl⟩ := relabelled.inside loopFree inside
  have differs : p ≠ renamed := by
    rintro rfl
    exact unclaimed _ insideOld
  change c.Inside (origin id renamed x) (origin id renamed (follow id renamed p))
  rwa [origin_follow differs]

theorem wellFormed (relabelled : c.Relabelled c' id renamed name) (wf : c.WellFormed)
    (unused : c.has renamed = false) : c'.WellFormed := by
  -- Whatever is stored has an identifier in use, so it is not the new one.
  have taken {p : EntityId} (stored : ∃ folder, c.folder? p = some folder) : p ≠ renamed := by
    rintro rfl
    simp [folder?_eq_none_of_unused unused] at stored
  constructor
  · intro x y folder found up
    obtain ⟨p, insideOld, rfl⟩ :=
      relabelled.inside wf.loopFree (inside_iff.mpr ⟨folder, found, up⟩)
    have above := wf.stored_of_inside insideOld
    exact relabelled.stored (taken above) above
  · intro x y file found listed
    rw [relabelled.files] at found
    obtain ⟨old, stored, rfl⟩ := Option.map_eq_some_iff.mp found
    obtain ⟨p, member, rfl⟩ := Relabelled.listed listed
    have above := wf.fileParent stored member
    exact relabelled.stored (taken above) above
  · exact relabelled.loopFree wf.loopFree fun x inside => taken (wf.stored_of_inside inside) rfl

/-- The folder goes under its new identifier, then its children follow, then it gets its name. -/
theorem of_rewriting {folder : Folder} {folders files : List EntityId} {c₁ : Contents} (name : String)
    (stored : c.folder? id = some folder) (apart : ¬ c.Inside id id) (unused : c.has renamed = false)
    (mem_folders : ∀ x, x ∈ folders ↔ c.Inside x id)
    (mem_files : ∀ x, x ∈ files ↔ ∃ file, c.file? x = some file ∧ id ∈ file.parents)
    (rewroteFolders : Rewritten (Folder.into renamed) folders (c.shift folder renamed).folder? c₁.folder?)
    (rewroteFiles : Rewritten (File.repoint id renamed) files (c.shift folder renamed).file? c₁.file?) :
    c.Relabelled (c₁.insert (.folder { folder with id := renamed, name })) id renamed name := by
  cases id_of_folder? stored
  have noFolder := folder?_eq_none_of_unused unused
  have noFile := file?_eq_none_of_unused unused
  refine ⟨fun x => ?_, fun x => ?_⟩
  · rw [folder?_insert_folder]
    by_cases here : x = renamed
    · simp [here, stored]
    rw [if_neg (Ne.symm here), if_neg here, rewroteFolders, folder?_shift, if_neg here]
    -- The folder is no child of its own, so nothing has come back under its old identifier.
    by_cases old : x = folder.id
    · simp [old, mem_folders, apart]
    rw [if_neg old, if_neg old]
    -- Of the others, exactly the children pointed at the old identifier.
    split
    next member =>
      obtain ⟨child, found, up⟩ := inside_iff.mp ((mem_folders x).mp member)
      simp [found, Folder.repoint, up]
    next elsewhere =>
      cases found : c.folder? x with
      | none => rfl
      | some child =>
        have up : child.parent ≠ some folder.id := fun up =>
          elsewhere ((mem_folders x).mpr (inside_iff.mpr ⟨child, found, up⟩))
        simp [Folder.repoint, up]
  · rw [file?_insert_folder]
    by_cases here : x = renamed
    · simp [here, noFile]
    rw [if_neg (Ne.symm here), rewroteFiles, file?_shift, if_neg here]
    by_cases old : x = folder.id
    · simp [old, file?_eq_none_of_folder? stored]
    rw [if_neg old]
    split
    next => rfl
    next elsewhere =>
      cases found : c.file? x with
      | none => rfl
      | some file =>
        have notListed : folder.id ∉ file.parents := fun listed =>
          elsewhere ((mem_files x).mpr ⟨file, found, listed⟩)
        simp [File.repoint, notListed]

end Relabelled

end Contents

/-- A call failed. -/
structure Desk.Broke (faults : Faults τ) (before after : Desk (Cabinet τ)) : Prop where
  canFail : faults.CanFail
  logged : ∃ extra, after.world.log = before.world.log ++ extra ∧ ∃ entry ∈ extra, entry.failed = true

/-- Calls were made and left these contents. -/
structure Desk.Rewrote (before after : Desk (Cabinet τ)) (contents : Contents) : Prop where
  store : after.world.store = { before.world.store with contents }
  tally : after.report.tally = before.report.tally
  failures : after.report.failures = before.report.failures
  log : before.world.log <+: after.world.log

namespace Desk.Rewrote

variable {first second third : Desk (Cabinet τ)} {extra : List Entry} {c c' : Contents}
  {method : Scenario.Method}

theorem refl (desk : Desk (Cabinet τ)) : desk.Rewrote desk desk.world.store.contents :=
  ⟨rfl, rfl, rfl, List.prefix_rfl⟩

theorem kept (rewrote : first.Rewrote second c) (kept : second.Kept third extra) :
    first.Rewrote third c where
  store := kept.store.trans rewrote.store
  tally := kept.tally.trans rewrote.tally
  failures := kept.failures.trans rewrote.failures
  log := kept.log ▸ rewrote.log.trans (List.prefix_append _ _)

theorem saved {entity : Entity} (rewrote : first.Rewrote second c)
    (wrote : second.Wrote third method (second.world.store.save entity) id) :
    first.Rewrote third (c.insert entity) where
  store := by rw [wrote.store, rewrote.store]; rfl
  tally := by rw [wrote.report, ← rewrote.tally]; rfl
  failures := by rw [wrote.report, ← rewrote.failures]
  log := wrote.log ▸ rewrote.log.trans (List.prefix_append _ _)

theorem trans (rewrote : first.Rewrote second c) (rewrote' : second.Rewrote third c') :
    first.Rewrote third c' where
  store := by rw [rewrote'.store, rewrote.store]
  tally := rewrote'.tally.trans rewrote.tally
  failures := rewrote'.failures.trans rewrote.failures
  log := rewrote.log.trans rewrote'.log

theorem of_changed {store : MemoryStore} (changed : first.Changed second store fun tally => tally)
    (same : store = { first.world.store with contents := c }) : first.Rewrote second c where
  store := changed.store_eq.trans same
  tally := changed.tally
  failures := changed.failures
  log := by
    obtain ⟨_, _, _, kept, wrote⟩ := changed
    rw [wrote.log, kept.log, List.append_assoc]
    exact List.prefix_append _ _

theorem broke {faults : Faults τ} {error : RequestError} (rewrote : first.Rewrote second c)
    (failed : second.Failed faults (fun _ => False) error third) : first.Broke faults third := by
  obtain ⟨extra, kept, ended⟩ := failed
  obtain ⟨before, log⟩ := rewrote.log
  have faulted := ended.resolve_left id
  obtain ⟨entry, member, fails⟩ := faulted.logged
  refine ⟨faulted.canFail, before ++ extra, by rw [kept.log, ← log, List.append_assoc], entry, ?_, fails⟩
  exact List.mem_append_right _ member

end Desk.Rewrote

/-- What comes of giving a folder that is in its place a new identifier and a new name. `old` is what
was listed of it before. -/
inductive FolderRelabel (setup : Setup τ) (desk : Desk (Cabinet τ)) (old : Listing)
    (desired : EntityId) (name : String) : Except RequestError Unit → Desk (Cabinet τ) → Prop
  | stays (same : desired = old.id) : FolderRelabel setup desk old desired name (.ok ()) desk
  | failed {after error} (failed : desk.Failed setup.faults
      (Unnamed desk.world.store setup.suffixing desired.drive.text desired.name.text) error after) :
      FolderRelabel setup desk old desired name (.error error) after
  | renamed {named renamed contents} (unused : desk.world.store.has renamed = false)
      (permitted : desk.world.store.allows .edit renamed = true)
      (relabelled : ¬ desk.world.store.contents.Inside old.id old.id →
        (∀ x, x ∈ old.childFolders ↔ desk.world.store.contents.Inside x old.id) →
        desk.world.store.contents.Relabelled contents old.id renamed name)
      (rewrote : desk.Rewrote named contents) (differs : desired ≠ old.id)
      (given : desk.world.store.freeId setup.suffixing desired.drive.text desired.name.text =
        .ok renamed) :
      FolderRelabel setup desk old desired name (.ok ())
        (named.tallied fun tally => { tally with itemsRenamed := tally.itemsRenamed + 1 })
  /-- A call failed while the folder had its new identifier and its children did not follow yet. -/
  | broke {asked extra labelled after store error} (kept : desk.Kept asked extra)
      (wrote : asked.Wrote labelled .rename store fun tally => tally)
      (broke : labelled.Broke setup.faults after) :
      FolderRelabel setup desk old desired name (.error error) after

namespace Action

variable {setup : Setup τ} {first desk : Desk (Cabinet τ)} {extra : List Entry} {c : Contents}

theorem meets_repointFolders (rewrote : first.Rewrote desk c) (children : List EntityId)
    (renamed : EntityId) :
    (children.forM fun child => do
      match ← call (setup.host.store.folder child) with
      | some folder =>
        call (setup.host.store.save (.folder { folder.toFolder with parent := some renamed }))
      | none => return).Meets desk fun result after =>
        match result with
        | .ok _ => ∃ c', first.Rewrote after c' ∧ (∀ x, c'.file? x = c.file? x) ∧
            Rewritten (Folder.into renamed) children c.folder? c'.folder?
        | .error _ => first.Broke setup.faults after := by
  -- `c'` is what pointing the children seen so far at the new identifier has made of `c`.
  refine .forM (fun seen desk => ∃ c', first.Rewrote desk c' ∧ (∀ x, c'.file? x = c.file? x) ∧
    Rewritten (Folder.into renamed) seen c.folder? c'.folder?)
    ⟨c, rewrote, by simp, .nil _⟩ ?_ fun _ held => held
  rintro seen child later split desk ⟨c', rewrote, files, folders⟩
  have sameContents : desk.world.store.contents = c' := by rw [rewrote.store]
  refine .look_ok (.refl desk) (looks_folder setup _ child) (fun _ _ failed => rewrote.broke failed) ?_
  intro found extra kept
  have rewrote := rewrote.kept kept
  rw [sameContents]
  cases stored : c'.folder? child with
  | none =>
    rw [Contents.listing?_eq_none_iff.mpr stored]
    exact .pure ⟨c', rewrote, files, folders.concat_same (by simp [stored, folders.eq_none stored])⟩
  | some folder =>
    simp only [Contents.listing?, stored, Option.map_some]
    obtain ⟨old, found, same⟩ := folders.of_some stored
    have into : (⟨folder.id, folder.name, some renamed⟩ : Folder) = old.into renamed := by
      rcases same with rfl | rfl
      · rfl
      · rfl
    rw [into]
    have sameId := Contents.id_of_folder? found
    have newId : (old.into renamed).id = child := sameId
    refine .written (.refl _) (meets_save _) (fun _ _ failed => rewrote.broke failed) ?_
    refine fun after wrote => ⟨_, rewrote.saved wrote, fun x => ?_, folders.concat fun x => ?_⟩
    · rw [Contents.file?_insert_folder]
      split
      next here =>
        cases here
        rw [newId, Contents.file?_eq_none_of_folder? found]
      next => exact files x
    · rw [Contents.folder?_insert_folder, newId]
      by_cases here : x = child
      · simp [here, found]
      · simp [here, Ne.symm here]

theorem meets_repointFiles (rewrote : first.Rewrote desk c) (children : List EntityId)
    {id renamed : EntityId}
    (listed : ∀ x ∈ children, ∀ file, c.file? x = some file → id ∈ file.parents) :
    (children.forM fun child => do
      match ← call (setup.host.store.file child) with
      | some file =>
        let (moved, changed) := file.reparent (some id) renamed
        if changed then call (setup.host.store.save (.file moved))
      | none => return).Meets desk fun result after =>
        match result with
        | .ok _ => ∃ c', first.Rewrote after c' ∧ (∀ x, c'.folder? x = c.folder? x) ∧
            Rewritten (File.repoint id renamed) children c.file? c'.file?
        | .error _ => first.Broke setup.faults after := by
  refine .forM (fun seen desk => ∃ c', first.Rewrote desk c' ∧ (∀ x, c'.folder? x = c.folder? x) ∧
    Rewritten (File.repoint id renamed) seen c.file? c'.file?)
    ⟨c, rewrote, by simp, .nil _⟩ ?_ fun _ held => held
  rintro seen child later split desk ⟨c', rewrote, folders, files⟩
  have sameContents : desk.world.store.contents = c' := by rw [rewrote.store]
  refine .look_ok (.refl desk) (looks_file setup _ child) (fun _ _ failed => rewrote.broke failed) ?_
  intro found extra kept
  have rewrote := rewrote.kept kept
  rw [sameContents]
  cases stored : c'.file? child with
  | none =>
    exact .pure ⟨c', rewrote, folders, files.concat_same (by simp [stored, files.eq_none stored])⟩
  | some file =>
    obtain ⟨old, found, same⟩ := files.of_some stored
    have inOld : id ∈ old.parents := listed child (by simp [split]) old found
    -- A child that is on the list twice is as it should be the second time.
    have moved : (file.reparent (some id) renamed).1 = old.repoint id renamed := by
      rcases same with rfl | rfl
      · simp [File.repoint, inOld]
      · exact File.reparent_repoint inOld
    dsimp only
    rw [moved]
    split
    next changes =>
      have sameId := Contents.id_of_file? stored
      have newId : (old.repoint id renamed).id = child := by
        rw [← moved]
        exact sameId
      refine .written (.refl _) (meets_save _) (fun _ _ failed => rewrote.broke failed) ?_
      refine fun after wrote => ⟨_, rewrote.saved wrote, fun x => ?_, files.concat fun x => ?_⟩
      · rw [Contents.folder?_insert_file]
        split
        next here =>
          cases here
          rw [newId, ← folders, Contents.folder?_eq_none_of_file? stored]
        next => exact folders x
      · rw [Contents.file?_insert_file, newId]
        by_cases here : x = child
        · simp [here, found]
        · simp [here, Ne.symm here]
    next unchanged =>
      have same := File.reparent_of_unchanged (by simpa using unchanged)
      exact .pure ⟨c', rewrote, folders, files.concat_same (by simp [stored, found, ← moved, same])⟩

theorem meets_repointChildren (rewrote : first.Rewrote desk c) {old : Listing} (renamed : EntityId)
    (listed : ∀ x ∈ old.childFiles, ∀ file, c.file? x = some file → old.id ∈ file.parents) :
    (repointChildren setup.host old renamed).Meets desk fun result after =>
      match result with
      | .ok _ => ∃ c', first.Rewrote after c' ∧
          Rewritten (Folder.into renamed) old.childFolders c.folder? c'.folder? ∧
          Rewritten (File.repoint old.id renamed) old.childFiles c.file? c'.file?
      | .error _ => first.Broke setup.faults after := by
  -- Folders and files are changed one after the other, and neither change touches the other kind.
  refine (meets_repointFolders rewrote old.childFolders renamed).bind ?_ fun _ _ broke => broke
  rintro _ between ⟨c₁, rewrote, files, folders⟩
  have listed (x : EntityId) (member : x ∈ old.childFiles) (file : File)
      (found : c₁.file? x = some file) : old.id ∈ file.parents :=
    listed x member file (files x ▸ found)
  refine (meets_repointFiles rewrote old.childFiles listed).mono fun result after ended => ?_
  cases result with
  | error _ => exact ended
  | ok _ =>
    obtain ⟨c₂, rewrote, folders', files'⟩ := ended
    refine ⟨c₂, rewrote, fun x => ?_, fun x => ?_⟩
    · rw [folders', folders]
    · rw [files', files]

theorem meets_setDisplayName_folder {id : EntityId} {folder : Folder} (name : String)
    (stored : desk.world.store.contents.folder? id = some folder) :
    (setDisplayName setup.host id name).Meets desk fun result after =>
      match result with
      | .ok _ => desk.Changed after (desk.world.store.save (.folder { folder with name }))
          fun tally => tally
      | .error error => desk.Failed setup.faults (fun _ => False) error after := by
  refine .look_ok (.refl desk) (looks_folder setup _ id) (fun _ _ failed => failed) ?_
  intro found extra kept
  simp only [Contents.listing?, stored, Option.map_some]
  refine .written kept (meets_save _) (fun _ _ failed => failed) fun after wrote => ?_
  rw [kept.store] at wrote
  exact ⟨_, _, _, kept, wrote⟩

theorem meets_setDisplayName_file {id : EntityId} {file : File} (name : String)
    (stored : desk.world.store.contents.file? id = some file) :
    (setDisplayName setup.host id name).Meets desk fun result after =>
      match result with
      | .ok _ => desk.Changed after (desk.world.store.save (.file { file with name }))
          fun tally => tally
      | .error error => desk.Failed setup.faults (fun _ => False) error after := by
  refine .look_ok (.refl desk) (looks_folder setup _ id) (fun _ _ failed => failed) ?_
  intro between extra kept
  rw [Contents.listing?_eq_none_iff.mpr (Contents.folder?_eq_none_of_file? stored)]
  refine .look_ok kept (looks_file setup _ id) (fun _ _ failed => failed) ?_
  intro found extra kept
  rw [stored]
  refine .written kept (meets_save _) (fun _ _ failed => failed) fun after wrote => ?_
  rw [kept.store] at wrote
  exact ⟨_, _, _, kept, wrote⟩

theorem meets_assignIdentifier {current : EntityId} {entity : Entity} (desired : EntityId)
    (stored : desk.world.store.contents.find? current = some entity) :
    (assignIdentifier setup.host current desired).Meets desk fun result after =>
      match result with
      | .ok renamed =>
          desk.world.store.freeId setup.suffixing desired.drive.text desired.name.text = .ok renamed ∧
          desk.world.store.allows .edit renamed = true ∧ ∃ between extra, desk.Kept between extra ∧
          between.Wrote after .rename
            ((desk.world.store.discard current).save (entity.withId renamed)) id
      | .error error => desk.Failed setup.faults
          (Unnamed desk.world.store setup.suffixing desired.drive.text desired.name.text) error
          after := by
  have noDestination (target : EntityId) (here : none = some target) :
      ∃ folder, desk.world.store.contents.folder? target = some folder := by cases here
  refine .create (.refl desk) noDestination (fun _ _ failed => failed) ?_
  intro renamed between extra kept given creates
  have unused : between.world.store.has renamed = false := kept.store ▸ creates.unused
  refine .write kept (meets_rename (kept.store ▸ stored) unused) (fun _ _ failed => failed) ?_
  intro after wrote
  rw [kept.store] at wrote
  exact .pure ⟨given, creates.permitted, between, extra, kept, wrote⟩

/-- What is left to do once a folder is in its place. -/
def finishFolder {σ : Type} (host : Host σ) (id desired : EntityId) (old : Listing) (name : String) :
    Action σ Unit :=
  if desired ≠ id then do
    let renamed ← assignIdentifier host id desired
    repointChildren host old renamed
    setDisplayName host renamed name
    count fun t => { t with itemsRenamed := t.itemsRenamed + 1 }
  else pure ()

/-- A stored folder gets its new identifier and its new name, and its children follow. -/
theorem meets_finishFolder {id : EntityId} {folder : Folder} {old : Listing}
    (stored : desk.world.store.contents.folder? id = some folder) (sameId : old.id = id)
    (mem_files : ∀ x, x ∈ old.childFiles ↔
      ∃ file, desk.world.store.contents.file? x = some file ∧ id ∈ file.parents)
    (desired : EntityId) (name : String) :
    (finishFolder setup.host id desired old name).Meets desk
      (FolderRelabel setup desk old desired name) := by
  subst sameId
  unfold finishFolder
  rcases eq_or_ne desired old.id with same | renames
  · rw [if_neg (by simpa using same)]
    exact .pure (.stays same)
  rw [if_pos renames]
  refine (meets_assignIdentifier desired (Contents.folder?_eq_some_iff.mp stored)).bind ?_
    fun _ _ failed => .failed failed
  rintro renamed labelled ⟨given, permitted, between, extra, kept, wrote⟩
  have unused := MemoryStore.unused_of_freeId given
  have shifted : labelled.world.store.contents =
      desk.world.store.contents.shift folder renamed := by
    rw [wrote.store, Contents.shift, Contents.id_of_folder? stored]
    rfl
  -- The files were listed before the folder got its new identifier, and none has changed since.
  have listed (x : EntityId) (member : x ∈ old.childFiles) (file : File)
      (found : labelled.world.store.contents.file? x = some file) : old.id ∈ file.parents := by
    obtain ⟨file', stored', listed⟩ := (mem_files x).mp member
    rw [shifted, Contents.file?_shift] at found
    split at found
    · cases found
    split at found
    · cases found
    cases stored'.symm.trans found
    exact listed
  refine (meets_repointChildren (.refl labelled) renamed listed).bind ?_
    fun _ _ broke => .broke kept wrote broke
  rintro _ pointed ⟨c₁, rewrote, folders, files⟩
  rw [shifted] at folders files
  have same : pointed.world.store.contents = c₁ := by rw [rewrote.store]
  -- It is there to get its name, even if it were a child of its own.
  obtain ⟨current, there⟩ : ∃ current, c₁.folder? renamed = some current := by
    rw [folders, Contents.folder?_shift, if_pos rfl]
    split
    · exact ⟨_, rfl⟩
    · exact ⟨_, rfl⟩
  refine (meets_setDisplayName_folder name (same ▸ there)).bind ?_
    fun _ _ failed => .broke kept wrote (rewrote.broke failed)
  intro _ named changed
  have started : desk.Rewrote labelled (desk.world.store.contents.shift folder renamed) :=
    .of_changed ⟨_, _, _, kept, wrote⟩ (by rw [← shifted, wrote.store]; rfl)
  have ended : desk.Rewrote named (c₁.insert (.folder { current with name })) := by
    refine (started.trans rewrote).trans (.of_changed changed ?_)
    rw [← same]
    rfl
  refine .modify (.renamed unused permitted (fun apart mem_folders => ?_) ended renames given)
  -- The new identifier is not one of a child.
  have notThere : renamed ∉ old.childFolders := by
    intro member
    obtain ⟨_, found, _⟩ := Contents.inside_iff.mp ((mem_folders renamed).mp member)
    simp [Contents.folder?_eq_none_of_unused unused] at found
  have whole : current = { folder with id := renamed } := by
    simpa [folders renamed, notThere, Contents.folder?_shift, eq_comm] using there
  have relabelled := Contents.Relabelled.of_rewriting name stored apart unused mem_folders mem_files
    folders files
  subst whole
  exact relabelled

end Action

end Filing
