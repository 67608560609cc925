import Filing.Proofs.Relabelling

/-!
# Renaming

What comes of giving one item a place and a name of its own is told as a whole, for a folder
(`FolderRename`) and for a file (`FileRename`). A file is renamed by steps.
-/
namespace Filing

variable {τ : Type}

/-- The folder is where it should be, and this is what is stored of it now. -/
inductive Desk.Relocated (desk after : Desk (Cabinet τ)) (folder : Folder) : Prop
  | stays {extra} (kept : desk.Kept after extra)
      (stored : desk.world.store.contents.folder? folder.id = some folder)
  | moved {old target} (into : folder = old.into target)
      (reparents : Reparents desk.world.store old target)
      (changed : desk.Changed after (desk.world.store.save (.folder folder))
        fun tally => { tally with foldersMoved := tally.foldersMoved + 1 })

namespace Desk.Relocated

variable {desk after : Desk (Cabinet τ)} {folder : Folder}

theorem stored (relocated : desk.Relocated after folder) :
    after.world.store.contents.folder? folder.id = some folder := by
  cases relocated with
  | stays kept stored => rwa [kept.store]
  | moved into reparents changed => simp [changed.store_eq, MemoryStore.save]

theorem inside_iff (relocated : desk.Relocated after folder)
    (loopFree : desk.world.store.contents.LoopFree) (x : EntityId) :
    after.world.store.contents.Inside x folder.id ↔
      desk.world.store.contents.Inside x folder.id := by
  cases relocated with
  | stays kept _ => rw [kept.store]
  | @moved old target into reparents changed =>
    cases into
    have sameId : (old.into target).id = old.id := rfl
    rw [changed.store_eq, sameId]
    unfold Contents.Inside MemoryStore.save
    rw [Contents.parentOf_insert_folder, sameId]
    split
    next here =>
      -- The folder does not lie in itself, neither before nor in its destination.
      subst here
      have elsewhere : target ≠ old.id := by
        rintro rfl
        exact reparents.away (Contents.below_refl _ _)
      have apart : ¬ desk.world.store.contents.Inside old.id old.id := fun inside =>
        loopFree.not_below_of_inside inside (Contents.below_refl _ _)
      exact iff_of_false (by simp [Folder.into, elsewhere]) apart
    next => rfl

theorem file? (relocated : desk.Relocated after folder) (x : EntityId) :
    after.world.store.contents.file? x = desk.world.store.contents.file? x := by
  cases relocated with
  | stays kept _ => rw [kept.store]
  | moved into reparents changed =>
    cases into
    rw [changed.store_eq]
    simp only [MemoryStore.save, Contents.file?_insert_folder]
    split
    next here =>
      subst here
      exact (Contents.file?_eq_none_of_folder? reparents.stored).symm
    next => rfl

end Desk.Relocated

/-- What comes of renaming and relocating the folder `id`: it stays, or it gets to its place, where the
name it is to have is free. -/
inductive FolderRename (setup : Setup τ) (desk : Desk (Cabinet τ)) (id : EntityId)
    (target : Option EntityId) (desired : EntityId) :
    Except RequestError Unit → Desk (Cabinet τ) → Prop
  | kept {after extra} (kept : desk.Kept after extra)
      (idle : ∀ folder, desk.world.store.contents.folder? id = some folder →
        desired = id ∧ (target <|> folder.parent) = folder.parent) :
      FolderRename setup desk id target desired (.ok ()) after
  | failed {after error} (failed : desk.Failed setup.faults (Hindered desk.world.store) error after) :
      FolderRename setup desk id target desired (.error error) after
  | placed {between after listing folder result}
      (listed : desk.world.store.contents.listing? id = some listing) (sameId : folder.id = id)
      (place : folder.parent = (target <|> listing.parent))
      (free : ∀ parent, folder.parent = some parent → desk.world.store.contents.FreeFolderName
        (Action.nameAfter id desired listing.name) parent (some id))
      (relocated : desk.Relocated between folder)
      (ended : FolderRelabel setup between listing desired
        (Action.nameAfter id desired listing.name) result after)
      (permitted : desk.world.store.allows .delete id = true) :
      FolderRename setup desk id target desired result after

/-- The children of a folder go with it. -/
theorem Desk.Relocated.children {desk after : Desk (Cabinet τ)} {folder : Folder} {listing : Listing}
    (relocated : desk.Relocated after folder) (loopFree : desk.world.store.contents.LoopFree)
    (listed : desk.world.store.contents.listing? folder.id = some listing) :
    ¬ after.world.store.contents.Inside listing.id listing.id ∧
      ∀ x, x ∈ listing.childFolders ↔ after.world.store.contents.Inside x listing.id := by
  obtain ⟨found, folders, _⟩ := Contents.listing?_eq_some_iff.mp listed
  have sameId : listing.id = folder.id := Contents.id_of_folder? found
  rw [sameId]
  refine ⟨fun inside => ?_, fun x => ?_⟩
  · rw [relocated.inside_iff loopFree] at inside
    exact loopFree.not_below_of_inside inside (Contents.below_refl _ _)
  · rw [relocated.inside_iff loopFree, folders, Contents.mem_childFolders_iff_inside]

/-- The file in the folder it is to be in. -/
def File.relocate (file : File) (source target : Option EntityId) : File :=
  match Action.relocation source target with
  | some goal => (file.reparent source goal).1
  | none => file

/-- The file is where it should be. -/
inductive Desk.Refiled (desk after : Desk (Cabinet τ)) (file : File)
    (source target : Option EntityId) : Prop
  | stays {extra} (kept : desk.Kept after extra)
      (stored : desk.world.store.contents.file? file.id = some file)
      (same : file.relocate source target = file)
  | moved {goal} (place : Action.relocation source target = some goal)
      (relists : Relists desk.world.store file source goal)
      (changed : desk.Changed after (desk.world.store.save (.file (file.reparent source goal).1))
        fun tally => { tally with filesMoved := tally.filesMoved + 1 })

/-- The file is stored under another identifier. -/
structure Desk.Labelled (desk after : Desk (Cabinet τ)) (file : File) (renamed : EntityId) : Prop where
  unused : desk.world.store.has renamed = false
  permitted : desk.world.store.allows .edit renamed = true
  changed : desk.Changed after
    ((desk.world.store.discard file.id).save (.file { file with id := renamed })) fun tally => tally

/-- What comes of giving a file that is in its place a new identifier and a new name. -/
inductive FileRelabel (setup : Setup τ) (desk : Desk (Cabinet τ)) (file : File)
    (desired : EntityId) (name : String) : Except RequestError Unit → Desk (Cabinet τ) → Prop
  | stays (same : desired = file.id) : FileRelabel setup desk file desired name (.ok ()) desk
  | failed {after error} (failed : desk.Failed setup.faults
      (Unnamed desk.world.store setup.suffixing desired.drive.text desired.name.text) error after) :
      FileRelabel setup desk file desired name (.error error) after
  | renamed {labelled after renamed} (labels : desk.Labelled labelled file renamed)
      (changed : labelled.Changed after
        (labelled.world.store.save (.file { file with id := renamed, name }))
        fun tally => { tally with itemsRenamed := tally.itemsRenamed + 1 })
      (differs : desired ≠ file.id)
      (given : desk.world.store.freeId setup.suffixing desired.drive.text desired.name.text =
        .ok renamed) :
      FileRelabel setup desk file desired name (.ok ()) after
  /-- The file has its new identifier, but its name could not be saved. -/
  | stuck {labelled after renamed error} (labels : desk.Labelled labelled file renamed)
      (failed : labelled.Failed setup.faults (fun _ => False) error after) :
      FileRelabel setup desk file desired name (.error error) after

/-- What comes of renaming and relocating the file `id`: it stays, or it gets to its place, and the name
it is to have is free wherever it is listed then. -/
inductive FileRename (setup : Setup τ) (desk : Desk (Cabinet τ)) (id : EntityId)
    (source target : Option EntityId) (desired : EntityId) :
    Except RequestError Unit → Desk (Cabinet τ) → Prop
  | kept {after extra} (kept : desk.Kept after extra)
      (idle : ∀ file, desk.world.store.contents.file? id = some file →
        desired = id ∧ Action.relocation source target = none) :
      FileRename setup desk id source target desired (.ok ()) after
  | failed {after error} (failed : desk.Failed setup.faults (Hindered desk.world.store) error after) :
      FileRename setup desk id source target desired (.error error) after
  | placed {between after file result} (stored : desk.world.store.contents.file? id = some file)
      (free : ∀ parent ∈ (file.relocate source target).parents,
        (∃ folder, desk.world.store.contents.folder? parent = some folder) →
        desk.world.store.contents.FreeFileName (Action.nameAfter id desired file.name) parent (some id))
      (refiled : desk.Refiled between file source target)
      (ended : FileRelabel setup between (file.relocate source target) desired
        (Action.nameAfter id desired file.name) result after)
      (permitted : desk.world.store.allows .delete id = true) :
      FileRename setup desk id source target desired result after

section

variable {setup : Setup τ} {desk after : Desk (Cabinet τ)} {file : File}

theorem Desk.Refiled.stored {source target : Option EntityId}
    (refiled : desk.Refiled after file source target) :
    after.world.store.contents.file? file.id = some (file.relocate source target) := by
  cases refiled with
  | stays kept stored same => rw [kept.store, same, stored]
  | @moved goal place relists changed =>
    have sameId : (file.reparent source goal).1.id = file.id := rfl
    simp [changed.store_eq, MemoryStore.save, File.relocate, place, sameId]

theorem Desk.Refiled.traced {source target : Option EntityId}
    (refiled : desk.Refiled after file source target) (move : desk.rules.operation = .move)
    (single : desk.rules.mode = .single) : desk.Traced after := by
  cases refiled with
  | stays kept _ _ => exact kept.traced
  | moved _ relists changed => exact changed.traced (.relocateFile move single relists)

theorem Desk.Labelled.stored {renamed : EntityId} (labels : desk.Labelled after file renamed) :
    after.world.store.contents.file? renamed = some { file with id := renamed } := by
  simp [labels.changed.store_eq, MemoryStore.save]

theorem Desk.Labelled.traced {renamed : EntityId} (labels : desk.Labelled after file renamed)
    (stored : desk.world.store.contents.file? file.id = some file)
    (move : desk.rules.operation = .move) (single : desk.rules.mode = .single) :
    desk.Traced after :=
  labels.changed.traced (.relabelFile move single stored labels.unused labels.permitted)

theorem FileRelabel.traced {desired : EntityId} {name : String} {result : Except RequestError Unit}
    (ended : FileRelabel setup desk file desired name result after)
    (stored : desk.world.store.contents.file? file.id = some file)
    (move : desk.rules.operation = .move) (single : desk.rules.mode = .single) :
    desk.Traced after := by
  cases ended with
  | stays _ => exact .refl desk
  | failed failed => exact failed.traced
  | @renamed labelled _ renamed labels changed _ _ =>
    have traced := labels.traced stored move single
    have there : labelled.world.store.contents.file? ({ file with id := renamed } : File).id =
        some { file with id := renamed } := labels.stored
    refine traced.trans (changed.traced ?_)
    exact .retitleFile (traced.rules ▸ move) (traced.rules ▸ single) there
  | stuck labels failed => exact (labels.traced stored move single).trans failed.traced

end

namespace Action

variable {setup : Setup τ} {desk : Desk (Cabinet τ)}

/-- A folder stays or fails, or it gets to its place and is left to get its identifier. -/
theorem Meets.renameFolder {depth : Nat} {id desired : EntityId} {target : Option EntityId}
    {post : Except RequestError Unit → Desk (Cabinet τ) → Prop}
    (idle : ∀ after extra, desk.Kept after extra →
      (∀ folder, desk.world.store.contents.folder? id = some folder →
        desired = id ∧ (target <|> folder.parent) = folder.parent) → post (.ok ()) after)
    (failed : ∀ error after, desk.Failed setup.faults (Hindered desk.world.store) error after →
      post (.error error) after)
    (placed : ∀ between listing folder, desk.world.store.contents.listing? id = some listing →
      folder.id = id → folder.parent = (target <|> listing.parent) →
      (∀ parent, folder.parent = some parent → desk.world.store.contents.FreeFolderName
        (nameAfter id desired listing.name) parent (some id)) →
      desk.Relocated between folder → desk.world.store.allows .delete id = true →
      (finishFolder setup.host id desired listing (nameAfter id desired listing.name)).Meets between
        post) :
    (Action.renameFolder setup.host depth id target desired).Meets desk post := by
  unfold Action.renameFolder
  refine .lookFolder (.refl desk) failed (fun _ extra kept missing => ?_)
    fun folder _ extra kept listed => ?_
  · exact .pure (idle _ _ kept (by simp [missing]))
  · have stored := (Contents.listing?_eq_some_iff.mp listed).1
    have sameId : folder.id = id := Contents.id_of_folder? stored
    refine .require kept failed (fun _ refused => .forbidden refused) ?_
    intro asked extra kept removable
    dsimp only
    split
    next acts =>
      refine .place (fun parent => ¬ desk.world.store.contents.Below parent id ∧
        desk.world.store.contents.FreeFolderName (nameAfter id desired folder.name) parent (some id))
        kept failed ?_ ?_
      · exact fun parent destination between extra _ kept opened =>
          meets_checkPlace kept opened depth id _ (some id)
      · intro settled extra kept fits
        -- Whether it had to be relocated or not, the same is left to do.
        have finish {between : Desk (Cabinet τ)} {there : Folder}
            (relocated : desk.Relocated between there) (sameId' : there.id = id)
            (place : there.parent = (target <|> folder.parent)) :
            (finishFolder setup.host id desired folder (nameAfter id desired folder.name)).Meets between
              post :=
          placed between folder there listed sameId' place
            (fun parent up => (fits parent (place ▸ up)).1.2) relocated removable
        split
        next moves =>
          have goes : ∃ goal, (target <|> folder.parent) = some goal ∧ folder.parent ≠ some goal := by
            cases target with
            | none => simp at moves
            | some goal => exact ⟨goal, rfl, fun same => by simp [same] at moves⟩
          obtain ⟨goal, place, differs⟩ := goes
          obtain ⟨⟨away, free⟩, destination⟩ := fits goal place
          refine .require kept failed (fun _ refused => .forbidden refused) ?_
          intro allowed extra kept permitted
          have reparents : Reparents desk.world.store folder.toFolder goal :=
            ⟨sameId.symm ▸ stored, destination, sameId.symm ▸ away, sameId.symm ▸ permitted, differs⟩
          refine .write kept (meets_save _) failed fun saved wrote => ?_
          rw [kept.store, place] at wrote
          refine .counted wrote fun between counted => ?_
          have relocated : desk.Relocated between (folder.toFolder.into goal) :=
            .moved rfl reparents ⟨_, _, _, kept, counted⟩
          exact finish relocated sameId place.symm
        next stays =>
          have place : folder.parent = (target <|> folder.parent) := by simpa [eq_comm] using stays
          have relocated : desk.Relocated settled folder.toFolder := .stays kept (sameId.symm ▸ stored)
          exact finish relocated sameId place
    next still =>
      refine .pure (idle _ _ kept fun other found => ?_)
      cases stored.symm.trans found
      simpa [not_or, and_comm] using still

theorem meets_renameFolder (depth : Nat) (id : EntityId) (target : Option EntityId) (desired : EntityId) :
    (renameFolder setup.host depth id target desired).Meets desk
      (FolderRename setup desk id target desired) := by
  refine .renameFolder (fun _ _ kept idle => .kept kept idle) (fun _ _ failed => .failed failed) ?_
  rintro between listing folder listed rfl place free relocated removable
  obtain ⟨found, _, files⟩ := Contents.listing?_eq_some_iff.mp listed
  have sameId : listing.id = folder.id := Contents.id_of_folder? found
  refine (meets_finishFolder relocated.stored sameId (fun x => ?_) desired _).mono fun _ _ ended => ?_
  · simp only [relocated.file?, files, Contents.mem_childFiles]
  · exact .placed listed rfl place free relocated ended removable

/-! ## Files -/

theorem looks_checkName (setup : Setup τ) (store : MemoryStore) (id : EntityId) (name : String)
    (parent : EntityId) :
    Looks setup.faults store (do
      match ← call (setup.host.store.folder parent) with
      | none => return
      | some folder =>
        if (← childFileNamed setup.host folder name (some id)).isSome then
          throw (.nameCollision name parent) : Action (Cabinet τ) Unit) fun result =>
        match result with
        | .ok _ => (∃ folder, store.contents.folder? parent = some folder) →
            store.contents.FreeFileName name parent (some id)
        | .error error => Hindered store error := by
  refine .bind_ok (looks_folder setup store parent) ?_
  split
  next gone => exact .pure (by simp [Contents.listing?_eq_none_iff.mp gone])
  next folder opened =>
    refine (looks_childFileNamed setup opened name (some id)).bind ?_ (by rintro _ ⟨_, ⟨⟩, _⟩)
    rintro clash ⟨_, ⟨⟩, told⟩
    cases clash with
    | none => exact .pure fun _ => told
    | some existing => exact .throw .taken

theorem looks_requireFreeName (setup : Setup τ) (store : MemoryStore) (id : EntityId) (name : String)
    (parents : List EntityId) :
    Looks setup.faults store (requireFreeName setup.host id name parents) fun result =>
      match result with
      | .ok _ => ∀ parent ∈ parents, (∃ folder, store.contents.folder? parent = some folder) →
          store.contents.FreeFileName name parent (some id)
      | .error error => Hindered store error := by
  induction parents with
  | nil => exact .pure (by simp)
  | cons parent later ih =>
    refine (looks_checkName setup store id name parent).bind
      (fun _ free => ih.mono fun result told => ?_) fun _ hindered => hindered
    cases result with
    | error _ => exact told
    | ok _ =>
      intro folder member
      rcases List.mem_cons.mp member with rfl | member
      · exact free
      · exact told folder member

/-- What is left to do once the file is in its place. -/
def finishFile {σ : Type} (host : Host σ) (id desired : EntityId) (name : String) : Action σ Unit :=
  if desired ≠ id then do
    let renamed ← assignIdentifier host id desired
    setDisplayName host renamed name
    count fun t => { t with itemsRenamed := t.itemsRenamed + 1 }
  else pure ()

theorem meets_finishFile {file : File} {id : EntityId}
    (stored : desk.world.store.contents.file? id = some file) (desired : EntityId) (name : String) :
    (finishFile setup.host id desired name).Meets desk (FileRelabel setup desk file desired name) := by
  cases Contents.id_of_file? stored
  unfold finishFile
  split
  next renames =>
    refine (meets_assignIdentifier desired (Contents.file?_eq_some_iff.mp stored)).bind ?_
      fun _ _ failed => .failed failed
    rintro renamed labelled ⟨given, permitted, _, _, kept, wrote⟩
    have labels : desk.Labelled labelled file renamed :=
      ⟨MemoryStore.unused_of_freeId given, permitted, _, _, _, kept, wrote⟩
    refine (meets_setDisplayName_file name labels.stored).bind ?_ fun _ _ failed => .stuck labels failed
    rintro _ _ ⟨_, _, _, kept, wrote⟩
    exact .count wrote fun _ counted => .renamed labels ⟨_, _, _, kept, counted⟩ renames given
  next same => exact .pure (.stays (by simpa using same))

/-- A file stays or fails, or it gets to its place and is left to get its identifier. -/
theorem Meets.renameFile {id desired : EntityId} {source target : Option EntityId}
    {post : Except RequestError Unit → Desk (Cabinet τ) → Prop}
    (idle : ∀ after extra, desk.Kept after extra →
      (∀ file, desk.world.store.contents.file? id = some file →
        desired = id ∧ relocation source target = none) → post (.ok ()) after)
    (failed : ∀ error after, desk.Failed setup.faults (Hindered desk.world.store) error after →
      post (.error error) after)
    (placed : ∀ between file, desk.world.store.contents.file? id = some file → file.id = id →
      (∀ parent ∈ (file.relocate source target).parents,
        (∃ folder, desk.world.store.contents.folder? parent = some folder) →
        desk.world.store.contents.FreeFileName (nameAfter id desired file.name) parent (some id)) →
      desk.Refiled between file source target → desk.world.store.allows .delete id = true →
      (finishFile setup.host id desired (nameAfter id desired file.name)).Meets between post) :
    (Action.renameFile setup.host id source target desired).Meets desk post := by
  unfold Action.renameFile
  refine .look_ok (.refl desk) (looks_file setup _ id) failed ?_
  intro between extra kept
  cases stored : desk.world.store.contents.file? id with
  | none => exact .pure (idle _ _ kept (by simp [stored]))
  | some file =>
    cases Contents.id_of_file? stored
    refine .require kept failed (fun _ refused => .forbidden refused) ?_
    intro asked extra kept removable
    dsimp only
    refine .place (fun _ => desk.world.store.allows .edit file.id = true) kept failed ?_ ?_
    · intro goal destination between extra _ kept opened
      refine (meets_require kept .edit file.id).mono fun result after ended => ?_
      cases result with
      | ok _ => exact ended
      | error _ => exact ended.mono fun _ denied => .forbidden ⟨_, _, denied⟩
    · intro settled extra kept fits
      split
      next acts =>
        refine .look kept (looks_requireFreeName setup _ file.id _ _) failed (fun _ taken => taken) ?_
        intro _ between extra kept free
        -- As with a folder, the same is left to do in any case.
        have finish {there : Desk (Cabinet τ)}
            (free : ∀ parent ∈ (file.relocate source target).parents,
              (∃ folder, desk.world.store.contents.folder? parent = some folder) →
              desk.world.store.contents.FreeFileName (nameAfter file.id desired file.name) parent
                (some file.id))
            (refiled : desk.Refiled there file source target) :
            (finishFile setup.host file.id desired (nameAfter file.id desired file.name)).Meets there
              post :=
          placed there file stored rfl free refiled removable
        cases place : relocation source target with
        | none =>
          have same : file.relocate source target = file := by simp [File.relocate, place]
          rw [place] at free
          refine finish ?_ (.stays kept stored same)
          rw [same]
          exact free
        | some goal =>
          have goes : file.relocate source target = (file.reparent source goal).1 := by
            simp [File.relocate, place]
          rw [place] at free
          change ∀ parent ∈ (file.reparent source goal).1.parents, _ at free
          rw [← goes] at free
          obtain ⟨permitted, destination⟩ := fits goal place
          dsimp only
          split
          next changes =>
            have relists : Relists desk.world.store file source goal :=
              ⟨stored, destination, permitted, changes⟩
            refine .write kept (meets_save _) failed fun saved wrote => ?_
            rw [kept.store] at wrote
            refine .counted wrote fun after counted => ?_
            exact finish free (.moved place relists ⟨_, _, _, kept, counted⟩)
          next same =>
            -- It is listed there already, and no longer where it comes from.
            have unchanged := File.reparent_of_unchanged (by simpa using same)
            exact finish free (.stays kept stored (goes.trans unchanged))
      next still =>
        refine .pure (idle _ _ kept fun _ _ => ?_)
        simpa [and_comm] using still

theorem meets_renameFile (id : EntityId) (source target : Option EntityId) (desired : EntityId) :
    (renameFile setup.host id source target desired).Meets desk
      (FileRename setup desk id source target desired) := by
  refine .renameFile (fun _ _ kept idle => .kept kept idle) (fun _ _ failed => .failed failed) ?_
  rintro between file stored rfl free refiled removable
  exact (meets_finishFile refiled.stored desired _).mono fun _ _ ended =>
    .placed stored free refiled ended removable

variable {rules : Rules}

theorem traces_renameFile (move : rules.operation = .move) (single : rules.mode = .single)
    (id : EntityId) (source target : Option EntityId) (desired : EntityId) :
    Traces rules (renameFile setup.host id source target desired) := by
  rintro desk rfl
  refine (meets_renameFile id source target desired).mono fun result after ended => ?_
  cases ended with
  | kept kept _ => exact kept.traced
  | failed failed => exact failed.traced
  | placed _ _ refiled ended _ =>
    have traced := refiled.traced move single
    refine traced.trans (ended.traced ?_ (traced.rules ▸ move) (traced.rules ▸ single))
    rw [Contents.id_of_file? refiled.stored]
    exact refiled.stored

end Action

end Filing
