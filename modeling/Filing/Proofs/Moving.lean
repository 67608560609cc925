import Filing.Proofs.Removal

/-!
# Moving

What comes of moving one file (`FileMove`), rules that say step by step what moving a file or a folder
goes through, and that a move into a folder is traced.
-/
namespace Filing

variable {τ : Type}

/-- There is nothing to move to, or what is to be moved may not be edited. -/
def MoveRefused (store : MemoryStore) (id target : EntityId) (error : RequestError) : Prop :=
  Denied store .edit id error ∨
    store.contents.folder? target = none ∧ error = .destinationMissing target

/-- The folder would end up inside itself, or something else is in the way. -/
def FolderMoveRefused (store : MemoryStore) (id target : EntityId) (error : RequestError) : Prop :=
  MoveRefused store id target error ∨ store.contents.Below target id ∧ error = .cycle id

/-- What comes of moving the file `id` from `source` to `target`. -/
inductive FileMove (faults : Faults τ) (desk : Desk (Cabinet τ)) (id : EntityId)
    (source : Option EntityId) (target : EntityId) :
    Except RequestError Unit → Desk (Cabinet τ) → Prop
  | missing {after extra} (kept : desk.Kept after extra)
      (missing : desk.world.store.contents.file? id = none) : FileMove faults desk id source target
        (.ok ()) after
  | already {after extra} (kept : desk.Kept after extra) (same : source = some target) :
      FileMove faults desk id source target (.ok ()) after
  /-- Another file has the name, and it stays. -/
  | clashes {after extra file existing} (kept : desk.Kept after extra)
      (stored : desk.world.store.contents.file? id = some file)
      (clash : Clash desk.world.store.contents file.name existing target (some id)) :
      FileMove faults desk id source target (.ok ()) after
  /-- The file is where it should be. -/
  | idle {after file} (stored : desk.world.store.contents.file? id = some file)
      (room : desk.Room after file target (some id))
      (same : (file.reparent source target).2 = false) :
      FileMove faults desk id source target (.ok ()) after
  | moved {between after file} (room : desk.Room between file target (some id))
      (relists : Relists desk.world.store file source target) (sameId : file.id = id)
      (wrote : between.Wrote after .save
        (between.world.store.save (.file (file.reparent source target).1))
        fun tally => { tally with filesMoved := tally.filesMoved + 1 }) :
      FileMove faults desk id source target (.ok ()) after
  /-- There was room, but the file could not be saved. -/
  | stuck {between after file error} (stored : desk.world.store.contents.file? id = some file)
      (room : desk.Room between file target (some id))
      (failed : between.Failed faults (fun _ => False) error after) :
      FileMove faults desk id source target (.error error) after
  | failed {after error}
      (failed : desk.Failed faults (MoveRefused desk.world.store id target) error after) :
      FileMove faults desk id source target (.error error) after
  /-- The other file may not be taken out. -/
  | hindered {after error} (failed : desk.Failed faults (Refused desk.world.store) error after) :
      FileMove faults desk id source target (.error error) after

namespace Action

variable {setup : Setup τ} {desk : Desk (Cabinet τ)}

/-- The last part of moving a file: it is listed in its new place. -/
def relist {σ : Type} (host : Host σ) (file : File) (source : Option EntityId) (target : EntityId) :
    Action σ Unit :=
  let (moved, changed) := file.reparent source target
  if changed then do
    call (host.store.save (.file moved))
    count fun t => { t with filesMoved := t.filesMoved + 1 }
  else pure ()

theorem meets_relist (file : File) (source : Option EntityId) (target : EntityId) :
    (relist setup.host file source target).Meets desk fun result after =>
      match result with
      | .ok _ => ((file.reparent source target).2 = false ∧ after = desk) ∨
          (file.reparent source target).2 = true ∧ desk.Wrote after .save
            (desk.world.store.save (.file (file.reparent source target).1))
            (fun tally => { tally with filesMoved := tally.filesMoved + 1 }) ∧
            setup.faults.Drift desk.world.around after.world.around
      | .error error => desk.Missed setup.faults (fun _ => False) error after := by
  unfold relist
  dsimp only
  split
  next changes =>
    refine .alter (.refl desk) (meets_save _) (fun _ _ missed => missed) fun after wrote drift => ?_
    exact .tally (.inr ⟨changes, wrote.counted _, drift⟩)
  next same => exact .pure (.inl ⟨by simpa using same, rfl⟩)

/-- A file stays, fails, or is listed in its new place as soon as there is room for it. -/
theorem Meets.moveFile {id : EntityId} {source : Option EntityId} {target : EntityId}
    {post : Except RequestError Unit → Desk (Cabinet τ) → Prop}
    (stays : ∀ after extra, desk.Glanced setup.faults after extra →
      (desk.world.store.contents.file? id = none ∨ source = some target) → post (.ok ()) after)
    (failed : ∀ error after,
      desk.Missed setup.faults (MoveRefused desk.world.store id target) error after →
      post (.error error) after)
    (hindered : ∀ file error after, desk.world.store.contents.file? file.id = some file →
      file.id = id → desk.Prepares setup file target (some id) (.error error) after →
      post (.error error) after)
    (clashes : ∀ file after, desk.world.store.contents.file? file.id = some file → file.id = id →
      desk.Prepares setup file target (some id) (.ok false) after → post (.ok ()) after)
    (roomed : ∀ file roomed, desk.world.store.contents.file? file.id = some file → file.id = id →
      source ≠ some target → (∃ folder, desk.world.store.contents.folder? target = some folder) →
      desk.world.store.allows .edit id = true →
      desk.Prepares setup file target (some id) (.ok true) roomed →
      (relist setup.host file source target).Meets roomed post) :
    (Action.moveFile setup.host id source target).Meets desk post := by
  unfold Action.moveFile
  refine .glance_ok (.refl desk) (looks_file setup _ id) (fun _ _ missed => failed _ _ missed) ?_
  intro between extra glanced
  cases stored : desk.world.store.contents.file? id with
  | none => exact .pure (stays _ _ glanced (.inl stored))
  | some file =>
    cases Contents.id_of_file? stored
    dsimp only
    split
    next same => exact .pure (stays _ _ glanced (.inr same))
    next elsewhere =>
      refine .permit glanced failed (fun _ denied => .inl denied) ?_
      intro asked extra glanced permitted
      refine .glanceFolder glanced failed (fun _ extra glanced missing => ?_)
        fun destination _ extra glanced listed => ?_
      · exact .throw (failed _ _ ⟨extra, glanced, .inl (.inr ⟨missing, rfl⟩)⟩)
      · have there := (Contents.listing?_eq_some_iff.mp listed).1
        -- From here on the file and its destination are known to be stored.
        refine (meets_makeRoom glanced listed).bind ?_ (hindered file · · stored rfl)
        intro free after prepares
        cases free with
        | false => exact .pure (clashes file after stored rfl prepares)
        | true => exact roomed file after stored rfl elsewhere ⟨_, there⟩ permitted prepares

theorem meets_moveFile (id : EntityId) (source : Option EntityId) (target : EntityId) :
    (moveFile setup.host id source target).Meets desk
      (FileMove setup.faults desk id source target) := by
  refine .moveFile ?_ (fun _ _ missed => .failed missed.failed) ?_ ?_ ?_
  · rintro after extra glanced (missing | same)
    · exact .missing glanced.kept missing
    · exact .already glanced.kept same
  · rintro file error after stored rfl prepares
    have refused : desk.Failed setup.faults (Refused desk.world.store) error after :=
      prepares.rooms stored (.inl rfl)
    exact .hindered refused
  · rintro file after stored rfl prepares
    obtain ⟨extra, existing, kept, clash⟩ := prepares.rooms stored (.inl rfl)
    exact .clashes kept stored clash
  · rintro file roomed stored rfl _ destination permitted prepares
    have room : desk.Room roomed file target (some file.id) := prepares.rooms stored (.inl rfl)
    refine (meets_relist file source target).mono fun result after ended => ?_
    cases result with
    | error error => exact .stuck stored room ended.failed
    | ok _ =>
      rcases ended with ⟨same, rfl⟩ | ⟨changes, wrote, _⟩
      · exact .idle stored room same
      · exact .moved room ⟨stored, destination, permitted, changes⟩ rfl wrote

/-- A folder stays, fails, is moved as a whole or is merged into another one. -/
theorem Meets.moveFolder {depth : Nat} {id target : EntityId}
    {post : Except RequestError Unit → Desk (Cabinet τ) → Prop}
    (stays : ∀ after extra, desk.Glanced setup.faults after extra →
      (∀ folder, desk.world.store.contents.folder? id = some folder → folder.parent = some target) →
      post (.ok ()) after)
    (failed : ∀ error after,
      desk.Missed setup.faults (FolderMoveRefused desk.world.store id target) error after →
      post (.error error) after)
    (moved : ∀ after folder, folder.id = id → Reparents desk.world.store folder target →
      desk.world.store.contents.FreeFolderName folder.name target (some id) →
      desk.Altered setup.faults after
        (desk.world.store.save (.folder { folder with parent := some target }))
        (fun tally => { tally with foldersMoved := tally.foldersMoved + 1 }) → post (.ok ()) after)
    (merges : ∀ between extra folder existing, desk.Glanced setup.faults between extra →
      folder.id = id → desk.world.store.contents.listing? id = some folder →
      Reparents desk.world.store folder.toFolder target →
      FolderClash desk.world.store.contents folder.name existing target (some id) →
      (mergeFolder setup.host (Action.moveFolder setup.host depth) folder existing).Meets between
        post) :
    (Action.moveFolder setup.host (depth + 1) id target).Meets desk post := by
  unfold Action.moveFolder
  refine .glance (.refl desk) (looks_isDescendantOrSelf setup _ (depth + 1) target id) failed
    (by rintro _ ⟨_, ⟨⟩, _⟩) ?_
  rintro _ between extra glanced ⟨below, ⟨⟩, exact⟩
  split
  next under => exact .throw (failed _ _ ⟨extra, glanced, .inl (.inr ⟨exact.mp under, rfl⟩)⟩)
  next notUnder =>
    have away : ¬ desk.world.store.contents.Below target id := fun below => notUnder (exact.mpr below)
    refine .glanceFolder glanced failed (fun _ extra glanced missing => ?_)
      fun folder _ extra glanced listed => ?_
    · exact .pure (stays _ _ glanced (by simp [missing]))
    · have stored := (Contents.listing?_eq_some_iff.mp listed).1
      have sameId : folder.id = id := Contents.id_of_folder? stored
      dsimp only
      split
      next already => exact .pure (stays _ _ glanced (by simp [stored, already]))
      next elsewhere =>
        refine .permit glanced failed (fun _ denied => .inl (.inl denied)) ?_
        intro asked extra glanced permitted
        refine .glanceFolder glanced failed (fun _ extra glanced missing => ?_)
          fun destination _ extra glanced opened => ?_
        · exact .throw (failed _ _ ⟨extra, glanced, .inl (.inl (.inr ⟨missing, rfl⟩))⟩)
        · -- Everything else has been made sure of. What is left depends on the name.
          have there := (Contents.listing?_eq_some_iff.mp opened).1
          have reparents : Reparents desk.world.store folder.toFolder target :=
            ⟨sameId.symm ▸ stored, ⟨_, there⟩, sameId.symm ▸ away, sameId.symm ▸ permitted, elsewhere⟩
          refine .glance glanced (looks_childFolderNamed setup opened folder.name (some id)) failed
            (by rintro _ ⟨_, ⟨⟩, _⟩) ?_
          rintro _ named extra glanced ⟨_, ⟨⟩, clash⟩
          split at clash
          next free =>
            refine .alter glanced (meets_save _) failed fun after wrote drift => ?_
            rw [glanced.store] at wrote
            refine .tally (moved _ folder.toFolder sameId reparents clash ?_)
            exact ⟨_, _, _, glanced, wrote.counted _, drift⟩
          next existing =>
            exact merges named extra folder existing glanced sameId listed reparents clash

/-! ## Traces -/

variable {rules : Rules} (move : rules.operation = .move) (bulk : rules.mode = .bulk)
include move bulk

theorem traces_moveFile (id : EntityId) (source : Option EntityId) (target : EntityId) :
    Traces rules (moveFile setup.host id source target) := by
  rintro desk rfl
  have notDelete : desk.rules.operation ≠ .delete := by simp [move]
  refine (meets_moveFile id source target).mono fun result after ended => ?_
  cases ended with
  | missing kept _ => exact kept.traced
  | already kept _ => exact kept.traced
  | clashes kept _ _ => exact kept.traced
  | idle _ room _ => exact room.traced notDelete
  | moved room relists sameId wrote =>
    refine wrote.traced (room.traced notDelete) (.single ?_)
    -- To take another file's place is a step of its own kind.
    cases room with
    | free kept free =>
      rw [kept.store, kept.tally]
      exact .relist move bulk relists (sameId.symm ▸ free)
    | evicted displaces changed =>
      rw [changed.store_eq, changed.tally]
      exact .displace move bulk displaces relists
  | stuck _ room failed => exact (room.traced notDelete).trans failed.traced
  | failed failed => exact failed.traced
  | hindered failed => exact failed.traced

/-- The last item of a merged folder's level. -/
theorem traces_removeIfEmpty (id : EntityId) :
    Traces rules (discard (removeIfEmpty setup.host id)) := by
  rintro desk rfl
  refine .removeIfEmpty (fun _ _ _ glanced => glanced.kept.traced) ?_
  exact fun _ dissolves altered => altered.changed.traced (.dissolve move bulk dissolves)

theorem traces_moveFolder (depth : Nat) (id target : EntityId) :
    Traces rules (moveFolder setup.host depth id target) := by
  induction depth generalizing id target with
  | zero => exact fun _ _ => .tooDeep
  | succ depth ih =>
    rintro desk rfl
    refine .moveFolder ?_ ?_ ?_ ?_
    · exact fun _ _ glanced _ => glanced.kept.traced
    · exact fun _ _ missed => missed.failed.traced
    · rintro after folder rfl reparents free altered
      exact altered.changed.traced (.reparent move bulk reparents free)
    · intro between extra folder existing glanced _ _ _ _
      refine Traces.after ?_ glanced.kept.traced
      -- The rules are those of the first desk all along.
      rw [glanced.kept.rules]
      refine .bind (.count fun _ _ => .merge (by simp [move])) fun _ => ?_
      refine .inLevel (.bind (.forM fun child => (ih child existing).item) fun _ => ?_)
      refine .bind (.forM fun child => ?_) fun _ => .item ?_
      · exact (traces_moveFile move bulk child (some folder.id) existing).item
      · exact traces_removeIfEmpty move bulk folder.id

end Action

end Filing
