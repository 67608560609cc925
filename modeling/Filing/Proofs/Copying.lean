import Filing.Proofs.Moving

/-!
# Copying

What comes of creating a folder or a file and of copying one file (`FileCopy`), and that a copy is
traced.
-/
namespace Filing

variable {τ : Type}

/-- What may stand in the way of a copy or of a new name. -/
inductive Hindered (store : MemoryStore) : RequestError → Prop
  | forbidden {error} (refused : Refused store error) : Hindered store error
  | missing {folder} (gone : store.contents.folder? folder = none) :
      Hindered store (.destinationMissing folder)
  | cycle {folder target} (below : store.contents.Below target folder) :
      Hindered store (.cycle folder)
  /-- In a copy under a name of its own, a sibling has that name. -/
  | taken {name parent} : Hindered store (.nameCollision name parent)
  /-- There is no identifier for the copy. -/
  | unnamed {cause} : Hindered store (.storage (some cause))

/-- No identifier can be had near the desired one: none is free, or the free one may not be used. -/
inductive Unnamed (store : MemoryStore) (suffixing : Suffixing) (drive desired : String) :
    RequestError → Prop
  | unavailable {cause} (failed : store.freeId suffixing drive desired = .error cause)
      (none : MemoryStore.NoneFree cause) :
      Unnamed store suffixing drive desired (.storage (some cause))
  | denied {id} (given : store.freeId suffixing drive desired = .ok id)
      (denied : store.allows .edit id = false) :
      Unnamed store suffixing drive desired (.permissionDenied .edit id)

theorem Unnamed.hindered {store : MemoryStore} {suffixing : Suffixing} {drive desired : String}
    {error : RequestError} (unnamed : Unnamed store suffixing drive desired error) :
    Hindered store error := by
  cases unnamed with
  | unavailable _ _ => exact .unnamed
  | denied _ denied => exact .forbidden ⟨_, _, denied, rfl⟩

/-- What comes of copying the file `id` into `target`. -/
inductive FileCopy (faults : Faults τ) (desk : Desk (Cabinet τ)) (id target : EntityId) :
    Except RequestError Unit → Desk (Cabinet τ) → Prop
  | missing {after extra} (kept : desk.Kept after extra)
      (missing : desk.world.store.contents.file? id = none) : FileCopy faults desk id target (.ok ()) after
  | already {after extra file} (kept : desk.Kept after extra)
      (stored : desk.world.store.contents.file? id = some file) (listed : target ∈ file.parents) :
      FileCopy faults desk id target (.ok ()) after
  /-- Another file has the name, and it stays. -/
  | clashes {after extra file existing} (kept : desk.Kept after extra)
      (stored : desk.world.store.contents.file? id = some file)
      (clash : Clash desk.world.store.contents file.name existing target none) :
      FileCopy faults desk id target (.ok ()) after
  | copied {between after file copy} (stored : desk.world.store.contents.file? file.id = some file)
      (sameId : file.id = id) (absent : target ∉ file.parents)
      (room : desk.Room between file target none) (creates : Creates between.world.store copy (some target))
      (changed : between.Changed after
        (between.world.store.save (.file (file.copyTo copy file.name (some target))))
        fun tally => { tally with filesCopied := tally.filesCopied + 1 }) :
      FileCopy faults desk id target (.ok ()) after
  /-- There was room, but the copy could not be made. -/
  | stuck {between after file error} (stored : desk.world.store.contents.file? id = some file)
      (room : desk.Room between file target none)
      (failed : between.Failed faults (Hindered between.world.store) error after) :
      FileCopy faults desk id target (.error error) after
  | failed {after error} (failed : desk.Failed faults (Hindered desk.world.store) error after) :
      FileCopy faults desk id target (.error error) after

namespace Desk

variable {desk after : Desk (Cabinet τ)}

theorem Room.folder? {file : File} {target : EntityId} {except : Option EntityId}
    (room : desk.Room after file target except) (id : EntityId) :
    after.world.store.contents.folder? id = desk.world.store.contents.folder? id := by
  cases room with
  | free kept _ => rw [kept.store]
  | evicted displaces changed =>
    rw [changed.store_eq, MemoryStore.folder?_takeOut displaces.storedExisting]

end Desk

namespace Action

variable {setup : Setup τ} {first desk : Desk (Cabinet τ)} {extra : List Entry}

/-- Looks for a free identifier, asks whether it may be used and saves something under it. -/
theorem Meets.create {α : Type} {drive desired : String} {parent : Option EntityId}
    {next : EntityId → PUnit → Action (Cabinet τ) α}
    {post : Except RequestError α → Desk (Cabinet τ) → Prop} (kept : first.Kept desk extra)
    (destination : ∀ target, parent = some target →
      ∃ folder, first.world.store.contents.folder? target = some folder)
    (failed : ∀ error after, first.Failed setup.faults
      (Unnamed first.world.store setup.suffixing drive desired) error after → post (.error error) after)
    (ok : ∀ id after extra, first.Kept after extra →
      first.world.store.freeId setup.suffixing drive desired = .ok id →
      Creates first.world.store id parent → (next id ⟨⟩).Meets after post) :
    (call (setup.host.uniquifier drive desired) >>= fun id =>
      Action.require setup.host .edit id >>= next id).Meets desk post := by
  refine .look kept (looks_uniquifier setup _ drive desired) failed ?_ ?_
  · rintro _ (⟨_, ⟨⟩, _⟩ | ⟨cause, ⟨⟩, none⟩)
    exact .unavailable none (MemoryStore.noneFree_of_freeId none)
  · rintro id named extra kept (⟨_, ⟨⟩, given⟩ | ⟨_, ⟨⟩, _⟩)
    refine (meets_require kept .edit id).bind ?_ ?_
    · rintro _ after ⟨permitted, extra, kept⟩
      exact ok id after extra kept given ⟨MemoryStore.unused_of_freeId given, permitted, destination⟩
    · refine fun error after refused => failed error after (refused.mono ?_)
      rintro _ ⟨denied, rfl⟩
      exact .denied given denied

theorem meets_createFolder (kept : first.Kept desk extra) (drive desired name : String)
    (parent : Option EntityId) (destination : ∀ target, parent = some target →
      ∃ folder, first.world.store.contents.folder? target = some folder) :
    (createFolder setup.host drive desired name parent).Meets desk fun result after =>
      match result with
      | .ok id => Creates first.world.store id parent ∧
          first.Changed after (first.world.store.save (.folder { id, name, parent }))
            fun tally => { tally with foldersCopied := tally.foldersCopied + 1 }
      | .error error => first.Failed setup.faults (Hindered first.world.store) error after := by
  refine .create kept destination (fun _ _ failed => failed.mono fun _ => Unnamed.hindered) ?_
  intro id asked extra kept _ creates
  refine .write kept (meets_save _) (fun _ _ failed => failed) fun after wrote => ?_
  rw [kept.store] at wrote
  exact .counted wrote fun _ counted => .pure ⟨creates, _, _, _, kept, counted⟩

theorem meets_createFile (kept : first.Kept desk extra) (source : File)
    (drive desired name : String) (parent : Option EntityId)
    (destination : ∀ target, parent = some target →
      ∃ folder, first.world.store.contents.folder? target = some folder) :
    (createFile setup.host source drive desired name parent).Meets desk fun result after =>
      match result with
      | .ok _ => ∃ id, first.world.store.freeId setup.suffixing drive desired = .ok id ∧
          Creates first.world.store id parent ∧
          first.Changed after (first.world.store.save (.file (source.copyTo id name parent)))
            fun tally => { tally with filesCopied := tally.filesCopied + 1 }
      | .error error => first.Failed setup.faults
          (Unnamed first.world.store setup.suffixing drive desired) error after := by
  refine .create kept destination (fun _ _ failed => failed) ?_
  intro id asked extra kept given creates
  refine .write kept (meets_save _) (fun _ _ failed => failed) fun after wrote => ?_
  rw [kept.store] at wrote
  exact .count wrote fun _ counted => ⟨id, given, creates, _, _, _, kept, counted⟩

/-- A file stays or fails, or it is copied as soon as there is room for the copy. -/
theorem Meets.copyFile {id target : EntityId}
    {post : Except RequestError Unit → Desk (Cabinet τ) → Prop}
    (stays : ∀ after extra, desk.Glanced setup.faults after extra →
      (∀ file, desk.world.store.contents.file? id = some file → target ∈ file.parents) →
      post (.ok ()) after)
    (failed : ∀ error after,
      desk.Missed setup.faults (fun error => desk.world.store.contents.folder? target = none ∧
        error = .destinationMissing target) error after → post (.error error) after)
    (enters : ∀ file destination between extra,
      desk.world.store.contents.file? file.id = some file → file.id = id → target ∉ file.parents →
      desk.world.store.contents.listing? target = some destination →
      desk.Glanced setup.faults between extra →
      (do
        if ← makeRoom setup.host file destination target none then
          createFile setup.host file target.drive.text id.name.text file.name (some target) :
        Action (Cabinet τ) Unit).Meets between post) :
    (Action.copyFile setup.host id target).Meets desk post := by
  unfold Action.copyFile
  refine .glance_ok (.refl desk) (looks_file setup _ id) (fun _ _ missed => failed _ _ missed) ?_
  intro between extra glanced
  cases stored : desk.world.store.contents.file? id with
  | none => exact .pure (stays _ _ glanced (by simp [stored]))
  | some file =>
    cases Contents.id_of_file? stored
    dsimp only
    split
    next listed => exact .pure (stays _ _ glanced (by simp [stored, listed]))
    next absent =>
      refine .glanceFolder glanced failed (fun _ extra glanced missing => ?_) ?_
      · exact .throw (failed _ _ ⟨extra, glanced, .inl ⟨missing, rfl⟩⟩)
      · exact fun destination after extra glanced opened =>
          enters file destination after extra stored rfl absent opened glanced

theorem meets_copyFile (id target : EntityId) :
    (copyFile setup.host id target).Meets desk (FileCopy setup.faults desk id target) := by
  refine .copyFile ?_ ?_ ?_
  · intro after extra glanced stays
    cases stored : desk.world.store.contents.file? id with
    | none => exact .missing glanced.kept stored
    | some file => exact .already glanced.kept stored (stays file stored)
  · intro error after missed
    exact .failed (missed.failed.mono fun _ gone => gone.2 ▸ .missing gone.1)
  · rintro file destination between extra stored rfl absent opened glanced
    have there := (Contents.listing?_eq_some_iff.mp opened).1
    have rooms := (meets_makeRoom glanced opened).mono fun _ _ prepares =>
      prepares.rooms stored (.inr ⟨rfl, absent⟩)
    refine rooms.bind ?_ ?_
    · intro free roomed ended
      cases free with
      | false =>
        obtain ⟨extra, existing, kept, clash⟩ := ended
        exact .pure (.clashes kept stored clash)
      | true =>
        rw [if_pos rfl]
        have room : desk.Room roomed file target none := ended
        -- Another file may have left by now, but the folder is still there.
        have destination (folder : EntityId) (same : some target = some folder) :
            ∃ above, roomed.world.store.contents.folder? folder = some above := by
          cases same
          exact ⟨_, (room.folder? target).trans there⟩
        refine (meets_createFile (.refl roomed) file _ _ _ _ destination).mono ?_
        intro result after ended
        cases result with
        | error _ => exact .stuck stored room (ended.mono fun _ => Unnamed.hindered)
        | ok _ =>
          obtain ⟨copy, _, creates, changed⟩ := ended
          exact .copied stored rfl absent room creates changed
    · exact fun error after failed => .failed (failed.mono fun _ refused => .forbidden refused)

/-! ## Folders -/

theorem meets_copyTarget (kept : first.Kept desk extra) {target : EntityId} {destination : Listing}
    (opened : first.world.store.contents.listing? target = some destination) (folder : Listing)
    (id : EntityId) :
    (copyTarget setup.host folder id target destination).Meets desk fun result after =>
      match result with
      | .ok copy =>
        (∃ between extra, first.Kept between extra ∧
          FolderClash first.world.store.contents folder.name copy target none ∧
          after = between.tallied
            fun tally => { tally with foldersMerged := tally.foldersMerged + 1 }) ∨
        first.world.store.contents.FreeFolderName folder.name target none ∧
          Creates first.world.store copy (some target) ∧
          first.Changed after
            (first.world.store.save (.folder { id := copy, name := folder.name, parent := some target }))
            fun tally => { tally with foldersCopied := tally.foldersCopied + 1 }
      | .error error => first.Failed setup.faults (Hindered first.world.store) error after := by
  refine .look kept (looks_childFolderNamed setup opened folder.name none)
    (fun _ _ failed => failed) (by rintro _ ⟨_, ⟨⟩, _⟩) ?_
  rintro _ named extra kept ⟨_, ⟨⟩, clash⟩
  split at clash
  next free =>
    refine (meets_createFolder kept _ _ folder.name (some target) ?_).mono ?_
    · rintro _ ⟨⟩
      exact ⟨_, (Contents.listing?_eq_some_iff.mp opened).1⟩
    · intro result after ended
      cases result with
      | error _ => exact ended
      | ok copy => exact .inr ⟨clash, ended⟩
  next existing => exact .modify_bind (.pure (.inl ⟨named, extra, kept, clash, rfl⟩))

/-- A folder stays, fails, fills an existing folder or is created anew. -/
theorem Meets.copyFolder {depth : Nat} {id target : EntityId}
    {post : Except RequestError Unit → Desk (Cabinet τ) → Prop}
    (stays : ∀ after extra, desk.Kept after extra →
      (∀ folder, desk.world.store.contents.folder? id = some folder → folder.parent = some target) →
      post (.ok ()) after)
    (failed : ∀ error after, desk.Failed setup.faults (Hindered desk.world.store) error after →
      post (.error error) after)
    (fills : ∀ between extra folder existing, desk.Kept between extra →
      desk.world.store.contents.listing? id = some folder → folder.parent ≠ some target →
      ¬ desk.world.store.contents.Below target id →
      FolderClash desk.world.store.contents folder.name existing target none →
      (copyChildren setup.host (Action.copyFolder setup.host depth) folder existing).Meets
        (between.tallied fun tally => { tally with foldersMerged := tally.foldersMerged + 1 }) post)
    (grows : ∀ between folder copy, desk.world.store.contents.listing? id = some folder →
      folder.parent ≠ some target → ¬ desk.world.store.contents.Below target id →
      Creates desk.world.store copy (some target) →
      desk.world.store.contents.FreeFolderName folder.name target none →
      desk.Changed between
        (desk.world.store.save (.folder { id := copy, name := folder.name, parent := some target }))
        (fun tally => { tally with foldersCopied := tally.foldersCopied + 1 }) →
      (copyChildren setup.host (Action.copyFolder setup.host depth) folder copy).Meets between post) :
    (Action.copyFolder setup.host (depth + 1) id target).Meets desk post := by
  unfold Action.copyFolder
  refine .look (.refl desk) (looks_isDescendantOrSelf setup _ (depth + 1) target id) failed
    (by rintro _ ⟨_, ⟨⟩, _⟩) ?_
  rintro _ between extra kept ⟨below, ⟨⟩, exact⟩
  split
  next under => exact .throw (failed _ _ ⟨extra, kept, .inl (.cycle (exact.mp under))⟩)
  next notUnder =>
    have away : ¬ desk.world.store.contents.Below target id := fun below => notUnder (exact.mpr below)
    refine .lookFolder kept failed (fun _ extra kept missing => ?_) fun folder _ extra kept listed => ?_
    · exact .pure (stays _ _ kept (by simp [missing]))
    · have stored := (Contents.listing?_eq_some_iff.mp listed).1
      dsimp only
      split
      next already => exact .pure (stays _ _ kept (by simp [stored, already]))
      next elsewhere =>
        refine .lookFolder kept failed (fun _ extra kept missing => ?_)
          fun destination _ extra kept opened => ?_
        · exact .throw (failed _ _ ⟨extra, kept, .inl (.missing missing)⟩)
        · -- The copy is a folder that was there or a new one, and the children go into it either way.
          refine (meets_copyTarget kept opened folder id).bind ?_ failed
          rintro copy between (⟨named, extra, kept, clash, rfl⟩ | ⟨free, creates, changed⟩)
          · exact fills named extra folder copy kept listed elsewhere away clash
          · exact grows between folder copy listed elsewhere away creates free changed

/-! ## Under a name of its own -/

/-- The place for the copy is a folder, and `free` holds of it. -/
theorem meets_place {place : Option EntityId} {check : EntityId → Listing → Action (Cabinet τ) Unit}
    (free : EntityId → Prop) (kept : first.Kept desk extra)
    (checks : ∀ parent listing between extra, place = some parent → first.Kept between extra →
      first.world.store.contents.listing? parent = some listing →
      (check parent listing).Meets between fun result after =>
        match result with
        | .ok _ => free parent ∧ ∃ extra, first.Kept after extra
        | .error error => first.Failed setup.faults (Hindered first.world.store) error after) :
    (place.forM fun parent => requireFolder setup.host parent (check parent)).Meets desk
      fun result after =>
        match result with
        | .ok _ => (∀ parent, place = some parent → free parent ∧
            ∃ folder, first.world.store.contents.folder? parent = some folder) ∧
            ∃ extra, first.Kept after extra
        | .error error => first.Failed setup.faults (Hindered first.world.store) error after := by
  cases place with
  | none => exact .pure ⟨by simp, extra, kept⟩
  | some parent =>
    refine .lookFolder kept (fun _ _ failed => failed) (fun _ extra kept missing => ?_)
      fun folder opening extra kept opened => ?_
    · exact .throw ⟨extra, kept, .inl (.missing missing)⟩
    · refine (checks parent folder opening extra rfl kept opened).mono fun result after ended => ?_
      cases result with
      | error _ => exact ended
      | ok _ =>
        have stored := (Contents.listing?_eq_some_iff.mp opened).1
        refine ⟨?_, ended.2⟩
        rintro _ ⟨⟩
        exact ⟨ended.1, _, stored⟩

/-- What was found out about the place still holds afterwards, as nothing is written before that. -/
theorem Meets.place {place : Option EntityId} {check : EntityId → Listing → Action (Cabinet τ) Unit}
    {next : PUnit → Action (Cabinet τ) Unit}
    {post : Except RequestError Unit → Desk (Cabinet τ) → Prop} (free : EntityId → Prop)
    (kept : first.Kept desk extra)
    (failed : ∀ error after, first.Failed setup.faults (Hindered first.world.store) error after →
      post (.error error) after)
    (checks : ∀ parent listing between extra, place = some parent → first.Kept between extra →
      first.world.store.contents.listing? parent = some listing →
      (check parent listing).Meets between fun result after =>
        match result with
        | .ok _ => free parent ∧ ∃ extra, first.Kept after extra
        | .error error => first.Failed setup.faults (Hindered first.world.store) error after)
    (ok : ∀ after extra, first.Kept after extra →
      (∀ parent, place = some parent → free parent ∧
        ∃ folder, first.world.store.contents.folder? parent = some folder) →
      (next ⟨⟩).Meets after post) :
    ((place.forM fun parent => requireFolder setup.host parent (check parent)) >>= next).Meets desk
      post := by
  refine (meets_place free kept checks).bind ?_ failed
  rintro _ after ⟨fits, extra, kept⟩
  exact ok after extra kept fits

/-- A folder may go into `parent` under the name. -/
theorem meets_checkPlace (kept : first.Kept desk extra) {parent : EntityId} {destination : Listing}
    (opened : first.world.store.contents.listing? parent = some destination) (depth : Nat)
    (id : EntityId) (name : String) (except : Option EntityId) :
    (do
      if ← isDescendantOrSelf setup.host depth parent id then throw (.cycle id)
      if (← childFolderNamed setup.host destination name except).isSome then
        throw (.nameCollision name parent) : Action (Cabinet τ) Unit).Meets desk fun result after =>
          match result with
          | .ok _ => (¬ first.world.store.contents.Below parent id ∧
              first.world.store.contents.FreeFolderName name parent except) ∧
              ∃ extra, first.Kept after extra
          | .error error => first.Failed setup.faults (Hindered first.world.store) error after := by
  refine .look kept (looks_isDescendantOrSelf setup _ depth parent id) (fun _ _ failed => failed)
    (by rintro _ ⟨_, ⟨⟩, _⟩) ?_
  rintro _ climbed extra kept ⟨below, ⟨⟩, exact⟩
  split
  next under => exact .throw ⟨extra, kept, .inl (.cycle (exact.mp under))⟩
  next notUnder =>
    refine .look kept (looks_childFolderNamed setup opened name except)
      (fun _ _ failed => failed) (by rintro _ ⟨_, ⟨⟩, _⟩) ?_
    rintro clash named extra kept ⟨_, ⟨⟩, told⟩
    cases clash with
    | none => exact .pure ⟨⟨fun below => notUnder (exact.mpr below), told⟩, extra, kept⟩
    | some existing => exact .throw ⟨extra, kept, .inl .taken⟩

theorem Meets.copyFolderAs {depth : Nat} {id : EntityId} {target : Option EntityId}
    {desired : EntityId} {post : Except RequestError Unit → Desk (Cabinet τ) → Prop}
    (missing : ∀ after extra, desk.Kept after extra →
      desk.world.store.contents.folder? id = none → post (.ok ()) after)
    (failed : ∀ error after, desk.Failed setup.faults (Hindered desk.world.store) error after →
      post (.error error) after)
    (grows : ∀ between folder copy, desk.world.store.contents.listing? id = some folder →
      (∀ parent, (target <|> folder.parent) = some parent →
        ¬ desk.world.store.contents.Below parent id ∧
        desk.world.store.contents.FreeFolderName desired.name.text parent none) →
      Creates desk.world.store copy (target <|> folder.parent) →
      desk.Changed between (desk.world.store.save
        (.folder { id := copy, name := desired.name.text, parent := target <|> folder.parent }))
        (fun tally => { tally with foldersCopied := tally.foldersCopied + 1 }) →
      (copyChildren setup.host (Action.copyFolder setup.host depth) folder copy).Meets between post) :
    (Action.copyFolderAs setup.host depth id target desired).Meets desk post := by
  unfold Action.copyFolderAs
  refine .lookFolder (.refl desk) failed (fun _ extra kept gone => ?_) fun folder _ extra kept listed => ?_
  · exact .pure (missing _ _ kept gone)
  · refine .place (fun parent => ¬ desk.world.store.contents.Below parent id ∧
      desk.world.store.contents.FreeFolderName desired.name.text parent none) kept failed ?_ ?_
    · exact fun parent destination between extra _ kept opened =>
        meets_checkPlace kept opened depth id desired.name.text none
    · intro placed extra kept fits
      refine (meets_createFolder kept _ _ _ _ fun parent here => (fits parent here).2).bind ?_ failed
      rintro copy between ⟨creates, changed⟩
      exact grows between folder copy listed (fun parent here => (fits parent here).1) creates changed

theorem meets_copyFileAs (id : EntityId) (source target : Option EntityId) (desired : EntityId) :
    (copyFileAs setup.host id source target desired).Meets desk fun result after =>
      match result with
      | .ok _ =>
        (∃ extra, desk.Kept after extra ∧ desk.world.store.contents.file? id = none) ∨
        ∃ file copy, desk.world.store.contents.file? id = some file ∧
          (∀ parent, (target <|> source) = some parent →
            desk.world.store.contents.FreeFileName desired.name.text parent none) ∧
          Creates desk.world.store copy (target <|> source) ∧
          desk.Changed after (desk.world.store.save
            (.file (file.copyTo copy desired.name.text (target <|> source))))
            fun tally => { tally with filesCopied := tally.filesCopied + 1 }
      | .error error => desk.Failed setup.faults (Hindered desk.world.store) error after := by
  unfold copyFileAs
  refine .look_ok (.refl desk) (looks_file setup _ id) (fun _ _ failed => failed) ?_
  intro found extra kept
  cases stored : desk.world.store.contents.file? id with
  | none => exact .pure (.inl ⟨extra, kept, rfl⟩)
  | some file =>
    refine .place (desk.world.store.contents.FreeFileName desired.name.text · none) kept
      (fun _ _ failed => failed) ?_ ?_
    · intro parent destination between extra _ kept opened
      refine .look kept (looks_childFileNamed setup opened desired.name.text none)
        (fun _ _ failed => failed) (by rintro _ ⟨_, ⟨⟩, _⟩) ?_
      rintro clash named extra kept ⟨_, ⟨⟩, told⟩
      cases clash with
      | none => exact .pure ⟨told, extra, kept⟩
      | some existing => exact .throw ⟨extra, kept, .inl .taken⟩
    · intro placed extra kept fits
      -- Nothing has been written so far, so what was checked of the place can be relied on.
      have destination (parent : EntityId) (here : (target <|> source) = some parent) :=
        (fits parent here).2
      refine (meets_createFile kept file _ _ _ _ destination).mono fun result after ended => ?_
      cases result with
      | error _ => exact ended.mono fun _ => Unnamed.hindered
      | ok _ =>
        obtain ⟨copy, _, creates, changed⟩ := ended
        exact .inr ⟨file, copy, rfl, fun parent here => (fits parent here).1, creates, changed⟩

/-! ## Traces -/

variable {rules : Rules} (copy : rules.operation = .copy)
include copy

theorem traces_copyFile (id target : EntityId) : Traces rules (copyFile setup.host id target) := by
  rintro desk rfl
  have notDelete : desk.rules.operation ≠ .delete := by simp [copy]
  refine (meets_copyFile id target).mono fun result after ended => ?_
  cases ended with
  | missing kept _ => exact kept.traced
  | already kept _ _ => exact kept.traced
  | clashes kept _ _ => exact kept.traced
  | copied stored _ _ room creates changed =>
    -- Room is made first, and the copy is a step from what is stored then.
    obtain ⟨_, _, _, kept, wrote⟩ := changed
    refine wrote.traced ((room.traced notDelete).trans kept.traced) (.single ?_)
    rw [kept.tally]
    cases room with
    | free kept free =>
      rw [kept.store] at creates ⊢
      rw [kept.tally]
      refine .createFile copy stored creates ?_
      rintro _ ⟨⟩
      exact free
    | evicted displaces changed =>
      rw [changed.store_eq] at creates ⊢
      rw [changed.tally]
      exact .replace copy displaces creates
  | stuck _ room failed => exact (room.traced notDelete).trans failed.traced
  | failed failed => exact failed.traced

theorem traces_copyChildren {work : EntityId → EntityId → Action (Cabinet τ) Unit}
    (each : ∀ id target, Traces rules (work id target)) (source : Listing) (target : EntityId) :
    Traces rules (copyChildren setup.host work source target) := by
  refine .inLevel (.bind (.forM fun child => (each child target).item) fun _ => ?_)
  exact .forM fun child => (traces_copyFile copy child target).item

theorem traces_copyFolder (depth : Nat) (id target : EntityId) :
    Traces rules (copyFolder setup.host depth id target) := by
  induction depth generalizing id target with
  | zero => exact fun _ _ => .tooDeep
  | succ depth ih =>
    rintro desk rfl
    refine .copyFolder ?_ ?_ ?_ ?_
    · exact fun _ _ kept _ => kept.traced
    · exact fun _ _ failed => failed.traced
    · intro between extra folder existing kept _ _ _ _
      -- The folder is there before its children are copied, so the step comes before theirs.
      refine Traces.after ?_ (kept.traced.trans (.tallied (.merge ?_)))
      · rw [Desk.rules_tallied, kept.rules]
        exact traces_copyChildren copy ih folder existing
      · simp [kept.rules, copy]
    · intro between folder child listed _ _ creates free changed
      refine Traces.after ?_ (changed.traced (.createFolder copy creates ?_))
      · rw [changed.rules]
        exact traces_copyChildren copy ih folder child
      · rintro _ ⟨⟩
        exact free

theorem traces_copyFolderAs (depth : Nat) (id : EntityId) (target : Option EntityId)
    (desired : EntityId) : Traces rules (copyFolderAs setup.host depth id target desired) := by
  rintro desk rfl
  refine .copyFolderAs ?_ ?_ ?_
  · exact fun _ _ kept _ => kept.traced
  · exact fun _ _ failed => failed.traced
  · intro between folder child listed fits creates changed
    refine Traces.after ?_ (changed.traced (.createFolder copy creates fun parent here => ?_))
    · rw [changed.rules]
      exact traces_copyChildren copy (traces_copyFolder copy depth) folder child
    · exact (fits parent here).2

theorem traces_copyFileAs (id : EntityId) (source target : Option EntityId) (desired : EntityId) :
    Traces rules (copyFileAs setup.host id source target desired) := by
  rintro desk rfl
  refine (meets_copyFileAs id source target desired).mono fun result after ended => ?_
  cases result with
  | error _ => exact ended.traced
  | ok _ =>
    rcases ended with ⟨_, kept, _⟩ | ⟨file, child, stored, free, creates, changed⟩
    · exact kept.traced
    · cases Contents.id_of_file? stored
      exact changed.traced (.createFile copy stored creates free)

end Action

end Filing
