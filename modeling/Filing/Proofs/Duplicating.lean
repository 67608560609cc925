import Filing.Proofs.Cleanly
import Filing.Proofs.Copying
import Filing.Proofs.Filling

/-!
# Copying folders

What a copy comes to if all goes well: the folder that takes the copy is filled from the one that is
copied, down to any depth (`Contents.Copied`).
-/
namespace Filing

open Contents

variable {τ : Type} {setup : Setup τ}

/-- The rules of copying when nobody is asked. -/
def Rules.quietCopy (mode : Mode) : Rules := ⟨.copy, mode, false⟩

namespace Contents

variable {c c' : Contents} {folder : Folder} {source target : EntityId}

theorem Tidy.insert_folder (tidy : c.Tidy) (unused : c.has folder.id = false)
    (place : ∀ parent, folder.parent = some parent → parent ∈ c.folders ∧
      c.FreeFolderName folder.name parent none) : Tidy (c.insert (.folder folder)) := by
  constructor
  · exact tidy.wellFormed.insert_unused unused fun parent up => (place parent up).1
  · apply tidy.distinct.insert_folder
    intro parent up id f found inside _
    exact (place parent up).2 found inside (by simp)

/-- A new folder is beside every folder that it is not put into. -/
theorem beside_insert_folder (wf : c.WellFormed) (unused : c.has folder.id = false)
    (stored : source ∈ c.folders) (place : ∀ parent, folder.parent = some parent →
      parent ∈ c.folders ∧ ¬ c.Below parent source) :
    Beside (c.insert (.folder folder)) source folder.id := by
  have grown : Grown c (c.insert (.folder folder)) folder.id := grown_insert_folder unused (.inl rfl)
  refine ⟨grown.mem_folders stored, ⟨folder, by simp⟩, fun below => ?_, ?_⟩
  · rcases below_iff.mp below with same | ⟨parent, inside, rest⟩
    · obtain ⟨f, found⟩ := stored
      simp [← same, folder?_eq_none_of_unused unused] at found
    · obtain ⟨f, found, up⟩ := inside_iff.mp inside
      simp only [folder?_insert_folder, ↓reduceIte, Option.some.injEq] at found
      subst found
      obtain ⟨there, away⟩ := place parent up
      exact away ((grown.below_iff wf there).mp rest)
  · rw [grown.below_iff wf stored]
    exact wf.not_below_of_unused unused stored

/-- The copy of a folder is new, or it was there and is filled. -/
inductive Copied (c : Contents) (folder : Folder) (target : EntityId) (c' : Contents) : Prop
  | anew {copy} (unused : c.has copy = false) (free : c.FreeFolderName folder.name target none)
      (filled : Filled (c.insert (.folder { id := copy, name := folder.name, parent := some target }))
        c' folder.id copy)
  | filled {there} (fits : c.Child target folder.name there) (filled : Filled c c' folder.id there)

/-- What copying `folder` into `target` comes to. -/
inductive CopiedInto (c : Contents) (folder : Folder) (target : EntityId) (c' : Contents) : Prop
  /-- The folder is in `target` already. -/
  | stays (there : folder.parent = some target) (same : c' = c)
  | copied (elsewhere : folder.parent ≠ some target) (away : ¬ c.Below target folder.id)
      (copied : Fits c folder target → Copied c folder target c')

theorem CopiedInto.of_fits (result : CopiedInto c folder target c') (fits : Fits c folder target) :
    Copied c folder target c' := by
  cases result with
  | stays there _ => exact absurd there fits.elsewhere
  | copied _ _ copied => exact copied fits

theorem Copied.filling (copied : Copied c folder target c') (tidy : c.Tidy)
    (stored : c.folder? folder.id = some folder) (inside : folder.parent = some source)
    (beside : Beside c source target) :
    Filling c c' source target fun head => head.1.head? = some folder.name := by
  have here : c.Child source folder.name folder.id := ⟨folder, stored, inside, rfl⟩
  cases copied with
  | filled fits filled => exact filled.within tidy here fits beside
  | @anew copy fresh free filled =>
    have unused : c.has ({ id := copy, name := folder.name, parent := some target } : Folder).id = false :=
      fresh
    have destination := beside.destination
    have tidy' : Tidy (c.insert (.folder { id := copy, name := folder.name, parent := some target })) := by
      refine tidy.insert_folder unused ?_
      rintro _ ⟨⟩
      exact ⟨destination, free⟩
    -- The copy is made without anything in it and filled then.
    have made := filling_insert_folder unused tidy rfl destination tidy' here free
    have here' := (child_insert_folder unused).mpr (.inl here)
    have fits := (child_insert_folder unused).mpr (.inr ⟨rfl, rfl, rfl⟩)
    have rest := filled.within tidy' here' fits (made.grown.beside tidy.wellFormed beside)
    refine (made.trans rest tidy.wellFormed beside).congr fun seen _ _ => ?_
    constructor
    · exact .inr
    · rintro (same | same)
      · simp [same]
      · exact same

/-- The listing is up to date, and the children on it can be copied into `target`. -/
structure Ready (c : Contents) (listing : Listing) (target : EntityId) : Prop where
  tidy : c.Tidy
  childFolders : ∀ child, child ∈ listing.childFolders ↔ c.Inside child listing.id
  childFiles : ∀ file, file ∈ listing.childFiles ↔ c.Lists listing.id file
  beside : Beside c listing.id target

theorem ready_of_listing {listing : Listing} (tidy : c.Tidy)
    (found : c.listing? listing.id = some listing) (beside : Beside c listing.id target) :
    Ready c listing target := by
  obtain ⟨_, folders, files⟩ := listing?_eq_some_iff.mp found
  refine ⟨tidy, fun child => ?_, fun file => ?_, beside⟩
  · rw [folders]
    exact mem_childFolders_iff_inside
  · rw [files]
    exact mem_childFiles

/-- A new folder is ready to be filled. -/
theorem ready_insert_folder {listing : Listing} (tidy : c.Tidy)
    (found : c.listing? listing.id = some listing) (unused : c.has folder.id = false)
    (place : ∀ parent, folder.parent = some parent → parent ∈ c.folders ∧
      c.FreeFolderName folder.name parent none ∧ ¬ c.Below parent listing.id) :
    Ready (c.insert (.folder folder)) listing folder.id := by
  obtain ⟨stored, folders, files⟩ := listing?_eq_some_iff.mp found
  have elsewhere : folder.parent ≠ some listing.id := fun up => (place _ up).2.2 (below_refl c _)
  refine ⟨tidy.insert_folder unused fun parent up => ?_, fun child => ?_, fun file => ?_, ?_⟩
  · obtain ⟨there, free, _⟩ := place parent up
    exact ⟨there, free⟩
  · simp only [folders, mem_childFolders_iff_inside, inside_iff_child,
      (unaltered_insert_folder unused elsewhere).folders]
  · simp only [files, mem_childFiles, Lists, file?_insert_unused unused]
  · refine beside_insert_folder tidy.wellFormed unused ⟨_, stored⟩ fun parent up => ?_
    obtain ⟨there, _, away⟩ := place parent up
    exact ⟨there, away⟩

end Contents

namespace Action

theorem cleanly_copyFile (mode : Mode) (id target : EntityId) :
    Cleanly (.quietCopy mode) (copyFile setup.host id target) fun s _ s' =>
      s.contents.Tidy → s'.contents.Tidy → ∀ source, s.contents.Lists source id →
        Filling s.contents s'.contents source target fun head =>
          head = ([], s.contents.fileName id) := by
  intro desk
  refine (meets_copyFile id target).mono fun result after ended clean => ?_
  cases ended with
  | missing kept missing =>
    refine ⟨kept.clean clean, ?_⟩
    rintro _ _ _ _ _ ⟨f, stored, _⟩
    simp [missing] at stored
  | already kept stored listed =>
    refine ⟨kept.clean clean, fun _ _ tidy _ source _ => ?_⟩
    rw [kept.store]
    refine .of_occupied tidy fun seen _ same => ?_
    rw [same]
    exact occupied_of_lists ⟨_, stored, listed⟩
  | clashes kept stored clash =>
    refine ⟨kept.clean clean, fun _ _ tidy _ source _ => ?_⟩
    rw [kept.store]
    refine .of_occupied tidy fun seen _ same => ?_
    have taken := occupied_of_lists ⟨_, clash.stored, clash.listed⟩
    simp only [fileName, clash.stored, Option.map_some, clash.sameName] at taken
    simpa [same, fileName, stored] using taken
  | @copied between _ file copy stored sameId absent room creates changed =>
    subst sameId
    have before := changed.clean clean
    cases room with
    | free kept free =>
      refine ⟨kept.clean before, fun _ _ tidy tidy' source listed => ?_⟩
      rw [changed.store_eq] at tidy' ⊢
      rw [kept.store] at creates tidy' ⊢
      obtain ⟨f, found, listed⟩ := listed
      cases stored.symm.trans found
      have unused : desk.world.store.contents.has (file.copyTo copy file.name (some target)).id = false :=
        creates.unused
      have made := filling_insert_file unused tidy tidy'
        (fun p => by rw [File.mem_parents_copyTo]; simp [eq_comm])
        ⟨file.id, file, stored, listed, rfl, rfl⟩ free
      refine made.congr fun seen _ _ => ?_
      simp [fileName, stored, File.copyTo]
    -- Nobody is asked, so no other file makes room.
    | evicted displaces evicted =>
      have before := evicted.clean before
      have asked := displaces.asked
      simp [before.rules, Rules.quietCopy] at asked
  | stuck stored room failed =>
    have before := failed.clean clean
    refine ⟨?_, by rintro _ ⟨⟩⟩
    cases room with
    | free kept _ => exact kept.clean before
    | evicted _ changed => exact changed.clean before
  | failed failed => exact ⟨failed.clean clean, by rintro _ ⟨⟩⟩

/-- The files of `source` are copied one after another. -/
theorem cleanly_copyFiles (mode : Mode) (files : List EntityId) (source target : EntityId) :
    Cleanly (.quietCopy mode)
      (files.forM fun child => item setup.host.job (copyFile setup.host child target))
      fun s _ s' => s.contents.Tidy → (∀ file ∈ files, s.contents.Lists source file) →
        Beside s.contents source target → Filling s.contents s'.contents source target fun head =>
          ∃ file ∈ files, head = ([], s.contents.fileName file) := by
  refine .forM (fun s seen s' => s.contents.Tidy → (∀ file ∈ files, s.contents.Lists source file) →
      Beside s.contents source target → Filling s.contents s'.contents source target fun head =>
        ∃ file ∈ seen, head = ([], s.contents.fileName file)) (fun s tidy _ _ => ?_) fun file => ?_
  · exact .of_occupied tidy (by simp)
  · have traces : Traces (.quietCopy mode) (item setup.host.job (copyFile setup.host file target)) :=
      (traces_copyFile rfl file target).item
    refine ((Cleanly.item (cleanly_copyFile mode file target)).traced traces).mono ?_
    rintro m _ s' ⟨went, steps⟩ s seen later split soFar tidy lists beside
    have before := soFar tidy lists beside
    obtain ⟨f, stored, listed⟩ := lists file (by simp [split])
    have stored' := before.grown.file stored
    have next := went before.tidy (tidy_of_steps (by rintro ⟨⟩) steps before.tidy) source ⟨f, stored', listed⟩
    refine (before.trans next tidy.wellFormed beside).congr fun _ _ _ => ?_
    simp [or_and_right, exists_or, fileName, stored, stored']

/-- The child folders of `source` are copied one after another. -/
theorem cleanly_copyFolders (mode : Mode) {copy : EntityId → EntityId → Action (Cabinet τ) Unit}
    (copies : ∀ child target, Cleanly (.quietCopy mode) (copy child target) fun s _ s' =>
      s.contents.Tidy → ∀ folder, folder.id = child → s.contents.folder? folder.id = some folder →
        s.contents.CopiedInto folder target s'.contents)
    (folders : List EntityId) (source target : EntityId) :
    Cleanly (.quietCopy mode) (folders.forM fun child => item setup.host.job (copy child target))
      fun s _ s' => s.contents.Tidy → (∀ child ∈ folders, s.contents.Inside child source) →
        Beside s.contents source target → Filling s.contents s'.contents source target fun head =>
          ∃ child ∈ folders, ∃ name, s.contents.Child source name child ∧ head.1.head? = some name := by
  refine .forM (fun s seen s' => s.contents.Tidy →
      (∀ child ∈ folders, s.contents.Inside child source) →
      Beside s.contents source target → Filling s.contents s'.contents source target fun head =>
        ∃ child ∈ seen, ∃ name, s.contents.Child source name child ∧ head.1.head? = some name)
    (fun s tidy _ _ => ?_) fun child => ?_
  · exact .of_occupied tidy (by simp)
  · refine (Cleanly.item (copies child target)).mono ?_
    intro m _ s' went s seen later split soFar tidy inside beside
    have before := soFar tidy inside beside
    obtain ⟨folder, stored, up⟩ := inside_iff.mp (inside child (by simp [split]))
    cases id_of_folder? stored
    -- What has been copied so far has left the child as it was.
    have stored' := before.grown.folder stored
    have beside' := before.grown.beside tidy.wellFormed beside
    have copied := (went before.tidy folder rfl stored').of_fits (beside'.fits stored' up)
    have next := copied.filling before.tidy stored' up beside'
    refine (before.trans next tidy.wellFormed beside).congr fun _ _ _ => ?_
    simp [or_and_right, exists_or, child_iff_name stored up]

theorem cleanly_copyChildren (mode : Mode) {copy : EntityId → EntityId → Action (Cabinet τ) Unit}
    (copies : ∀ child target, Cleanly (.quietCopy mode) (copy child target) fun s _ s' =>
      s.contents.Tidy → ∀ folder, folder.id = child → s.contents.folder? folder.id = some folder →
        s.contents.CopiedInto folder target s'.contents)
    (listing : Listing) (target : EntityId) :
    Cleanly (.quietCopy mode) (copyChildren setup.host copy listing target) fun s _ s' =>
      s.contents.Ready listing target → Filled s.contents s'.contents listing.id target := by
  refine .inLevel (.bind (cleanly_copyFolders mode copies listing.childFolders listing.id target) ?_)
  intro _
  refine (cleanly_copyFiles mode listing.childFiles listing.id target).mono ?_
  rintro m _ s' files s folders ⟨tidy, childFolders, childFiles, beside⟩
  have first := folders tidy (fun child => (childFolders child).mp) beside
  have lists (file : EntityId) (member : file ∈ listing.childFiles) :
      m.contents.Lists listing.id file := by
    obtain ⟨f, stored, listed⟩ := (childFiles file).mp member
    exact ⟨f, first.grown.file stored, listed⟩
  have second := files first.tidy lists (first.grown.beside tidy.wellFormed beside)
  -- Everything in the outline was at issue: the folder itself is there already, and the rest comes
  -- with a child folder or is a file of its own.
  refine (first.trans second tidy.wellFormed beside).congr ?_
  rintro ⟨path, found⟩ here free
  refine iff_of_true trivial ?_
  cases path with
  | cons name path =>
    obtain ⟨child, inside, _⟩ := mem_outline_cons.mp here
    exact .inl ⟨child, (childFolders child).mpr inside.inside, name, inside, rfl⟩
  | nil =>
    cases found with
    | none => exact absurd (Occupied.of_mem (mem_outline_self _ _)) free
    | some told =>
      obtain ⟨file, f, stored, listed, named, _⟩ := mem_outline_nil.mp here
      refine .inr ⟨file, (childFiles file).mpr ⟨f, stored, listed⟩, ?_⟩
      simp [heading, fileName, first.grown.file stored, named]

/-- A folder is copied down to any depth. -/
theorem cleanly_copyFolder (mode : Mode) (depth : Nat) (id target : EntityId) :
    Cleanly (.quietCopy mode) (copyFolder setup.host depth id target) fun s _ s' =>
      s.contents.Tidy → ∀ folder, folder.id = id → s.contents.folder? folder.id = some folder →
        s.contents.CopiedInto folder target s'.contents := by
  induction depth generalizing id target with
  | zero => exact .tooDeep
  | succ depth ih =>
    intro desk
    refine .copyFolder ?_ ?_ ?_ ?_
    · intro after extra kept already clean
      refine ⟨kept.clean clean, ?_⟩
      rintro _ _ _ folder rfl stored
      exact .stays (already folder stored) (congrArg MemoryStore.contents kept.store)
    · exact fun error after failed clean => ⟨failed.clean clean, by rintro _ ⟨⟩⟩
    -- The folder that has the name there is completed.
    · intro between extra listing there kept found elsewhere away clash
      refine (cleanly_copyChildren mode ih listing there _).mono fun result after ended clean => ?_
      obtain ⟨⟨rules, unfailing, whole⟩, filled⟩ := ended clean
      refine ⟨kept.clean ⟨rules, unfailing, whole⟩, ?_⟩
      rintro _ done tidy folder rfl stored
      cases (listing?_eq_some_iff.mp found).1.symm.trans stored
      refine .copied elsewhere away fun fits => ?_
      obtain ⟨⟨f, stored, inside, sameName⟩, _⟩ := clash
      have fitting : desk.world.store.contents.Child target listing.name there :=
        ⟨f, stored, inside, sameName⟩
      have result := filled () done
      rw [Desk.tallied, kept.store] at result
      exact .filled fitting (result (ready_of_listing tidy found (fits.beside fitting)))
    -- If there is none, an empty one is made and filled.
    · intro between listing copy found elsewhere away creates free changed
      refine (cleanly_copyChildren mode ih listing copy between).mono fun result after ended clean => ?_
      obtain ⟨clean, filled⟩ := ended clean
      refine ⟨changed.clean clean, ?_⟩
      rintro _ done tidy folder rfl stored
      cases (listing?_eq_some_iff.mp found).1.symm.trans stored
      refine .copied elsewhere away fun fits => ?_
      have result := filled () done
      rw [changed.store_eq] at result
      refine .anew creates.unused free (result (ready_insert_folder tidy found creates.unused ?_))
      rintro _ ⟨⟩
      exact ⟨fits.destination, free, away⟩

theorem cleanly_copyFolderAs (mode : Mode) (depth : Nat) (id : EntityId) (target : Option EntityId)
    (desired : EntityId) :
    Cleanly (.quietCopy mode) (copyFolderAs setup.host depth id target desired) fun s _ s' =>
      s.contents.Tidy → ∀ folder, s.contents.folder? id = some folder →
        ∃ copy, s.contents.has copy = false ∧
          (∀ parent, (target <|> folder.parent) = some parent → parent ∈ s.contents.folders ∧
            s.contents.FreeFolderName desired.name.text parent none ∧
            ¬ s.contents.Below parent id) ∧
          Filled (s.contents.insert (.folder
            { id := copy, name := desired.name.text, parent := target <|> folder.parent }))
            s'.contents id copy := by
  intro desk
  refine .copyFolderAs ?_ ?_ ?_
  · intro after extra kept missing clean
    refine ⟨kept.clean clean, ?_⟩
    rintro _ _ _ folder stored
    simp [missing] at stored
  · exact fun error after failed clean => ⟨failed.clean clean, by rintro _ ⟨⟩⟩
  · intro between listing copy found free creates changed
    refine (cleanly_copyChildren mode (cleanly_copyFolder mode depth) listing copy between).mono ?_
    intro result after ended clean
    obtain ⟨clean, filled⟩ := ended clean
    refine ⟨changed.clean clean, ?_⟩
    rintro _ done tidy folder stored
    cases (listing?_eq_some_iff.mp found).1.symm.trans stored
    have sameId : listing.id = id := id_of_folder? stored
    subst sameId
    -- All that was found out about the place held before anything was written.
    have place (parent : EntityId) (up : (target <|> listing.parent) = some parent) :
        parent ∈ desk.world.store.contents.folders ∧
          desk.world.store.contents.FreeFolderName desired.name.text parent none ∧
          ¬ desk.world.store.contents.Below parent listing.id :=
      ⟨creates.destination parent up, (free parent up).2, (free parent up).1⟩
    have result := filled () done
    rw [changed.store_eq] at result
    exact ⟨copy, creates.unused, place,
      result (ready_insert_folder tidy found creates.unused place)⟩

end Action

end Filing
