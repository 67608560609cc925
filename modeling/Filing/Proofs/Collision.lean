import Filing.Proofs.Trace

/-!
# Collisions

What comes of a file that is to go where its display name may be taken: there is room for it, at once
or because the file in its way has left (`Desk.Room`), or everything stays as it is. `Desk.Decides`,
`Desk.Overwrites` and `Desk.Prepares` say in addition what was asked on the way, and how it was
answered.
-/
namespace Filing

variable {τ : Type}

/-- A file in `target`, other than `except`, has the name. -/
structure Clash (c : Contents) (name : String) (existing : File) (target : EntityId)
    (except : Option EntityId) : Prop where
  stored : c.file? existing.id = some existing
  listed : target ∈ existing.parents
  differs : some existing.id ≠ except
  sameName : existing.name = name

/-- A folder in `target`, other than `except`, has the name. -/
structure FolderClash (c : Contents) (name : String) (existing target : EntityId)
    (except : Option EntityId) : Prop where
  stored : ∃ folder, c.folder? existing = some folder ∧ folder.parent = some target ∧
    folder.name = name
  differs : some existing ≠ except

/-- How a collision is decided, and the desk after that. -/
inductive Desk.Decides (job : Job τ) (question : Question) (desk : Desk (Cabinet τ)) :
    Verdict → Desk (Cabinet τ) → Prop
  | quiet (quiet : desk.interactive = false) : Decides job question desk .keep desk
  | remembered {overwrite} (asks : desk.interactive = true)
      (holds : desk.remembered = some overwrite) :
      Decides job question desk (.ofAnswer overwrite) desk
  | unanswered {around} (asks : desk.interactive = true) (forgot : desk.remembered = none)
      (told : (job.ask question).run desk.world.around = (none, around)) :
      Decides job question desk .unanswered { desk with world := { desk.world with around } }
  | answered {decision around} (asks : desk.interactive = true) (forgot : desk.remembered = none)
      (told : (job.ask question).run desk.world.around = (some decision, around)) :
      Decides job question desk (.ofAnswer decision.overwrite) { desk with
        world := { desk.world with around }
        remembered := if decision.applyToAll then some decision.overwrite else none }

namespace Desk.Decides

variable {job : Job τ} {question : Question} {desk after : Desk (Cabinet τ)} {verdict : Verdict}

theorem kept (decides : desk.Decides job question verdict after) : desk.Kept after [] := by
  cases decides with
  | quiet quiet => exact .refl desk
  | remembered asks holds => exact .refl desk
  | unanswered asks forgot told => exact ⟨rfl, rfl, ⟨_, rfl⟩, by simp, by simp, by simp [asks]⟩
  | answered asks forgot told => exact ⟨rfl, rfl, ⟨_, rfl⟩, by simp, by simp, by simp [asks]⟩

/-- An existing file goes only if collisions are asked about. -/
theorem asks (decides : desk.Decides job question verdict after) (goes : verdict ≠ .keep) :
    desk.interactive = true := by
  cases decides with
  | quiet quiet => exact absurd rfl goes
  | remembered asks _ => exact asks
  | unanswered asks _ _ => exact asks
  | answered asks _ _ => exact asks

end Desk.Decides

/-- The desk with one more warning in its report. -/
def Desk.warned {σ : Type} (desk : Desk σ) (warning : RequestError) : Desk σ :=
  { desk with report := { desk.report with warnings := desk.report.warnings ++ [warning] } }

/-- What comes of asking whether `file` may take the place of `existing` in `target`. -/
inductive Desk.Overwrites (setup : Setup τ) (desk : Desk (Cabinet τ)) (file existing : File)
    (target : EntityId) : Except RequestError Bool → Desk (Cabinet τ) → Prop
  | refused {error after}
      (missed : desk.Missed setup.faults (Refused desk.world.store) error after) :
      Overwrites setup desk file existing target (.error error) after
  | kept {asked extra after} (glanced : desk.Glanced setup.faults asked extra)
      (decides : asked.Decides setup.job ⟨file.id, existing.id⟩ .keep after) :
      Overwrites setup desk file existing target (.ok false) after
  | unanswered {asked extra decided} (glanced : desk.Glanced setup.faults asked extra)
      (decides : asked.Decides setup.job ⟨file.id, existing.id⟩ .unanswered decided) :
      Overwrites setup desk file existing target (.ok false) (decided.warned (.interrupted file.id))
  | evicted {asked extra decided method removed} (glanced : desk.Glanced setup.faults asked extra)
      (permitted : desk.world.store.allows (existing.removalPermission target) existing.id = true)
      (decides : asked.Decides setup.job ⟨file.id, existing.id⟩ .overwrite decided)
      (wrote : decided.Wrote removed method (desk.world.store.takeOut existing target) id)
      (drift : setup.faults.Drift decided.world.around removed.world.around) :
      Overwrites setup desk file existing target (.ok true)
        (removed.tallied fun tally => { tally with filesOverwritten := tally.filesOverwritten + 1 })
  /-- The existing file was to go, but its removal failed. -/
  | stuck {asked extra decided error after} (glanced : desk.Glanced setup.faults asked extra)
      (decides : asked.Decides setup.job ⟨file.id, existing.id⟩ .overwrite decided)
      (missed : decided.Missed setup.faults (fun _ => False) error after) :
      Overwrites setup desk file existing target (.error error) after

/-- What comes of looking for room for `file` in `target`. -/
inductive Desk.Prepares (setup : Setup τ) (desk : Desk (Cabinet τ)) (file : File)
    (target : EntityId) (except : Option EntityId) : Except RequestError Bool → Desk (Cabinet τ) → Prop
  | missed {error after} (missed : desk.Missed setup.faults (fun _ => False) error after) :
      Prepares setup desk file target except (.error error) after
  | free {extra after} (glanced : desk.Glanced setup.faults after extra)
      (free : desk.world.store.contents.FreeFileName file.name target except) :
      Prepares setup desk file target except (.ok true) after
  | clash {between extra existing result after} (glanced : desk.Glanced setup.faults between extra)
      (clash : Clash desk.world.store.contents file.name existing target except)
      (overwrites : between.Overwrites setup file existing target result after) :
      Prepares setup desk file target except result after

/-- There is room for `file` in `target`. -/
inductive Desk.Room (desk after : Desk (Cabinet τ)) (file : File) (target : EntityId)
    (except : Option EntityId) : Prop
  | free {extra} (kept : desk.Kept after extra)
      (free : desk.world.store.contents.FreeFileName file.name target except)
  | evicted {existing} (displaces : Displaces desk.rules desk.world.store file existing target)
      (changed : desk.Changed after (desk.world.store.takeOut existing target)
        fun tally => { tally with filesOverwritten := tally.filesOverwritten + 1 })

theorem Desk.Room.traced {desk after : Desk (Cabinet τ)} {file : File} {target : EntityId}
    {except : Option EntityId} (room : desk.Room after file target except)
    (notDelete : desk.rules.operation ≠ .delete) : desk.Traced after := by
  cases room with
  | free kept _ => exact kept.traced
  | evicted displaces changed => exact changed.traced (.evict notDelete displaces)

namespace Action

variable {setup : Setup τ} {desk : Desk (Cabinet τ)}

theorem meets_decideCollision (source destination : EntityId) :
    (decideCollision setup.host source destination).Meets desk fun result after =>
      ∃ verdict, result = .ok verdict ∧
        desk.Decides setup.job ⟨source, destination⟩ verdict after := by
  unfold decideCollision
  refine .get ?_
  split
  next asks =>
    split
    next overwrite holds => exact .pure ⟨_, rfl, .remembered asks holds⟩
    next forgot =>
      refine (meets_aside _).bind ?_ (by rintro _ _ ⟨_, _, _, ⟨⟩, _⟩)
      rintro answer after ⟨_, around, told, ⟨⟩, rfl⟩
      cases answer with
      | none => exact .pure ⟨_, rfl, .unanswered asks forgot told⟩
      | some decision =>
        have answered := Desk.Decides.answered asks forgot told
        dsimp only
        -- Only an answer for all collisions is remembered.
        split
        next forAll =>
          rw [if_pos forAll] at answered
          exact .modify_bind (.pure ⟨_, rfl, answered⟩)
        next onlyHere =>
          rw [if_neg onlyHere, ← forgot] at answered
          exact .pure ⟨_, rfl, answered⟩
  next quiet => exact .pure ⟨_, rfl, .quiet (by simpa using quiet)⟩

theorem meets_detachOrDelete {first : Desk (Cabinet τ)} {extra : List Entry}
    (kept : first.Kept desk extra) {file : File} (parent : EntityId)
    (stored : first.world.store.contents.file? file.id = some file) :
    (detachOrDelete setup.host file parent).Meets desk fun result after =>
      match result with
      | .ok deleted => deleted = !file.isElsewhere parent ∧
          ∃ method, desk.Wrote after method (first.world.store.takeOut file parent) id ∧
            setup.faults.Drift desk.world.around after.world.around
      | .error error => desk.Missed setup.faults (fun _ => False) error after := by
  unfold detachOrDelete MemoryStore.takeOut
  rw [← kept.store] at stored ⊢
  split
  next elsewhere =>
    refine .alter (.refl desk) (meets_save _) (fun _ _ missed => missed) ?_
    exact fun after wrote drift => .pure ⟨by simp [elsewhere], .save, wrote, drift⟩
  next only =>
    have has : desk.world.store.has file.id = true := Contents.has_of_file? stored
    refine .alter (.refl desk) (meets_delete has) (fun _ _ missed => missed) ?_
    exact fun after wrote drift => .pure ⟨by simp [only], .delete, wrote, drift⟩

theorem meets_overwrite {file existing : File} {target : EntityId}
    (stored : desk.world.store.contents.file? existing.id = some existing) :
    (overwrite setup.host file existing target).Meets desk
      (desk.Overwrites setup file existing target) := by
  unfold overwrite
  refine .permit (.refl desk) (fun _ _ missed => .refused missed) (fun _ denied => ⟨_, _, denied⟩) ?_
  intro asking extra glanced permitted
  refine (meets_decideCollision _ _).bind ?_ (by rintro _ _ ⟨_, ⟨⟩, _⟩)
  rintro verdict decided ⟨_, ⟨⟩, decides⟩
  cases verdict with
  | keep => exact .pure (.kept glanced decides)
  | unanswered => exact .modify_bind (.pure (.unanswered glanced decides))
  | overwrite =>
    refine (meets_detachOrDelete (glanced.kept.trans decides.kept) target stored).bind ?_ ?_
    · rintro _ after ⟨_, method, wrote, drift⟩
      exact .tally_bind (.pure (.evicted glanced permitted decides wrote drift))
    · exact fun error after missed => .stuck glanced decides missed

/-! ## Names of children -/

theorem looks_childFileNamed (setup : Setup τ) {store : MemoryStore} {parent : EntityId}
    {listing : Listing} (found : store.contents.listing? parent = some listing) (name : String)
    (except : Option EntityId) :
    Looks setup.faults store (childFileNamed setup.host listing name except) fun result =>
      ∃ clash, result = .ok clash ∧
        match clash with
        | none => store.contents.FreeFileName name parent except
        | some existing => Clash store.contents name existing parent except := by
  obtain ⟨_, _, files⟩ := Contents.listing?_eq_some_iff.mp found
  refine (looks_fileNamed setup store name _).mono ?_
  rintro _ rfl
  refine ⟨_, rfl, ?_⟩
  cases first : List.findSome? (store.contents.fileNamed? name)
      (listing.childFiles.filter (some · ≠ except)) with
  | none =>
    -- The search went through all others, and each of them has another name.
    intro id file stored listed differs sameName
    have member : id ∈ listing.childFiles := files ▸ Contents.mem_childFiles.mpr ⟨file, stored, listed⟩
    have unnamed := List.findSome?_eq_none_iff.mp first id (by simp [member, differs])
    have named := Contents.fileNamed?_eq_some_iff.mpr ⟨stored, sameName⟩
    simp [unnamed] at named
  | some existing =>
    obtain ⟨id, member, named⟩ := List.exists_of_findSome?_eq_some first
    obtain ⟨stored, sameName⟩ := Contents.fileNamed?_eq_some_iff.mp named
    cases Contents.id_of_file? stored
    obtain ⟨inListing, differs⟩ : existing.id ∈ listing.childFiles ∧ some existing.id ≠ except := by
      simpa using member
    rw [files] at inListing
    obtain ⟨file, stored', listed⟩ := Contents.mem_childFiles.mp inListing
    rw [stored] at stored'
    cases stored'
    exact ⟨stored, listed, differs, sameName⟩

theorem looks_childFolderNamed (setup : Setup τ) {store : MemoryStore} {parent : EntityId}
    {listing : Listing} (found : store.contents.listing? parent = some listing) (name : String)
    (except : Option EntityId) :
    Looks setup.faults store (childFolderNamed setup.host listing name except) fun result =>
      ∃ clash, result = .ok clash ∧
        match clash with
        | none => store.contents.FreeFolderName name parent except
        | some existing => FolderClash store.contents name existing parent except := by
  obtain ⟨_, folders, _⟩ := Contents.listing?_eq_some_iff.mp found
  refine (looks_folderNamed setup store name _).mono ?_
  rintro _ rfl
  refine ⟨_, rfl, ?_⟩
  cases first : List.find? (store.contents.isFolderNamed name)
      (listing.childFolders.filter (some · ≠ except)) with
  | none =>
    -- A search that finds nothing has looked at every child but for the exception.
    intro id folder stored inside differs sameName
    have member : id ∈ listing.childFolders :=
      folders ▸ Contents.mem_childFolders.mpr ⟨folder, stored, inside⟩
    have unnamed := List.find?_eq_none.mp first id (by simp [member, differs])
    exact unnamed (Contents.isFolderNamed_iff.mpr ⟨folder, stored, sameName⟩)
  | some existing =>
    obtain ⟨folder, stored, sameName⟩ := Contents.isFolderNamed_iff.mp (List.find?_some first)
    obtain ⟨inListing, differs⟩ : existing ∈ listing.childFolders ∧ some existing ≠ except := by
      simpa using List.mem_of_find?_eq_some first
    rw [folders] at inListing
    obtain ⟨folder', stored', inside⟩ := Contents.mem_childFolders.mp inListing
    rw [stored] at stored'
    cases stored'
    exact ⟨⟨folder, stored, inside, sameName⟩, differs⟩

theorem meets_makeRoom {first : Desk (Cabinet τ)} {extra : List Entry}
    (glanced : first.Glanced setup.faults desk extra) {file : File} {target : EntityId}
    {destination : Listing} {except : Option EntityId}
    (found : first.world.store.contents.listing? target = some destination) :
    (makeRoom setup.host file destination target except).Meets desk
      (first.Prepares setup file target except) := by
  unfold makeRoom
  refine .glance glanced (looks_childFileNamed setup found file.name except)
    (fun _ _ missed => .missed missed) (by rintro _ ⟨_, ⟨⟩, _⟩) ?_
  rintro _ between extra glanced ⟨_, ⟨⟩, clash⟩
  split at clash
  next => exact .pure (.free glanced clash)
  next existing =>
    exact (meets_overwrite (glanced.store.symm ▸ clash.stored)).mono fun _ _ overwrites =>
      .clash glanced clash overwrites

end Action

/-- A file that is not yet there meets another one. -/
theorem Clash.differs_of_apart {c : Contents} {file existing : File} {target : EntityId}
    {except : Option EntityId} (clash : Clash c file.name existing target except)
    (stored : c.file? file.id = some file)
    (apart : except = some file.id ∨ except = none ∧ target ∉ file.parents) :
    existing.id ≠ file.id := by
  intro same
  rcases apart with rfl | ⟨_, absent⟩
  · exact clash.differs (by rw [same])
  · have storedToo := clash.stored
    rw [same, stored] at storedToo
    cases storedToo
    exact absent clash.listed

namespace Desk

variable {setup : Setup τ} {desk between after : Desk (Cabinet τ)} {file existing : File}
  {target : EntityId} {except : Option EntityId} {extra : List Entry}
  {result : Except RequestError Bool}

/-- Either there is room for the file or everything stays. -/
def Rooms (faults : Faults τ) (desk : Desk (Cabinet τ)) (file : File) (target : EntityId)
    (except : Option EntityId) (result : Except RequestError Bool) (after : Desk (Cabinet τ)) : Prop :=
  match result with
  | .ok true => desk.Room after file target except
  | .ok false => ∃ extra existing, desk.Kept after extra ∧
      Clash desk.world.store.contents file.name existing target except
  | .error error => desk.Failed faults (Refused desk.world.store) error after

theorem Overwrites.rooms (overwrites : between.Overwrites setup file existing target result after)
    (kept : desk.Kept between extra) (stored : desk.world.store.contents.file? file.id = some file)
    (clash : Clash desk.world.store.contents file.name existing target except)
    (differs : existing.id ≠ file.id) : desk.Rooms setup.faults file target except result after := by
  cases overwrites with
  | refused missed =>
    rw [kept.store] at missed
    exact missed.failed.after_keeping kept
  | kept glanced decides =>
    exact ⟨_, existing, (kept.trans glanced.kept).trans decides.kept, clash⟩
  | @unanswered asked extra' decided glanced decides =>
    have interactive : desk.interactive = true :=
      (kept.trans glanced.kept).interactive ▸ decides.asks (by simp)
    -- The warning is all that is left of the question.
    have keptSoFar := (kept.trans glanced.kept).trans decides.kept
    obtain ⟨warnings, report⟩ := keptSoFar.report
    refine ⟨_, existing, { keptSoFar with report := ⟨?_, ?_⟩, quiet := ?_ }, clash⟩
    · exact warnings ++ [.interrupted file.id]
    · simp only [warned, report]
    · simp [interactive]
  | evicted glanced permitted decides wrote drift =>
    -- Nobody decides for overwriting where nobody is asked.
    have keptSoFar := kept.trans glanced.kept
    have interactive : desk.interactive = true := keptSoFar.interactive ▸ decides.asks (by simp)
    have displaces : Displaces desk.rules desk.world.store file existing target :=
      ⟨interactive, stored, clash.stored, clash.listed, differs, clash.sameName,
        kept.store ▸ permitted⟩
    rw [kept.store] at wrote
    exact .evicted displaces ⟨_, _, _, keptSoFar.trans decides.kept, wrote.counted _⟩
  | stuck glanced decides missed =>
    have keptSoFar := (kept.trans glanced.kept).trans decides.kept
    exact (missed.failed.after_keeping keptSoFar).mono (by simp)

theorem Prepares.rooms (prepares : desk.Prepares setup file target except result after)
    (stored : desk.world.store.contents.file? file.id = some file)
    (apart : except = some file.id ∨ except = none ∧ target ∉ file.parents) :
    desk.Rooms setup.faults file target except result after := by
  cases prepares with
  | missed missed => exact missed.failed.mono (by simp)
  | free glanced free => exact .free glanced.kept free
  | clash glanced clash overwrites =>
    exact overwrites.rooms glanced.kept stored clash (clash.differs_of_apart stored apart)

end Desk

end Filing
