import Filing.Proofs.Shifting

/-!
# What another move would leave as it is

`MemoryStore.FileRests` and `MemoryStore.Rests` list the ways in which a file or a folder can be such
that moving it once more changes nothing, all of them known from what is stored. A merged folder rests
if everything in it does and it cannot be deleted. Where nobody is asked, what rests stays
(`Action.keeps_moveFolder`), and it goes on resting while other things change, as long as nothing below
it and nothing it was merged into is touched (`MemoryStore.Rests.shift`).
-/
namespace Filing

open Contents

variable {τ : Type}

/-- Moving the file to `target` again leaves everything as it is. -/
inductive MemoryStore.FileRests (s : MemoryStore) (id : EntityId) (source : Option EntityId)
    (target : EntityId) : Prop
  | missing (missing : s.contents.file? id = none)
  | already (same : source = some target)
  | denied (denied : s.allows .edit id = false)
  | nowhere (nowhere : s.contents.folder? target = none)
  | clashes {other} (listed : s.contents.Lists target other) (differs : other ≠ id)
      (same : s.contents.fileName other = s.contents.fileName id)
  | moved (listed : s.contents.Lists target id)
      (left : ∀ p, source = some p → ¬ s.contents.Lists p id)

/-- Moving the folder to `target` again leaves everything as it is. -/
inductive MemoryStore.Rests (s : MemoryStore) : (id target : EntityId) → Prop
  | missing {id target} (missing : s.contents.folder? id = none) : Rests s id target
  | there {id target} (inside : s.contents.Inside id target) : Rests s id target
  | around {id target} (below : s.contents.Below target id) : Rests s id target
  | denied {id target} (denied : s.allows .edit id = false) : Rests s id target
  | nowhere {id target} (nowhere : s.contents.folder? target = none) : Rests s id target
  /-- There is nothing left to merge, and the folder cannot go. -/
  | merged {id target folder existing} (stored : s.contents.folder? id = some folder)
      (clash : FolderClash s.contents folder.name existing target (some id))
      (folders : ∀ child, s.contents.Inside child id → Rests s child existing)
      (files : ∀ file, s.contents.Lists id file → s.FileRests file (some id) existing)
      (stuck : s.contents.Vacant id → s.allows .delete id = false) : Rests s id target

namespace FolderClash

variable {c : Contents} {name : String} {existing other target id : EntityId}
  {except : Option EntityId}

theorem child (clash : FolderClash c name existing target except) : c.Child target name existing :=
  clash.stored

theorem ne (clash : FolderClash c name existing target (some id)) : existing ≠ id :=
  fun same => clash.differs (congrArg some same)

theorem unique (clash : FolderClash c name existing target except)
    (clash' : FolderClash c name other target except) (distinct : c.DistinctNames) :
    existing = other :=
  clash.child.unique distinct clash'.child

end FolderClash

/-! ## Moving what rests -/

/-- What comes of moving a file where nobody is asked: it rests, or it is listed in its new place. -/
inductive MemoryStore.Shelves (s : MemoryStore) (id : EntityId) (source : Option EntityId)
    (target : EntityId) : MemoryStore → Prop
  | rests (rests : s.FileRests id source target) : Shelves s id source target s
  | relisted {file} (sameId : file.id = id) (elsewhere : source ≠ some target)
      (relists : Relists s file source target)
      (free : s.contents.FreeFileName file.name target (some id)) :
      Shelves s id source target (s.save (.file (file.reparent source target).1))

namespace MemoryStore

variable {s s' : MemoryStore} {id target : EntityId} {source : Option EntityId}

/-- Another file has the name in the target. -/
theorem FileRests.of_clash {file existing : File} (stored : s.contents.file? file.id = some file)
    (clash : Clash s.contents file.name existing target (some file.id)) :
    s.FileRests file.id source target := by
  refine .clashes ⟨existing, clash.stored, clash.listed⟩ ?_ ?_
  · exact fun same => clash.differs (congrArg some same)
  · simp [fileName, clash.stored, stored, clash.sameName]

/-- Listing the file in the target would make no difference. -/
theorem FileRests.of_unchanged {file : File} (stored : s.contents.file? file.id = some file)
    (elsewhere : source ≠ some target) (same : (file.reparent source target).2 = false) :
    s.FileRests file.id source target := by
  have listed (p : EntityId) : p ∈ file.parents ↔ p = target ∨ p ∈ file.parents ∧ source ≠ some p := by
    conv_lhs => rw [← File.reparent_of_unchanged same]
    exact File.mem_parents_reparent
  refine .moved ⟨file, stored, (listed target).mpr (.inl rfl)⟩ ?_
  rintro p rfl ⟨f, found, here⟩
  cases stored.symm.trans found
  rcases (listed p).mp here with rfl | ⟨_, left⟩
  · exact elsewhere rfl
  · exact left rfl

/-- A file that rests is not moved. -/
theorem FileRests.not_relists {file : File} (rests : s.FileRests file.id source target)
    (elsewhere : source ≠ some target)
    (free : s.contents.FreeFileName file.name target (some file.id)) :
    ¬ Relists s file source target := by
  intro relists
  have stored := relists.stored
  cases rests with
  | missing missing => simp [missing] at stored
  | already same => exact elsewhere same
  | denied denied => simp [relists.permitted] at denied
  | nowhere nowhere =>
    obtain ⟨_, destination⟩ := relists.destination
    simp [nowhere] at destination
  | clashes listed differs same =>
    obtain ⟨other, found, here⟩ := listed
    simp only [fileName, found, stored, Option.map_some, Option.some.injEq] at same
    exact free found here (by simpa using differs) same
  | moved listed left =>
    -- The folder lists it and the source does not, so its parents would be the same as before.
    obtain ⟨f, found, here⟩ := listed
    cases stored.symm.trans found
    have changes := relists.changes
    rw [File.reparent_unchanged here fun p up listed => left p up ⟨file, stored, listed⟩] at changes
    cases changes

theorem Rests.of_placed
    (placed : ∀ folder, s.contents.folder? id = some folder → folder.parent = some target) :
    s.Rests id target := by
  cases stored : s.contents.folder? id with
  | none => exact .missing stored
  | some folder => exact .there (inside_iff.mpr ⟨folder, stored, placed folder stored⟩)

theorem Rests.of_refused {error : RequestError} (refused : FolderMoveRefused s id target error) :
    s.Rests id target := by
  rcases refused with (⟨denied, _⟩ | ⟨nowhere, _⟩) | ⟨below, _⟩
  · exact .denied denied
  · exact .nowhere nowhere
  · exact .around below

/-- A folder that rests though it might be moved has been merged. -/
theorem Rests.merged_of_reparents {folder : Folder} (rests : s.Rests folder.id target)
    (reparents : Reparents s folder target) : ∃ existing,
      FolderClash s.contents folder.name existing target (some folder.id) ∧
      (∀ child, s.contents.Inside child folder.id → s.Rests child existing) ∧
      (∀ file, s.contents.Lists folder.id file → s.FileRests file (some folder.id) existing) ∧
      (s.contents.Vacant folder.id → s.allows .delete folder.id = false) := by
  have stored := reparents.stored
  generalize same : folder.id = id at *
  cases rests with
  | missing missing => simp [missing] at stored
  | there inside =>
    rw [Inside, parentOf_of_folder? stored] at inside
    exact absurd inside reparents.changes
  | around below => exact absurd (same ▸ below) reparents.away
  | denied denied =>
    have permitted := reparents.permitted
    simp [same, denied] at permitted
  | nowhere nowhere =>
    obtain ⟨_, destination⟩ := reparents.destination
    simp [nowhere] at destination
  | merged stored' clash folders files stuck =>
    cases stored.symm.trans stored'
    exact ⟨_, clash, folders, files, stuck⟩

end MemoryStore

/-- Nobody is asked, and this is what is stored. -/
structure Desk.Holds (store : MemoryStore) (desk : Desk (Cabinet τ)) : Prop where
  quiet : desk.interactive = false
  store : desk.world.store = store

/-- What is stored stays if nobody is asked. -/
def Desk.Keeps (store : MemoryStore) (before after : Desk (Cabinet τ)) : Prop :=
  before.Holds store → after.Holds store

theorem Desk.chain_keeps (setup : Setup τ) (store : MemoryStore) :
    Desk.Chain setup (Desk.Keeps store) := by
  have link : Desk.Link (Desk.Keeps store : Desk (Cabinet τ) → Desk (Cabinet τ) → Prop) :=
    ⟨fun _ holds => holds, fun before after holds => after (before holds),
      fun _ _ holds => ⟨holds.quiet, holds.store⟩, fun _ holds => ⟨holds.quiet, holds.store⟩⟩
  exact link.chain (fun kept holds =>
    ⟨kept.interactive.trans holds.quiet, kept.store.trans holds.store⟩) setup

namespace Action

variable {setup : Setup τ} {desk : Desk (Cabinet τ)} {s : MemoryStore} {id target : EntityId}
  {source : Option EntityId}

/-- Where nobody is asked, no other file makes room. -/
theorem room_of_quiet {after : Desk (Cabinet τ)} {file : File} {except : Option EntityId}
    (room : desk.Room after file target except) (quiet : desk.interactive = false) :
    (∃ extra, desk.Kept after extra) ∧
      desk.world.store.contents.FreeFileName file.name target except := by
  cases room with
  | free kept free => exact ⟨⟨_, kept⟩, free⟩
  | evicted displaces _ =>
    have asked : desk.interactive = true := displaces.asked
    simp [quiet] at asked

theorem meets_moveFile_quiet (reliable : setup.Reliable) (quiet : desk.interactive = false)
    (id : EntityId) (source : Option EntityId) (target : EntityId) :
    (moveFile setup.host id source target).Meets desk fun _ after => after.interactive = false ∧
      desk.world.store.Shelves id source target after.world.store := by
  -- A file that is not moved stays for a reason that still holds afterwards.
  have stays {after : Desk (Cabinet τ)} {extra : List Entry} (kept : desk.Kept after extra)
      (rests : desk.world.store.FileRests id source target) : after.interactive = false ∧
      desk.world.store.Shelves id source target after.world.store := by
    refine ⟨kept.interactive.trans quiet, ?_⟩
    rw [kept.store]
    exact .rests rests
  refine .moveFile ?_ ?_ ?_ ?_ ?_
  · rintro after extra glanced (missing | same)
    · exact stays glanced.kept (.missing missing)
    · exact stays glanced.kept (.already same)
  · rintro error after missed
    have refused := missed.reason_of_reliable reliable
    obtain ⟨_, glanced, _⟩ := missed
    rcases refused with ⟨denied, _⟩ | ⟨nowhere, _⟩
    · exact stays glanced.kept (.denied denied)
    · exact stays glanced.kept (.nowhere nowhere)
  · rintro file error after stored rfl prepares
    have refused := prepares.rooms stored (.inl rfl)
    cases prepares with
    | missed missed => exact (missed.reason_of_reliable reliable).elim
    | clash _ clash _ =>
      obtain ⟨_, kept, _⟩ := refused
      exact stays kept (.of_clash stored clash)
  · rintro file after stored rfl prepares
    obtain ⟨_, _, kept, clash⟩ := prepares.rooms stored (.inl rfl)
    exact stays kept (.of_clash stored clash)
  · rintro file roomed stored rfl elsewhere destination permitted prepares
    have room : desk.Room roomed file target (some file.id) := prepares.rooms stored (.inl rfl)
    obtain ⟨⟨_, kept⟩, free⟩ := room_of_quiet room quiet
    refine (meets_relist file source target).mono fun result after ended => ?_
    cases result with
    | error _ => exact (ended.reason_of_reliable reliable).elim
    | ok _ =>
      rcases ended with ⟨same, rfl⟩ | ⟨changes, wrote, _⟩
      · exact stays kept (.of_unchanged stored elsewhere same)
      · refine ⟨(wrote.interactive.trans kept.interactive).trans quiet, ?_⟩
        rw [wrote.store, kept.store]
        exact .relisted rfl elsewhere ⟨stored, destination, permitted, changes⟩ free

/-- An action keeps what is stored if it does so on the desks that hold it. -/
theorem links_keeps {α : Type} {action : Action (Cabinet τ) α}
    (keeps : ∀ desk : Desk (Cabinet τ), desk.Holds s → action.Meets desk fun _ after => after.Holds s) :
    Links (Desk.Keeps s) action :=
  fun desk result after ran holds => keeps desk holds result after ran

theorem keeps_moveFile (reliable : setup.Reliable) (rests : s.FileRests id source target) :
    Links (Desk.Keeps s) (moveFile setup.host id source target) := by
  refine links_keeps ?_
  rintro desk ⟨quiet, rfl⟩
  refine (meets_moveFile_quiet reliable quiet id source target).mono ?_
  rintro result after ⟨quiet', shelves⟩
  refine ⟨quiet', ?_⟩
  generalize after.world.store = last at shelves
  -- What rests cannot be moved, so it has stayed.
  cases shelves with
  | rests _ => rfl
  | relisted sameId elsewhere relists free =>
    subst sameId
    exact absurd relists (rests.not_relists elsewhere free)

theorem keeps_removeIfEmpty (stuck : s.contents.Vacant id → s.allows .delete id = false) :
    Links (Desk.Keeps s) (discard (removeIfEmpty setup.host id)) := by
  refine links_keeps ?_
  rintro desk ⟨quiet, rfl⟩
  refine .removeIfEmpty ?_ ?_
  · exact fun _ _ _ glanced => ⟨glanced.interactive.trans quiet, glanced.store⟩
  · intro after dissolves _
    have denied := stuck dissolves.vacant
    simp [dissolves.permitted] at denied

/-- A folder that rests stays as it is, and so does everything else. -/
theorem keeps_moveFolder (reliable : setup.Reliable) (distinct : s.contents.DistinctNames) (depth : Nat)
    (rests : s.Rests id target) : Links (Desk.Keeps s) (moveFolder setup.host depth id target) := by
  induction depth generalizing id target with
  | zero => exact fun _ => .tooDeep
  | succ depth ih =>
    refine links_keeps ?_
    rintro desk ⟨quiet, rfl⟩
    refine .moveFolder ?_ ?_ ?_ ?_
    · exact fun _ _ glanced _ => ⟨glanced.interactive.trans quiet, glanced.store⟩
    · rintro _ after ⟨_, glanced, _⟩
      exact ⟨glanced.interactive.trans quiet, glanced.store⟩
    -- The folder rests on a clash of names, so it is not simply put into the target.
    · rintro after folder rfl reparents free _
      obtain ⟨_, clash, _⟩ := rests.merged_of_reparents reparents
      obtain ⟨f, stored, inside, same⟩ := clash.stored
      exact absurd same (free stored inside clash.differs)
    · rintro between extra folder existing glanced rfl listed reparents clash
      obtain ⟨_, clash', folders, files, stuck⟩ := rests.merged_of_reparents reparents
      cases clash.unique clash' distinct
      have job := (Desk.chain_keeps setup desk.world.store).toJobLink
      -- Whatever is in the folder rests in its turn.
      have merged : Links (Desk.Keeps desk.world.store)
          (mergeFolder setup.host (moveFolder setup.host depth) folder existing) := by
        have counted (change : Tally → Tally) : Links (Desk.Keeps desk.world.store)
            (count change : Action (Cabinet τ) Unit) :=
          fun _ => .modify fun holds => ⟨holds.quiet, holds.store⟩
        refine .bind job.toLink (counted _) fun _ => ?_
        refine .inLevel job (.bind job.toLink (.forM job.toLink fun child member => ?_) fun _ => ?_)
        · exact .item job (ih (folders child (inside_of_mem_listing listed member)))
        refine .bind job.toLink (.forM job.toLink fun child member => .item job ?_) fun _ => ?_
        · rw [(listing?_eq_some_iff.mp listed).2.2] at member
          exact keeps_moveFile reliable (files child (mem_childFiles.mp member))
        · exact .item job (keeps_removeIfEmpty stuck)
      exact (merged between).mono fun _ after keeps =>
        keeps ⟨glanced.interactive.trans quiet, glanced.store⟩

end Action

/-! ## While other things change -/

namespace MemoryStore

variable {s s' : MemoryStore} {loose filled : Set EntityId} {id target : EntityId}
  {source : Option EntityId}

theorem FileRests.shift (rests : s.FileRests id source target) (shifts : s.Shifts s' loose filled)
    (fast : target ∉ loose) (still : ∀ p, source = some p → p ≠ target → p ∉ filled) :
    s'.FileRests id source target := by
  by_cases same : source = some target
  · exact .already same
  cases rests with
  | missing missing =>
    have name := shifts.names id
    simp only [fileName, missing, Option.map_none, Option.map_eq_none_iff] at name
    exact .missing name
  | already same => exact .already same
  | denied denied => exact .denied (shifts.allows ▸ denied)
  | nowhere nowhere => exact .nowhere (shifts.missing nowhere)
  | clashes listed differs same =>
    refine .clashes (shifts.listed fast listed) differs ?_
    rw [shifts.names, shifts.names, same]
  | moved listed left =>
    refine .moved (shifts.listed fast listed) fun p up listed' => ?_
    rcases shifts.lists listed' with before | member
    · exact left p up before
    · exact still p up (fun here => same (here ▸ up)) member

theorem Rests.shift (rests : s.Rests id target) (shifts : s.Shifts s' loose filled)
    (there : s.contents.Inside id target → s'.contents.Inside id target)
    (around : s.contents.Below target id → s'.contents.Below target id)
    (spared : ∀ {folder existing}, s.contents.folder? id = some folder →
      FolderClash s.contents folder.name existing target (some id) →
      ¬ s.contents.Inside id target → ¬ s.contents.Below target id →
      (∀ y, s.contents.Below y id → y ∉ loose ∧ y ∉ filled) ∧
        ∀ y, s.contents.Below y existing → y ∉ loose) : s'.Rests id target := by
  induction rests with
  | missing missing => exact .missing (shifts.missing missing)
  | there inside => exact .there (there inside)
  | around below => exact .around (around below)
  | denied denied => exact .denied (shifts.allows ▸ denied)
  | nowhere nowhere => exact .nowhere (shifts.missing nowhere)
  | @merged id target folder existing stored clash folders files stuck ih =>
    by_cases inside : s.contents.Inside id target
    · exact .there (there inside)
    by_cases below : s.contents.Below target id
    · exact .around (around below)
    obtain ⟨still, fast⟩ := spared stored clash inside below
    have here := still id (below_refl _ id)
    have fastHere := fast existing (below_refl _ existing)
    have clash' : FolderClash s'.contents folder.name existing target (some id) := by
      refine ⟨?_, clash.differs⟩
      rw [shifts.folders existing fastHere]
      exact clash.stored
    refine .merged ((shifts.folders id here.1).trans stored) clash' ?_ ?_ ?_
    · intro child up'
      have up := (shifts.inside up').resolve_right here.2
      refine ih child up (shifts.inside_iff (still child up.below).1).mpr (fun around => ?_) ?_
      -- The two folders lie side by side, so neither is met on the way up from the other.
      · have under := (around.trans up.below).parent_of_ne clash.ne clash.child.inside
        exact absurd under below
      · intro folder' existing' _ clash' _ _
        exact ⟨fun y below => still y (below.trans up.below),
          fun y below => fast y (below.trans clash'.child.inside.below)⟩
    · intro file listed
      -- Nothing came into the folder, so the file lay in it before.
      refine (files file ((shifts.lists listed).resolve_right here.2)).shift shifts fastHere ?_
      rintro _ ⟨⟩ _
      exact here.2
    · intro vacant
      rw [shifts.allows]
      refine stuck ⟨fun x up => ?_, fun stored listed => ?_⟩
      · exact vacant.folders x ((shifts.inside_iff (still x up.below).1).mpr up)
      · obtain ⟨f, found, up⟩ := shifts.listed here.1 ⟨_, stored, listed⟩
        exact vacant.files found up

end MemoryStore

end Filing
