import Filing.Proofs.Depth
import Filing.Proofs.Halting
import Filing.Proofs.Joining
import Filing.Proofs.Levels

/-!
# Copying comes to an end

A folder may be copied into one that lies above it, and then there are soon more folders below those
that have yet to be copied. But new folders go no deeper than the target and the height of the source
together, and a child that is still to be copied keeps its height meanwhile (`Contents.Spans`). So
the height decreases from a folder to its children, while the target is one level deeper each time.

## Main results

* `Action.sprouts_copyFolder`: copying a folder ends, wherever the target lies.
* `Request.comes_to_an_end`: so do all requests that copy or move into a folder.
-/
namespace Filing

open Contents

variable {τ : Type} {setup : Setup τ}

namespace Action

variable {desk : Desk (Cabinet τ)}

/-! ## Looking and creating -/

/-- In a forest, going up takes as many steps as there are levels. -/
theorem returns_isDescendantOrSelf_level (depth : Nat) (candidate ancestor : EntityId)
    (forest : desk.world.store.contents.Forest)
    (enough : desk.world.store.contents.level candidate < depth) :
    (isDescendantOrSelf setup.host depth candidate ancestor).Returns desk := by
  refine returns_climbs_of_less ancestor (fun _ => desk.world.store.contents.level) ?_ [] depth
    candidate enough
  intro _ current parent _ inside
  have step := forest.level_child inside
  omega

theorem returns_createFolder (drive desired name : String) (parent : Option EntityId)
    (desk : Desk (Cabinet τ)) : (createFolder setup.host drive desired name parent).Returns desk := by
  refine (Returns.call _ desk).andThen fun id desk => ?_
  refine (Returns.require .edit id desk).andThen fun _ desk => ?_
  refine (Returns.call _ desk).andThen fun _ desk => ?_
  exact (Returns.count _ desk).andThen fun _ desk => .pure id desk

theorem returns_createFile (source : File) (drive desired name : String) (parent : Option EntityId)
    (desk : Desk (Cabinet τ)) :
    (createFile setup.host source drive desired name parent).Returns desk := by
  refine (Returns.call _ desk).andThen fun id desk => ?_
  refine (Returns.require .edit id desk).andThen fun _ desk => ?_
  exact (Returns.call _ desk).andThen fun _ desk => .count _ desk

/-! ## Files -/

theorem returns_copyFile (id target : EntityId) (desk : Desk (Cabinet τ)) :
    (copyFile setup.host id target).Returns desk := by
  refine (Returns.call _ desk).andThen fun found desk => ?_
  cases found with
  | none => exact .pure () desk
  | some file =>
    dsimp only
    split
    · exact .pure () desk
    · refine (Returns.call _ desk).andThen fun opened desk => ?_
      cases opened with
      | none => exact .throw _ desk
      | some destination =>
        refine (returns_makeRoom file destination target none desk).andThen fun room desk => ?_
        split
        · exact returns_createFile file _ _ _ _ desk
        · exact .pure () desk

theorem returns_copyFileAs (id : EntityId) (source target : Option EntityId) (desired : EntityId)
    (desk : Desk (Cabinet τ)) : (copyFileAs setup.host id source target desired).Returns desk := by
  refine (Returns.call _ desk).andThen fun found desk => ?_
  cases found with
  | none => exact .pure () desk
  | some file =>
    refine Returns.andThen ?_ fun _ desk => returns_createFile file _ _ _ _ desk
    cases (target <|> source) with
    | none => exact .pure () desk
    | some parent =>
      refine (Returns.call _ desk).andThen fun opened desk => ?_
      cases opened with
      | none => exact .throw _ desk
      | some destination =>
        refine (returns_fileNamed _ _ desk).andThen fun clash desk => ?_
        split
        · exact .throw _ desk
        · exact .pure () desk

/-- Copying a file leaves all folders where they are. -/
theorem folder?_copyFile (id target : EntityId) :
    (copyFile setup.host id target).Meets desk fun _ after =>
      ∀ x, after.world.store.contents.folder? x = desk.world.store.contents.folder? x := by
  refine (meets_copyFile id target).mono fun result after ended => ?_
  cases ended with
  | missing kept _ => exact fun _ => by rw [kept.store]
  | already kept _ _ => exact fun _ => by rw [kept.store]
  | clashes kept _ _ => exact fun _ => by rw [kept.store]
  | @copied between _ file copy _ _ _ room creates changed =>
    have noFolder : between.world.store.contents.folder?
        (file.copyTo copy file.name (some target)).id = none := folder?_eq_none_of_unused creates.unused
    intro x
    rw [changed.store_eq]
    exact (folder?_insert_file_of_noFolder noFolder x).trans (room.folder? x)
  | stuck _ room failed =>
    obtain ⟨_, kept, _⟩ := failed
    exact fun x => by rw [kept.store, room.folder?]
  | failed failed =>
    obtain ⟨_, kept, _⟩ := failed
    exact fun _ => by rw [kept.store]

theorem folder?_copyFileAs (id : EntityId) (source target : Option EntityId) (desired : EntityId) :
    (copyFileAs setup.host id source target desired).Meets desk fun _ after =>
      ∀ x, after.world.store.contents.folder? x = desk.world.store.contents.folder? x := by
  refine (meets_copyFileAs id source target desired).mono fun result after ended => ?_
  cases result with
  | error _ =>
    obtain ⟨_, kept, _⟩ := ended
    exact fun _ => by rw [kept.store]
  | ok _ =>
    rcases ended with ⟨_, kept, _⟩ | ⟨file, copy, _, _, creates, changed⟩
    · exact fun _ => by rw [kept.store]
    · rw [changed.store_eq]
      exact folder?_insert_file_of_noFolder (folder?_eq_none_of_unused creates.unused)

/-! ## Folders -/

/-- A folder is copied to its end if the children are copied to theirs. -/
theorem Ends.copyFolder {depth : Nat} {id target : EntityId}
    {post : Except RequestError Unit → Desk (Cabinet τ) → Prop}
    (asks : (isDescendantOrSelf setup.host (depth + 1) target id).Returns desk)
    (stays : ∀ after extra, desk.Kept after extra → post (.ok ()) after)
    (failed : ∀ error after, desk.Failed setup.faults (Hindered desk.world.store) error after →
      post (.error error) after)
    (fills : ∀ between folder existing, between.world.store = desk.world.store →
      desk.world.store.contents.listing? id = some folder → folder.parent ≠ some target →
      ¬ desk.world.store.contents.Below target id →
      desk.world.store.contents.Inside existing target →
      (copyChildren setup.host (Action.copyFolder setup.host depth) folder existing).Ends between post)
    (grows : ∀ between folder copy, desk.world.store.contents.listing? id = some folder →
      ¬ desk.world.store.contents.Below target id →
      Creates desk.world.store copy (some target) →
      between.world.store = desk.world.store.save (.folder ⟨copy, folder.name, some target⟩) →
      (copyChildren setup.host (Action.copyFolder setup.host depth) folder copy).Ends between post) :
    (Action.copyFolder setup.host (depth + 1) id target).Ends desk post := by
  unfold Action.copyFolder
  refine .look (.refl desk) asks (looks_isDescendantOrSelf setup _ (depth + 1) target id) failed
    (by rintro _ ⟨_, ⟨⟩, _⟩) ?_
  rintro _ between extra kept ⟨below, ⟨⟩, exact⟩
  split
  next under =>
    exact ⟨.throw _ between, .throw (failed _ _ ⟨extra, kept, .inl (.cycle (exact.mp under))⟩)⟩
  next notUnder =>
    have away : ¬ desk.world.store.contents.Below target id := fun below => notUnder (exact.mpr below)
    refine .lookFolder kept failed (fun _ _ kept _ => .pure (stays _ _ kept))
      fun folder between extra kept listed => ?_
    dsimp only
    split
    next => exact .pure (stays _ _ kept)
    next elsewhere =>
      refine .lookFolder kept failed (fun between extra kept missing => ?_)
        fun destination between extra kept opened => ?_
      · exact ⟨.throw _ between, .throw (failed _ _ ⟨extra, kept, .inl (.missing missing)⟩)⟩
      · have returns : (copyTarget setup.host folder id target destination).Returns between := by
          refine (returns_folderNamed folder.name _ between).andThen fun clash desk => ?_
          cases clash with
          | none => exact returns_createFolder _ _ _ _ desk
          | some existing => exact (Returns.count _ desk).andThen fun _ desk => .pure existing desk
        -- The children go into a folder that was there, or into one that is new.
        refine Ends.bind ⟨returns, meets_copyTarget kept opened folder id⟩ ?_ failed
        rintro copy between (⟨named, extra, kept, clash, rfl⟩ | ⟨_, creates, changed⟩)
        · obtain ⟨f, stored, inside, _⟩ := clash.stored
          exact fills _ folder copy kept.store listed elsewhere away
            (inside_iff.mpr ⟨f, stored, inside⟩)
        · exact grows between folder copy listed away creates changed.store_eq

/-- Within the depth, whatever is copied into `target` is copied to its end. The copies go down as many
levels as what is copied, and no further. -/
def Sprouts (setup : Setup τ) (depth : Nat) (target : EntityId) : Prop :=
  ∀ (desk : Desk (Cabinet τ)) (id : EntityId) (height : Nat), desk.world.store.contents.Forest →
    desk.world.store.contents.Spans id height →
    desk.world.store.contents.level target + 2 * height < depth →
    (Action.copyFolder setup.host depth id target).Ends desk fun _ after =>
      Sprouted desk.world.store.contents after.world.store.contents target
        (desk.world.store.contents.level target + 1 + height)

section

variable {depth height : Nat} {listing : Listing}

theorem sprouted_copyChildren {target : EntityId} (sprouts : Sprouts setup depth target)
    (forest : desk.world.store.contents.Forest)
    (children : ∀ child ∈ listing.childFolders, desk.world.store.contents.Inside child listing.id)
    (spans : desk.world.store.contents.Spans listing.id height)
    (rooted : target ∈ desk.world.store.contents.folders)
    (apart : ¬ desk.world.store.contents.Below target listing.id)
    (enough : desk.world.store.contents.level target + 2 * height < depth + 2) :
    (copyChildren setup.host (Action.copyFolder setup.host depth) listing target).Ends desk
      fun _ after => Sprouted desk.world.store.contents after.world.store.contents target
        (desk.world.store.contents.level target + height) := by
  generalize start : desk.world.store.contents = c at *
  suffices all : Settles (copyChildren setup.host (Action.copyFolder setup.host depth) listing target)
      desk fun c' => Sprouted c c' target (c.level target + height) from all.mono fun _ _ ended => ended.2
  refine .inLevel fun pushed store => ?_
  have folders : Settles (listing.childFolders.forM fun child =>
      Action.item setup.host.job (Action.copyFolder setup.host depth child target)) pushed
      fun c' => Sprouted c c' target (c.level target + height) := by
    refine .forM (fun _ c' => Sprouted c c' target (c.level target + height)) ?_ ?_
    · rw [store, start]
      exact .of_same forest fun _ => rfl
    · intro seen child later split between sprouted
      have inside := children child (by simp [split])
      -- There is a child, so there is some height to lose.
      obtain ⟨rest, rfl⟩ := Nat.exists_eq_succ_of_ne_zero (spans.pos forest inside).ne'
      have same := sprouted.level_eq forest rooted
      -- What was copied so far may have put something below this child, but not too deep.
      have spans' : between.world.store.contents.Spans child rest := by
        apply sprouted.spans forest rooted (mem_folders_of_inside inside) (spans.inside forest inside)
        · exact fun below => apart (below.trans inside.below)
        · omega
      have ends := sprouts between child rest sprouted.forest spans' (by omega)
      refine .item (ends.mono fun _ _ grown => ?_)
      exact sprouted.trans (grown.widen (below_refl _ _) (by omega))
  refine folders.bind fun filled sprouted => ?_
  refine .forM (fun _ c' => Sprouted c c' target (c.level target + height)) sprouted ?_
  intro _ child _ _ between sprouted
  refine .item ?_
  refine ⟨returns_copyFile child target between, (folder?_copyFile child target).mono ?_⟩
  exact fun _ _ same => sprouted.trans (.of_same sprouted.forest same)

/-- The children go into a new folder that is not put below their own. -/
theorem sprouted_copyInto {c : Contents} (folder : Folder) (sprouts : Sprouts setup depth folder.id)
    (forest : c.Forest) (listed : c.listing? listing.id = some listing)
    (spans : c.Spans listing.id height) (unused : c.has folder.id = false)
    (place : ∀ parent, folder.parent = some parent → parent ∈ c.folders ∧ ¬ c.Below parent listing.id)
    (begun : desk.world.store.contents = c.insert (.folder folder))
    (enough : c.levelIn folder.parent + 2 * height < depth + 2) :
    (copyChildren setup.host (Action.copyFolder setup.host depth) listing folder.id).Ends desk
      fun _ after => Sprouted c after.world.store.contents folder.id
        (c.levelIn folder.parent + height) ∧
        after.world.store.contents.folder? folder.id = some folder := by
  have stored : listing.id ∈ c.folders := ⟨_, (listing?_eq_some_iff.mp listed).1⟩
  have fresh : folder.id ∉ c.folders := by
    rintro ⟨f, found⟩
    simp [folder?_eq_none_of_unused unused] at found
  have planted := Sprouted.insert_folder forest fresh fun parent up => (place parent up).1
  have level := forest.level_insert_folder fresh fun parent up => (place parent up).1
  have rooted : Contents.folder? (c.insert (.folder folder)) folder.id = some folder := by simp
  have spans' := Spans.insert_folder forest fresh stored place spans
  have apart := not_below_insert_folder forest fresh stored place
  have children : ∀ child ∈ listing.childFolders,
      Inside (c.insert (.folder folder)) child listing.id :=
    fun child member => planted.inside (inside_of_mem_listing listed member)
  rw [← level] at enough
  rw [← begun] at planted level rooted spans' apart children enough
  have ends := sprouted_copyChildren sprouts planted.forest children spans' ⟨_, rooted⟩ apart enough
  refine ends.mono fun _ _ sprouted => ?_
  rw [level] at sprouted
  exact ⟨(planted.widen (below_refl _ _) (Nat.le_add_right _ _)).trans sprouted,
    sprouted.folder rooted⟩

end

/-- Copying a folder ends, wherever the target lies. -/
theorem sprouts_copyFolder (setup : Setup τ) (depth : Nat) (target : EntityId) :
    Sprouts setup depth target := by
  -- On the depth: from a folder to its children, the target gets one level deeper and the height less.
  induction depth generalizing target with
  | zero => exact fun _ _ _ _ _ enough => absurd enough (Nat.not_lt_zero _)
  | succ depth ih =>
    intro desk id height forest spans enough
    refine .copyFolder ?_ ?_ ?_ ?_ ?_
    · exact returns_isDescendantOrSelf_level (depth + 1) target id forest (by omega)
    · exact fun after extra kept => .of_same forest fun _ => by rw [kept.store]
    · rintro error after ⟨_, kept, _⟩
      exact .of_same forest fun _ => by rw [kept.store]
    · intro between listing there store listed elsewhere away inside
      cases id_of_listing? listed
      have step := forest.level_child inside
      -- The folder that is filled may be above the one that is copied, but it is not below.
      have apart : ¬ desk.world.store.contents.Below there listing.id := by
        intro below
        rcases below_iff.mp below with rfl | ⟨parent, inside', rest⟩
        · exact elsewhere ((parentOf_of_folder? (listing?_eq_some_iff.mp listed).1).symm.trans inside)
        · exact away (inside_unique inside inside' ▸ rest)
      have children : ∀ child ∈ listing.childFolders,
          desk.world.store.contents.Inside child listing.id :=
        fun child member => inside_of_mem_listing listed member
      rw [← store] at forest spans inside step apart children enough ⊢
      have ends := sprouted_copyChildren (ih there) forest children spans
        (mem_folders_of_inside inside) apart (by omega)
      refine ends.mono fun _ _ sprouted => ?_
      exact sprouted.widen (sprouted.inside inside).below (by omega)
    · intro between listing copy listed away creates store
      cases id_of_listing? listed
      have place : ∀ parent, some target = some parent →
          parent ∈ desk.world.store.contents.folders ∧
          ¬ desk.world.store.contents.Below parent listing.id := by
        rintro _ ⟨⟩
        exact ⟨creates.destination target rfl, away⟩
      have enough' : desk.world.store.contents.levelIn (some target) + 2 * height < depth + 2 := by
        rw [levelIn]
        omega
      have ends := sprouted_copyInto ⟨copy, listing.name, some target⟩ (ih copy) forest listed spans
        creates.unused place (congrArg MemoryStore.contents store) enough'
      refine ends.mono ?_
      rintro _ after ⟨sprouted, stored⟩
      exact sprouted.widen (inside_iff.mpr ⟨_, stored, rfl⟩).below le_rfl

/-! ## Under a name of its own -/

theorem returns_checkPlace (parent : EntityId) (destination : Listing) (depth : Nat) (id : EntityId)
    (name : String) (except : Option EntityId)
    (asks : (isDescendantOrSelf setup.host depth parent id).Returns desk) :
    (do
      if ← isDescendantOrSelf setup.host depth parent id then throw (.cycle id)
      if (← childFolderNamed setup.host destination name except).isSome then
        throw (.nameCollision name parent) : Action (Cabinet τ) Unit).Returns desk := by
  refine asks.bind (looks_isDescendantOrSelf setup _ depth parent id desk rfl) fun under after _ => ?_
  split
  · exact .throw _ after
  · refine (returns_folderNamed name _ after).andThen fun clash desk => ?_
    split
    · exact .throw _ desk
    · exact .pure () desk

/-- A copy under a name of its own is made to its end if it can be found out where it goes and the
children are copied to theirs. -/
theorem Ends.copyFolderAs {depth : Nat} {id : EntityId} {target : Option EntityId}
    {desired : EntityId} {post : Except RequestError Unit → Desk (Cabinet τ) → Prop}
    (asks : ∀ (between : Desk (Cabinet τ)) parent, between.world.store = desk.world.store →
      (isDescendantOrSelf setup.host depth parent id).Returns between)
    (missing : ∀ after extra, desk.Kept after extra → post (.ok ()) after)
    (failed : ∀ error after, desk.Failed setup.faults (Hindered desk.world.store) error after →
      post (.error error) after)
    (grows : ∀ between folder copy, desk.world.store.contents.listing? id = some folder →
      (∀ parent, (target <|> folder.parent) = some parent →
        ¬ desk.world.store.contents.Below parent id) →
      Creates desk.world.store copy (target <|> folder.parent) →
      between.world.store = desk.world.store.save
        (.folder ⟨copy, desired.name.text, target <|> folder.parent⟩) →
      (copyChildren setup.host (Action.copyFolder setup.host depth) folder copy).Ends between post) :
    (Action.copyFolderAs setup.host depth id target desired).Ends desk post := by
  unfold Action.copyFolderAs
  refine .lookFolder (.refl desk) failed (fun _ _ kept _ => .pure (missing _ _ kept))
    fun folder between extra kept listed => ?_
  refine Ends.bind ⟨?_, meets_place (fun parent => ¬ desk.world.store.contents.Below parent id ∧
    desk.world.store.contents.FreeFolderName desired.name.text parent none) kept
    fun parent destination between extra _ kept opened =>
      meets_checkPlace kept opened depth id desired.name.text none⟩ ?_ failed
  · cases (target <|> folder.parent) with
    | none => exact .pure () between
    | some parent =>
      refine Returns.bind (.call _ between) (looks_folder setup _ parent between rfl) ?_
      rintro opened after ⟨_, looked, _⟩
      cases opened with
      | none => exact .throw _ after
      | some destination =>
        exact returns_checkPlace parent destination depth id _ none
          (asks after parent (looked.store.trans kept.store))
  · rintro _ after ⟨fits, extra, kept⟩
    refine Ends.bind ⟨returns_createFolder _ _ _ _ after,
      meets_createFolder kept _ _ _ _ fun parent here => (fits parent here).2⟩ ?_ failed
    rintro copy between ⟨creates, changed⟩
    exact grows between folder copy listed (fun parent here => (fits parent here).1.1) creates
      changed.store_eq

/-- Copying a folder no more than doubles the levels. -/
theorem shallow_copyFolder {depth bound : Nat} (id target : EntityId)
    (shallow : desk.world.store.contents.Shallow bound) (enough : 3 * bound < depth) :
    (Action.copyFolder setup.host depth id target).Ends desk fun _ after =>
      after.world.store.contents.Shallow (2 * bound + 1) := by
  have low := shallow.level_le target
  have ends := sprouts_copyFolder setup depth target desk id bound shallow.forest (shallow.spans id)
    (by omega)
  refine ends.mono fun _ after sprouted => ?_
  exact sprouted.shallow (shallow.mono (by omega)) (by omega)

theorem shallow_copyFolderAs {depth bound : Nat} (id : EntityId) (target : Option EntityId)
    (desired : EntityId) (shallow : desk.world.store.contents.Shallow bound)
    (enough : 3 * bound < depth) :
    (Action.copyFolderAs setup.host depth id target desired).Ends desk fun _ after =>
      after.world.store.contents.Shallow (2 * bound + 1) := by
  have deeper : desk.world.store.contents.Shallow (2 * bound + 1) := shallow.mono (by omega)
  refine .copyFolderAs ?_ ?_ ?_ ?_
  · intro between parent store
    rw [← store] at shallow
    have low := shallow.level_le parent
    exact returns_isDescendantOrSelf_level depth parent id shallow.forest (by omega)
  · intro after extra kept
    exact kept.store ▸ deeper
  · rintro error after ⟨_, kept, _⟩
    exact kept.store ▸ deeper
  · intro between listing copy listed away creates store
    cases id_of_listing? listed
    -- The copy is one level below its place, or a top folder.
    have high : desk.world.store.contents.levelIn (target <|> listing.parent) ≤ bound + 1 := by
      cases (target <|> listing.parent) with
      | none => exact Nat.zero_le _
      | some parent => exact Nat.succ_le_succ (shallow.level_le parent)
    have ends := sprouted_copyInto ⟨copy, desired.name.text, target <|> listing.parent⟩
      (sprouts_copyFolder setup depth copy) shallow.forest listed (shallow.spans listing.id) creates.unused
      (fun parent here => ⟨creates.destination parent here, away parent here⟩)
      (congrArg MemoryStore.contents store) (by dsimp only; omega)
    refine ends.mono ?_
    rintro _ after ⟨sprouted, _⟩
    exact sprouted.shallow deeper (by dsimp only; omega)

end Action

namespace Request

open Filing.Action

variable {desk : Desk (Cabinet τ)}

/-- A path is copied to its end, whatever becomes of it. -/
theorem shallow_workOn {depth bound : Nat} (mode : Mode) (destination path : Path)
    (shallow : desk.world.store.contents.Shallow bound) (enough : 3 * bound < depth) :
    (workOn setup.host depth .copy mode destination path).Ends desk fun _ after =>
      after.world.store.contents.Shallow (2 * bound + 1) := by
  have deeper : desk.world.store.contents.Shallow (2 * bound + 1) := shallow.mono (by omega)
  obtain ⟨source, file⟩ := path
  unfold workOn
  split
  next operation => cases operation
  next operation => cases operation
  next =>
    cases file with
    | some file =>
      refine ⟨returns_copyFile file _ desk, (folder?_copyFile file _).mono ?_⟩
      exact fun _ _ same => deeper.congr same
    | none =>
      cases source with
      | none => exact .pure deeper
      | some folder => exact shallow_copyFolder folder _ shallow enough
  next operation => cases operation
  next =>
    cases file with
    | some file =>
      refine ⟨returns_copyFileAs file source _ _ desk, (folder?_copyFileAs file source _ _).mono ?_⟩
      exact fun _ _ same => deeper.congr same
    | none =>
      cases source with
      | none => exact .pure deeper
      | some folder => exact shallow_copyFolderAs folder _ _ shallow enough
  next => exact .pure deeper

/-- Every path may be a folder that is copied into one above it, so every one may double the levels. -/
theorem settles_copying {depth bound : Nat} (mode : Mode) (destination : Path) (paths : List Path)
    (shallow : desk.world.store.contents.Shallow bound)
    (enough : 3 * (2 ^ paths.length * (bound + 1)) ≤ depth) :
    Settles (workOff setup.host (workOn setup.host depth .copy mode destination) paths) desk Forest := by
  -- On the paths: with each of them the bound doubles, and there is one factor less to come.
  induction paths generalizing desk bound with
  | nil => exact .pure ⟨rfl, shallow.forest⟩
  | cons path later ih =>
    have split : 2 ^ (path :: later).length * (bound + 1) = 2 ^ later.length * (2 * bound + 1 + 1) := by
      rw [List.length_cons, pow_succ, Nat.mul_assoc]
      rfl
    have some : bound + 1 ≤ 2 ^ (path :: later).length * (bound + 1) :=
      Nat.le_mul_of_pos_left _ (Nat.two_pow_pos _)
    unfold workOff
    refine Ends.bind (.turn setup.job.isCancelled) ?_ (by rintro _ _ ⟨⟨_, ⟨⟩⟩, _⟩)
    rintro cancelled asked ⟨_, looked⟩
    rw [← looked.store] at shallow
    split
    · exact ⟨⟨_, rfl⟩, .modify ⟨rfl, shallow.forest⟩⟩
    · have worked : Settles (item setup.host.job (workOn setup.host depth .copy mode destination path))
          asked fun c => c.Shallow (2 * bound + 1) :=
        .item (shallow_workOn mode destination path shallow (by omega))
      exact worked.bind fun after shallow' => ih shallow' (split ▸ enough)

theorem settles_copyAll {depth bound : Nat} (mode : Mode) (request : Request)
    (shallow : desk.world.store.contents.Shallow bound)
    (enough : 3 * (2 ^ request.paths.length * (bound + 1)) ≤ depth) :
    Settles (workAll setup.host depth .copy mode request) desk Forest := by
  refine .inLevel fun pushed same => ?_
  rw [← same] at shallow
  exact settles_copying mode request.destination request.paths shallow enough

/-- A request ends from the depth on within which its work does. It ends in a report unless a call
fails at the very start. -/
theorem ends_of_works {enough : Nat} {operation : Operation} {request : Request} {cabinet : Cabinet τ}
    (works : ∀ between : Cabinet τ, between.store = cabinet.store →
      (workAll setup.host enough operation (request.modeIn cabinet.store.contents) request).Returns
        (request.desk operation (request.modeIn cabinet.store.contents) between)) :
    ∃ result after, (setup.Reliable → ∃ report, result = .ok report) ∧ ∀ depth, enough ≤ depth →
      request.classifyAndRun setup.host depth operation cabinet = some (result, after) := by
  obtain ⟨told, around, extra, went, _, _, ended⟩ :=
    peeks_classify setup cabinet.store request cabinet rfl
  -- The first depth that is enough settles it for all others.
  suffices first : ∃ result after, (setup.Reliable → ∃ report, result = .ok report) ∧
      request.classifyAndRun setup.host enough operation cabinet = some (result, after) by
    obtain ⟨result, after, reports, ran⟩ := first
    exact ⟨result, after, reports, fun depth deeper => classifyAndRun_deeper deeper ran⟩
  unfold classifyAndRun
  simp only [went]
  rcases ended with rfl | ⟨error, rfl, canFail, _⟩
  · obtain ⟨⟨result, desk⟩, worked⟩ := works ⟨cabinet.store, around, cabinet.log ++ extra⟩ rfl
    refine ⟨.ok desk.report, desk.world, fun _ => ⟨_, rfl⟩, ?_⟩
    simp only [run_eq, worked]
    rfl
  · exact ⟨_, _, fun reliable => absurd canFail reliable, rfl⟩

/-- A depth that is enough for the request. Moving needs less. -/
noncomputable def reach (request : Request) (c : Contents) : Nat :=
  3 * (2 ^ request.paths.length * (c.folders.ncard + 1))

theorem two_mul_ncard_lt_reach (request : Request) (c : Contents) :
    2 * c.folders.ncard < request.reach c := by
  have least : c.folders.ncard + 1 ≤ 2 ^ request.paths.length * (c.folders.ncard + 1) :=
    Nat.le_mul_of_pos_left _ (Nat.two_pow_pos _)
  unfold reach
  omega

/-- In well-formed contents, every move into a folder and every copy comes to an end, whatever is
permitted, answered or cancelled, whatever the names are and whichever calls fail. A depth that is
enough for it is known before it begins, and with any greater one it ends in just the same way. -/
theorem comes_to_an_end (setup : Setup τ) (request : Request) (cabinet : Cabinet τ)
    (wf : cabinet.store.contents.WellFormed) :
    (request.modeIn cabinet.store.contents = .bulk →
      ∃ result after, (setup.Reliable → ∃ report, result = .ok report) ∧
        ∀ depth, request.reach cabinet.store.contents ≤ depth →
          request.plan setup.host depth cabinet = some (result, after)) ∧
    ∃ result after, (setup.Reliable → ∃ report, result = .ok report) ∧
      ∀ depth, request.reach cabinet.store.contents ≤ depth →
        request.copy setup.host depth cabinet = some (result, after) := by
  constructor
  · intro bulk
    apply ends_of_works
    intro between store
    rw [bulk]
    have loopFree := wf.loopFree
    have enough := request.two_mul_ncard_lt_reach cabinet.store.contents
    rw [← store] at loopFree enough ⊢
    have settles : Settles (workAll setup.host (request.reach between.store.contents) .move .bulk
        request) (request.desk .move .bulk between) _ := settles_workAll request loopFree enough
    exact settles.1
  · apply ends_of_works
    intro between store
    have shallow := wf.shallow
    have enough : 3 * (2 ^ request.paths.length * (cabinet.store.contents.folders.ncard + 1)) ≤
        request.reach cabinet.store.contents := by rw [reach]
    rw [← store] at shallow enough ⊢
    have settles : Settles (workAll setup.host (request.reach between.store.contents) .copy
        (request.modeIn between.store.contents) request)
        (request.desk .copy (request.modeIn between.store.contents) between) Forest :=
      settles_copyAll _ request shallow enough
    exact settles.1

end Request

namespace Sample

def innermost : EntityId := ⟨drive, ⟨"innermost", by decide⟩⟩

/-- Three folders of the same name inside each other, and another one at the bottom. -/
def spiral : MemoryStore := .ofEntities
  [.folder ⟨docs, "docs", none⟩, .folder ⟨note, "note", some docs⟩, .folder ⟨inner, "note", some note⟩,
    .folder ⟨innermost, "note", some inner⟩, .folder ⟨memo, "memo", some innermost⟩]

/-- Takes the second of them to where the first one is. -/
def outward : Request := .taking inner (.ofFolder docs)

theorem spiral_wellFormed : spiral.contents.WellFormed := by
  have outer : WellFormed (Catalogue.empty.insert (.folder ⟨docs, "docs", none⟩)) :=
    WellFormed.empty.insert_folder (by simp)
  refine (((outer.insert_unused (by decide) ?_).insert_unused (by decide) ?_).insert_unused
    (by decide) ?_).insert_unused (by decide) ?_
  · rintro _ ⟨⟩
    exact ⟨⟨docs, "docs", none⟩, by decide⟩
  · rintro _ ⟨⟩
    exact ⟨⟨note, "note", some docs⟩, by decide⟩
  · rintro _ ⟨⟩
    exact ⟨⟨inner, "note", some note⟩, by decide⟩
  · rintro _ ⟨⟩
    exact ⟨⟨innermost, "note", some inner⟩, by decide⟩

end Sample

open Sample in
/-- The folder is merged into the one around it, and filled while its children are worked on. -/
theorem Request.comes_to_an_end_spiral :
    (∃ report after, (∀ depth, outward.reach spiral.contents ≤ depth →
        outward.plan Setup.quiet.host depth ⟨spiral, (), []⟩ = some (.ok report, after)) ∧
      report.tally.foldersMerged = 2 ∧ after.store.contents.Inside memo inner) ∧
    ∃ report after, (∀ depth, outward.reach spiral.contents ≤ depth →
        outward.copy Setup.quiet.host depth ⟨spiral, (), []⟩ = some (.ok report, after)) ∧
      report.tally.foldersMerged = 2 ∧ (after.store.contents.childFolders inner).length = 2 := by
  have moved : ((outward.plan Setup.quiet.host 9 ⟨spiral, (), []⟩).map fun outcome =>
      (outcome.1.toOption.map (·.tally.foldersMerged), outcome.2.store.contents.parentOf memo)) =
      some (some 2, some Sample.inner) := by decide +kernel
  have copied : ((outward.copy Setup.quiet.host 9 ⟨spiral, (), []⟩).map fun outcome =>
      (outcome.1.toOption.map (·.tally.foldersMerged),
        (outcome.2.store.contents.childFolders inner).length)) = some (some 2, 2) := by decide +kernel
  obtain ⟨plans, copies⟩ :=
    comes_to_an_end Setup.quiet outward ⟨spiral, (), []⟩ spiral_wellFormed
  constructor
  · obtain ⟨result, after, reports, ends⟩ := plans (by decide)
    obtain ⟨report, rfl⟩ := reports Setup.quiet_reliable
    obtain ⟨outcome, ran, found⟩ := Option.map_eq_some_iff.mp moved
    cases classifyAndRun_unique ran (ends _ le_rfl)
    simp only [Except.toOption, Option.map_some, Prod.mk.injEq, Option.some.injEq] at found
    exact ⟨report, after, ends, found⟩
  · obtain ⟨result, after, reports, ends⟩ := copies
    obtain ⟨report, rfl⟩ := reports Setup.quiet_reliable
    obtain ⟨outcome, ran, found⟩ := Option.map_eq_some_iff.mp copied
    cases classifyAndRun_unique ran (ends _ le_rfl)
    simp only [Except.toOption, Option.map_some, Prod.mk.injEq, Option.some.injEq] at found
    exact ⟨report, after, ends, found⟩

end Filing
