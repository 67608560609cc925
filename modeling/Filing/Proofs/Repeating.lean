import Filing.Proofs.Emptying
import Filing.Proofs.Finishing

/-!
# Making a request again

A path that has been worked on rests in the destination. It would not go on resting if a later path
got at what lies in it, or if it were taken out of the way of another folder with its name. Both need
a folder whose name is disputed and a path that leads into it (`Contents.Untangled`). Without that,
all paths rest in the end (`Request.resting_workOff`), and the same request once more changes nothing.

## Main results

* `MemoryStore.Resting.next`: moving one path leaves the paths at rest that were, and what was
  untangled before still is.
* `Request.plan_again`: a move into a folder, made again, leaves everything as it is.
-/
namespace Filing

open Contents

variable {τ : Type}

namespace Contents

/-- The folder lies in `target`, or one of the paths puts it there. -/
def Contends (c : Contents) (paths : List Path) (target id : EntityId) : Prop :=
  c.Inside id target ∨ Path.ofFolder id ∈ paths ∧ id ∈ c.folders ∧ ¬ c.Below target id

/-- Two folders with the same display name contend for a place in `target`. -/
structure Rivals (c : Contents) (paths : List Path) (target a b : EntityId) : Prop where
  differ : a ≠ b
  first : c.Contends paths target a
  second : c.Contends paths target b
  sameName : ∃ f g, c.folder? a = some f ∧ c.folder? b = some g ∧ f.name = g.name

/-- Of all that lies below a folder with a rival, the paths name that folder only. -/
def Untangled (c : Contents) (paths : List Path) (target : EntityId) : Prop :=
  ∀ a b, c.Rivals paths target a b → ∀ path ∈ paths, ∀ folder, path.folder = some folder →
    c.Below folder a → path = .ofFolder a

variable {c c' : Contents} {paths : List Path} {target a b y : EntityId}

theorem Contends.not_above (contends : c.Contends paths target a) (loopFree : c.LoopFree) :
    ¬ c.Below target a := by
  rcases contends with inside | ⟨_, _, away⟩
  · exact loopFree.not_below_of_inside inside
  · exact away

theorem Rivals.symm (rivals : c.Rivals paths target a b) : c.Rivals paths target b a := by
  obtain ⟨f, g, foundA, foundB, same⟩ := rivals.sameName
  exact ⟨rivals.differ.symm, rivals.second, rivals.first, g, f, foundB, foundA, same.symm⟩

/-- A folder that is to go where its name is taken has a rival there. -/
theorem Rivals.of_clash {folder : Folder} {existing : EntityId} (stored : c.folder? a = some folder)
    (named : Path.ofFolder a ∈ paths) (away : ¬ c.Below target a)
    (clash : FolderClash c folder.name existing target (some a)) :
    c.Rivals paths target a existing := by
  obtain ⟨f, found, _, same⟩ := clash.stored
  exact ⟨clash.ne.symm, .inr ⟨named, ⟨folder, stored⟩, away⟩, .inl clash.child.inside, folder, f,
    stored, found, same.symm⟩

namespace Untangled

theorem eq_of_below (untangled : c.Untangled paths target) (rivals : c.Rivals paths target a b)
    (named : Path.ofFolder y ∈ paths) (below : c.Below y a) : y = a := by
  have same := untangled a b rivals _ named y rfl below
  simpa [Path.ofFolder] using same

theorem not_below {file : EntityId} (untangled : c.Untangled paths target)
    (rivals : c.Rivals paths target a b) (named : ⟨some y, some file⟩ ∈ paths) : ¬ c.Below y a :=
  fun below => by
    have same := untangled a b rivals _ named y rfl below
    simp [Path.ofFolder] at same

/-- A folder of the request does not lie above the one that has its name in the target. -/
theorem not_under {folder : Folder} {existing : EntityId} (untangled : c.Untangled paths target)
    (loopFree : c.LoopFree) (named : Path.ofFolder a ∈ paths) (stored : c.folder? a = some folder)
    (clash : FolderClash c folder.name existing target (some a)) : ¬ c.Below a existing := by
  intro below
  by_cases above : c.Below target a
  · exact loopFree.not_below_of_inside clash.child.inside (above.trans below)
  · have rivals := Rivals.of_clash stored named above clash
    exact clash.ne (untangled.eq_of_below rivals.symm named below).symm

/-- What matters is which folders contend, what they are called and what is named below them. -/
theorem congr (untangled : c.Untangled paths target)
    (contends : ∀ {a}, c'.Contends paths target a → c.Contends paths target a)
    (known : ∀ {a folder}, c'.folder? a = some folder →
      ∃ before, c.folder? a = some before ∧ before.name = folder.name)
    (below : ∀ {a b}, c.Rivals paths target a b → a ∈ c'.folders → ∀ path ∈ paths, ∀ folder,
      path.folder = some folder → c'.Below folder a → c.Below folder a ∨ path = .ofFolder a) :
    c'.Untangled paths target := by
  intro a b rivals path member folder named under
  obtain ⟨f, g, foundA, foundB, same⟩ := rivals.sameName
  obtain ⟨f', foundA', sameA⟩ := known foundA
  obtain ⟨g', foundB', sameB⟩ := known foundB
  have before : c.Rivals paths target a b := ⟨rivals.differ, contends rivals.first,
    contends rivals.second, f', g', foundA', foundB', sameA.trans (same.trans sameB.symm)⟩
  rcases below before ⟨f, foundA⟩ path member folder named under with under | same
  · exact untangled a b before path member folder named under
  · exact same

end Untangled

end Contents

namespace MemoryStore

variable {s s' : MemoryStore} {paths : List Path} {target id : EntityId} {path : Path}

/-- The item at the path rests. -/
def PathRests (s : MemoryStore) (target : EntityId) : Path → Prop
  | { leaf := some file, folder } => s.FileRests file folder target
  | { leaf := none, folder := some folder } => s.Rests folder target
  | { leaf := none, folder := none } => True

/-- What comes of moving the item at the path where nobody is asked. -/
def PathMoves (s : MemoryStore) (target : EntityId) (path : Path) (s' : MemoryStore) : Prop :=
  match path with
  | { leaf := some file, folder } => s.Shelves file folder target s'
  | { leaf := none, folder := some folder } => s.Disposes folder target s'
  | { leaf := none, folder := none } => s' = s

/-! ## One path is moved -/

/-- A folder of the request went to `target`. At most the folder itself and `target` were touched or,
if the folder has a rival there, what lies below the two rivals. -/
structure Touches (s s' : MemoryStore) (paths : List Path) (target : EntityId) (folder : Folder)
    (loose filled : Set EntityId) : Prop where
  named : Path.ofFolder folder.id ∈ paths
  reparents : Reparents s folder target
  shifts : s.Shifts s' loose filled
  loose : ∀ z ∈ loose, z = folder.id ∨ s.contents.Below z folder.id ∧
    ∃ existing, s.contents.Rivals paths target folder.id existing
  filled : ∀ z ∈ filled, z = target ∨ ∃ existing,
    s.contents.Rivals paths target folder.id existing ∧ s.contents.Inside existing target ∧
      (s.contents.Below z folder.id ∨ s.contents.Below z existing)

theorem Disposes.touches (disposes : s.Disposes id target s') (named : Path.ofFolder id ∈ paths) :
    s' = s ∨ ∃ folder loose filled, folder.id = id ∧ s.Touches s' paths target folder loose filled := by
  cases disposes with
  | stays _ => exact .inl rfl
  | moved sameId reparents _ =>
    subst sameId
    exact .inr ⟨_, _, _, rfl, named, reparents, .reparent reparents.stored, fun _ => .inl,
      fun _ => .inl⟩
  | merged sameId reparents clash _ shifts _ _ =>
    subst sameId
    have rivals := Rivals.of_clash reparents.stored named reparents.away clash
    exact .inr ⟨_, _, _, rfl, named, reparents, shifts, fun _ below => .inr ⟨below, _, rivals⟩,
      fun _ member => .inr ⟨_, rivals, clash.child.inside, member⟩⟩

namespace Touches

variable {folder : Folder} {loose filled : Set EntityId}
  (touches : s.Touches s' paths target folder loose filled)
include touches

theorem under {z : EntityId} (member : z ∈ loose) : s.contents.Below z folder.id := by
  rcases touches.loose z member with rfl | ⟨below, _⟩
  · exact below_refl _ _
  · exact below

/-- What lies above the target stays. -/
theorem above {z : EntityId} (above : s.contents.Below target z) : z ∉ loose :=
  fun member => touches.reparents.away (above.trans (touches.under member))

theorem not_inside : ¬ s.contents.Inside folder.id target := by
  rw [Inside, parentOf_of_folder? touches.reparents.stored]
  exact touches.reparents.changes

/-- Something in the target was touched at most if it is the folder itself. -/
theorem not_loose_of_inside {z : EntityId} (inside : s.contents.Inside z target) : z ∉ loose := by
  intro member
  by_cases here : z = folder.id
  · exact touches.not_inside (here ▸ inside)
  · exact touches.reparents.away ((touches.under member).parent_of_ne here inside)

variable (untangled : s.contents.Untangled paths target)
include untangled

/-- Another folder of the request is out of reach if it has a rival. -/
theorem spared {other there : EntityId} (differs : other ≠ folder.id)
    (named : Path.ofFolder other ∈ paths) (rivals : s.contents.Rivals paths target other there)
    (inside : s.contents.Inside there target) (outside : ¬ s.contents.Inside other target)
    (away : ¬ s.contents.Below target other) :
    (∀ z, s.contents.Below z other → z ∉ loose ∧ z ∉ filled) ∧
      ∀ z, s.contents.Below z there → z ∉ loose := by
  have notUnder : ¬ s.contents.Below folder.id other :=
    fun below => differs (untangled.eq_of_below rivals touches.named below).symm
  -- Of two folders above one and the same, one lies above the other.
  have notBeside {z existing : EntityId} (rivals' : s.contents.Rivals paths target folder.id existing)
      (below : s.contents.Below z other) : ¬ s.contents.Below z folder.id := fun below' => by
    rcases below.comparable below' with up | up
    · exact differs (untangled.eq_of_below rivals' named up)
    · exact notUnder up
  refine ⟨fun z below => ⟨fun member => ?_, fun member => ?_⟩, fun z below member => ?_⟩
  · rcases touches.loose z member with rfl | ⟨below', _, rivals'⟩
    · exact notUnder below
    · exact notBeside rivals' below below'
  · rcases touches.filled z member with rfl | ⟨existing, rivals', inside', below' | below'⟩
    · exact away below
    · exact notBeside rivals' below below'
    · rcases below.comparable below' with up | up
      · have same := untangled.eq_of_below rivals'.symm named up
        exact outside (same ▸ inside')
      · by_cases same : existing = other
        · exact outside (same ▸ inside')
        · exact away (up.parent_of_ne same inside')
  · rcases below.comparable (touches.under member) with up | up
    · by_cases same : there = folder.id
      · exact touches.not_inside (same ▸ inside)
      · exact touches.reparents.away (up.parent_of_ne same inside)
    · have same := untangled.eq_of_below rivals.symm touches.named up
      exact touches.not_inside (same ▸ inside)

theorem rests {other : EntityId} (differs : other ≠ folder.id) (named : Path.ofFolder other ∈ paths)
    (rests : s.Rests other target) : s'.Rests other target := by
  refine rests.shift touches.shifts ?_ ?_ ?_
  · exact fun inside => (touches.shifts.inside_iff (touches.not_loose_of_inside inside)).mpr inside
  · exact (touches.shifts.below_iff fun z member above => touches.above above member).mpr
  · intro f existing stored clash outside away
    exact touches.spared untangled differs named (.of_clash stored named away clash)
      clash.child.inside outside away

theorem fileRests {file : EntityId} {source : Option EntityId} (named : ⟨source, some file⟩ ∈ paths)
    (rests : s.FileRests file source target) : s'.FileRests file source target := by
  refine rests.shift touches.shifts (touches.above (below_refl _ _)) ?_
  rintro p rfl differs member
  rcases touches.filled p member with rfl | ⟨existing, rivals, _, below | below⟩
  · exact differs rfl
  · exact untangled.not_below rivals named below
  · exact untangled.not_below rivals.symm named below

omit untangled in
/-- What contends afterwards did so before, as far as it is not newly in the target. -/
theorem contends {a : EntityId} (contends : s'.contents.Contends paths target a)
    (inside : s'.contents.Inside a target → s.contents.Contends paths target a) :
    s.contents.Contends paths target a := by
  rcases contends with arrived | ⟨named, ⟨_, stored⟩, away⟩
  · exact inside arrived
  · obtain ⟨before, found, _⟩ := touches.shifts.known stored
    refine .inr ⟨named, ⟨before, found⟩, fun below => away ?_⟩
    exact (touches.shifts.below_iff fun z member above => touches.above above member).mpr below

end Touches

/-- A folder that is put into the target has no more in it than before. -/
theorem untangled_of_moved {folder : Folder} (untangled : s.contents.Untangled paths target)
    (loopFree : s.contents.LoopFree) (named : Path.ofFolder folder.id ∈ paths)
    (reparents : Reparents s folder target) :
    (s.save (.folder { folder with parent := some target })).contents.Untangled paths target := by
  have touches : s.Touches _ paths target folder {folder.id} {target} :=
    ⟨named, reparents, .reparent reparents.stored, fun _ => .inl, fun _ => .inl⟩
  refine untangled.congr ?_ touches.shifts.known ?_
  · intro a contends
    refine touches.contends contends fun inside => ?_
    by_cases here : a = folder.id
    · subst here
      exact .inr ⟨named, ⟨folder, reparents.stored⟩, reparents.away⟩
    · exact .inl ((touches.shifts.inside_iff here).mp inside)
  · intro a b rivals _ path _ y _ below
    refine .inl ?_
    rcases touches.shifts.below_or_through below with below | ⟨z, rfl, below, rest⟩
    · exact below
    by_cases here : folder.id = a
    · exact here ▸ below
    -- Otherwise the way up would lead through the target, and nothing that contends lies above that.
    · have arrived : (s.save (.folder { folder with parent := some target })).contents.Inside folder.id
          target := by simp [save, Inside]
      have up := rest.parent_of_ne here arrived
      rw [touches.shifts.below_iff fun z member above => touches.above above member] at up
      exact absurd up (rivals.first.not_above loopFree)

/-- What is left of a merged folder is in its place. -/
theorem untangled_of_merged {folder : Folder} {existing : EntityId}
    (untangled : s.contents.Untangled paths target) (loopFree : s.contents.LoopFree)
    (named : Path.ofFolder folder.id ∈ paths) (reparents : Reparents s folder target)
    (clash : FolderClash s.contents folder.name existing target (some folder.id))
    (shifts : s.Shifts s' (s.contents.realm folder.id)
      (s.contents.realm folder.id ∪ s.contents.realm existing))
    (gone : s'.contents.folder? folder.id = none ∨
      s'.contents.folder? folder.id = s.contents.folder? folder.id) :
    s'.contents.Untangled paths target := by
  have rivals := Rivals.of_clash reparents.stored named reparents.away clash
  have touches : s.Touches s' paths target folder _ _ :=
    ⟨named, reparents, shifts, fun _ below => .inr ⟨below, _, rivals⟩,
      fun _ member => .inr ⟨_, rivals, clash.child.inside, member⟩⟩
  refine untangled.congr ?_ shifts.known ?_
  · intro a contends
    refine touches.contends contends fun inside => .inl ((shifts.inside inside).resolve_right ?_)
    rintro (below | below)
    · exact reparents.away below
    · exact loopFree.not_below_of_inside clash.child.inside below
  · intro a b rivals' stored path member y named' below
    rcases shifts.below_or_through below with below | ⟨z, under, below, _⟩
    · exact .inl below
    -- The path leads into the merged folder, so it is the path of that folder.
    have same := untangled _ _ rivals path member y named' (below.trans under)
    subst same
    cases named'
    by_cases here : folder.id = a
    · exact .inr (here ▸ rfl)
    rcases below_iff.mp ‹s'.contents.Below folder.id a› with same | ⟨up, inside, rest⟩
    · exact absurd same here
    · have unchanged : s'.contents.folder? folder.id = s.contents.folder? folder.id := by
        refine gone.resolve_left fun missing => ?_
        simp [Inside, Contents.parentOf, missing] at inside
      have before : s.contents.Inside folder.id up := by
        rwa [Inside, Contents.parentOf, unchanged] at inside
      rw [shifts.below_iff fun z below above =>
        loopFree.not_below_of_inside before (above.trans below)] at rest
      exact .inl (before.trans_below rest)

/-- A file that is listed elsewhere is in nobody's way up. -/
theorem untangled_of_relists {file : File} {source : Option EntityId}
    (untangled : s.contents.Untangled paths target) (relists : Relists s file source target) :
    (s.save (.file (file.reparent source target).1)).contents.Untangled paths target := by
  have stored := relists.stored
  have below := below_relist stored source target
  have folders := folder?_relist stored source target
  refine untangled.congr ?_ (fun found => ⟨_, (folders _).symm.trans found, rfl⟩)
    fun _ _ _ _ _ _ under => .inl ((below _ _).mp under)
  intro a contends
  simpa [Contends, Inside, parentOf_relist stored, Contents.folders, folders, below] using contends

/-! ## The paths that have been worked on -/

/-- The paths in `done` rest, and what is to come does not change that. -/
structure Resting (s : MemoryStore) (paths : List Path) (target : EntityId) (done : List Path) :
    Prop where
  tidy : s.contents.Tidy
  stored : target ∈ s.contents.folders
  untangled : s.contents.Untangled paths target
  rests : ∀ path ∈ done, s.PathRests target path

section

variable (untangled : s.contents.Untangled paths target) {other : Path} (there : other ∈ paths)
  (rests : s.PathRests target other)
include untangled there rests

theorem rests_of_disposes (named : Path.ofFolder id ∈ paths) (disposes : s.Disposes id target s') :
    s'.PathRests target other := by
  rcases disposes.touches named with rfl | ⟨folder, loose, filled, rfl, touches⟩
  · exact rests
  obtain ⟨source, file⟩ := other
  cases file with
  | some file => exact touches.fileRests untangled there rests
  | none =>
    cases source with
    | none => trivial
    | some y =>
      by_cases here : y = folder.id
      · exact here ▸ disposes.rests
      · exact touches.rests untangled here there rests

theorem rests_of_relists {file : File} {source : Option EntityId}
    (named : ⟨source, some file.id⟩ ∈ paths) (elsewhere : source ≠ some target)
    (relists : Relists s file source target) :
    (s.save (.file (file.reparent source target).1)).PathRests target other := by
  have shifts : s.Shifts (s.save (.file (file.reparent source target).1)) _ _ :=
    .relist relists.stored
  obtain ⟨folder, leaf⟩ := other
  cases leaf with
  | some leaf =>
    refine FileRests.shift rests shifts elsewhere ?_
    rintro p _ differs rfl
    exact differs rfl
  | none =>
    cases folder with
    | none => trivial
    | some y =>
      refine Rests.shift rests shifts ?_ ?_ ?_
      · exact (parentOf_relist relists.stored source target y).trans
      · exact (below_relist relists.stored source target _ _).mpr
      · intro f existing stored clash _ away
        have rivals := Rivals.of_clash stored there away clash
        -- The file is taken out of a folder that no path leads to from below a rival.
        refine ⟨fun z below => ⟨?_, ?_⟩, ?_⟩
        · rintro rfl
          exact untangled.not_below rivals named below
        · rintro rfl
          exact away below
        · rintro z below rfl
          exact untangled.not_below rivals.symm named below

end

/-- One path more rests if the others go on doing so. -/
theorem Resting.add {done : List Path} (resting : s.Resting paths target done)
    (within : ∀ path ∈ done, path ∈ paths) (tidy : s'.contents.Tidy)
    (stored : target ∈ s'.contents.folders) (untangled : s'.contents.Untangled paths target)
    (goOn : ∀ other ∈ paths, s.PathRests target other → s'.PathRests target other)
    (rests : s'.PathRests target path) : s'.Resting paths target (done ++ [path]) where
  tidy := tidy
  stored := stored
  untangled := untangled
  rests := List.forall_mem_append.mpr
    ⟨fun other early => goOn other (within other early) (resting.rests other early),
      List.forall_mem_singleton.mpr rests⟩

section

variable {done : List Path} (resting : s.Resting paths target done)
  (within : ∀ path ∈ done, path ∈ paths)
include resting within

/-- Nothing was done, as the item at the path rested already. -/
theorem Resting.next_stays (rests : s.PathRests target path) :
    s.Resting paths target (done ++ [path]) :=
  resting.add within resting.tidy resting.stored resting.untangled (fun _ _ rests => rests) rests

theorem Resting.next_folder (named : Path.ofFolder id ∈ paths) (disposes : s.Disposes id target s') :
    s'.Resting paths target (done ++ [.ofFolder id]) := by
  have loopFree := resting.tidy.wellFormed.loopFree
  have untangled := resting.untangled
  refine resting.add within (disposes.tidy resting.tidy) ?_ ?_ ?_ disposes.rests
  · rcases disposes.touches named with rfl | ⟨folder, loose, filled, _, touches⟩
    · exact resting.stored
    · have same := touches.shifts.folders target (touches.above (below_refl _ _))
      simpa [Contents.folders, same] using resting.stored
  · cases disposes with
    | stays _ => exact untangled
    | moved sameId reparents _ =>
      subst sameId
      exact untangled_of_moved untangled loopFree named reparents
    | merged sameId reparents clash _ shifts gone _ =>
      subst sameId
      exact untangled_of_merged untangled loopFree named reparents clash shifts gone
  · exact fun other there rests => rests_of_disposes untangled there rests named disposes

theorem Resting.next_file {file : EntityId} {source : Option EntityId}
    (named : ⟨source, some file⟩ ∈ paths) (shelves : s.Shelves file source target s') :
    s'.Resting paths target (done ++ [⟨source, some file⟩]) := by
  cases shelves with
  | rests rests => exact resting.next_stays within rests
  | relisted sameId elsewhere relists free =>
    subst sameId
    have stored := relists.stored
    refine resting.add within (tidy_relist resting.tidy relists free) ?_ ?_ ?_ ?_
    · simpa [Contents.folders, folder?_relist stored] using resting.stored
    · exact untangled_of_relists resting.untangled relists
    · exact fun other there rests =>
        rests_of_relists resting.untangled there rests named elsewhere relists
    · exact FileRests.relisted relists elsewhere

theorem Resting.next (named : path ∈ paths) (moves : s.PathMoves target path s') :
    s'.Resting paths target (done ++ [path]) := by
  obtain ⟨source, file⟩ := path
  cases file with
  | some file => exact resting.next_file within named moves
  | none =>
    cases source with
    | some folder => exact resting.next_folder within named moves
    | none =>
      cases (moves : s' = s)
      exact resting.next_stays within trivial

end

end MemoryStore

namespace Action

variable {setup : Setup τ} {desk : Desk (Cabinet τ)} {paths : List Path} {target : EntityId}
  {path : Path}

theorem pathMoves_movePath (reliable : setup.Reliable) (depth : Nat)
    (quiet : desk.interactive = false) (tidy : desk.world.store.contents.Tidy)
    (untangled : desk.world.store.contents.Untangled paths target) (named : path ∈ paths) :
    (movePath setup.host depth target path).Meets desk fun _ after => after.interactive = false ∧
      desk.world.store.PathMoves target path after.world.store := by
  obtain ⟨source, file⟩ := path
  cases file with
  | some file => exact meets_moveFile_quiet reliable quiet file source target
  | none =>
    cases source with
    | none => exact .pure ⟨quiet, rfl⟩
    | some folder =>
      refine disposes_moveFolder reliable depth desk folder target quiet tidy ?_
      exact fun _ _ stored clash => untangled.not_under tidy.wellFormed.loopFree named stored clash

theorem keeps_movePath (reliable : setup.Reliable) {s : MemoryStore}
    (distinct : s.contents.DistinctNames) (depth : Nat) (rests : s.PathRests target path) :
    Links (Desk.Keeps s) (movePath setup.host depth target path) := by
  obtain ⟨source, file⟩ := path
  cases file with
  | some file => exact keeps_moveFile reliable rests
  | none =>
    cases source with
    | none => exact .pure (Desk.chain_keeps setup s).toLink ()
    | some folder => exact keeps_moveFolder reliable distinct depth rests

end Action

namespace Request

open Filing.Action

variable {setup : Setup τ} {desk : Desk (Cabinet τ)} {request : Request} {target : EntityId}

/-- Nothing in a folder that has a rival is named by the request. -/
def Untangled (request : Request) (c : Contents) : Prop :=
  ∀ target, request.destination.folder = some target → c.Untangled request.paths target

theorem destination_of_bulk {c : Contents} (bulk : request.modeIn c = .bulk) :
    ∃ target, request.destination = .ofFolder target ∧ target ∈ c.folders := by
  obtain ⟨paths, ⟨folder, leaf⟩, interactive⟩ := request
  unfold modeIn at bulk
  split at bulk
  next target here =>
    cases here
    split at bulk
    next stored => exact ⟨target, rfl, Option.isSome_iff_exists.mp stored⟩
    next => cases bulk
  next => split at bulk <;> cases bulk
  next => cases bulk

theorem bulk_of_destination {c : Contents} (destination : request.destination = .ofFolder target)
    (stored : target ∈ c.folders) : request.modeIn c = .bulk := by
  obtain ⟨folder, found⟩ := stored
  simp [modeIn, destination, Path.ofFolder, found]

/-- Unless the job is cancelled, all paths rest in the end. -/
theorem resting_workOff (reliable : setup.Reliable) (depth : Nat) {paths : List Path}
    (done later : List Path) (split : paths = done ++ later) (quiet : desk.interactive = false)
    (resting : desk.world.store.Resting paths target done) :
    (workOff setup.host (workOn setup.host depth .move .bulk (.ofFolder target)) later).Meets desk
      fun _ after => after.report.cancelled = false →
        after.world.store.Resting paths target paths := by
  induction later generalizing done desk with
  | nil =>
    refine .pure fun _ => ?_
    rw [List.append_nil] at split
    exact split ▸ resting
  | cons path later ih =>
    have named : path ∈ paths := by simp [split]
    unfold workOff
    refine (meets_turn setup.job.isCancelled).bind ?_ (by rintro _ _ ⟨⟨_, ⟨⟩⟩, _⟩)
    rintro cancelled asked ⟨_, looked⟩
    rw [← looked.store] at resting
    have quiet := looked.interactive.trans quiet
    split
    · exact .modify fun whole => absurd whole (by simp)
    -- This path rests from now on, and those before it still do.
    · have worked : Quietly (item setup.host.job
          (workOn setup.host depth .move .bulk (.ofFolder target) path)) asked
          fun s => s.Resting paths target (done ++ [path]) := by
        refine .item ?_
        refine (pathMoves_movePath reliable depth quiet resting.tidy resting.untangled named).mono ?_
        rintro _ after ⟨quiet, moves⟩
        refine ⟨quiet, resting.next (fun other member => ?_) named moves⟩
        simp [split, member]
      refine Meets.bind worked ?_ (by rintro _ _ ⟨⟨⟩, _⟩)
      rintro _ after ⟨_, quiet, resting⟩
      exact ih (done ++ [path]) (by simp [split]) quiet resting

theorem resting_workAll (reliable : setup.Reliable) (depth : Nat)
    (destination : request.destination = .ofFolder target) (quiet : desk.interactive = false)
    (tidy : desk.world.store.contents.Tidy) (stored : target ∈ desk.world.store.contents.folders)
    (untangled : desk.world.store.contents.Untangled request.paths target) :
    (workAll setup.host depth .move .bulk request).Meets desk fun _ after =>
      after.report.cancelled = false →
        after.world.store.Resting request.paths target request.paths := by
  unfold workAll inLevel
  rw [destination]
  refine (meets_turn (setup.job.push _)).bind ?_ (by rintro _ _ ⟨⟨_, ⟨⟩⟩, _⟩)
  rintro _ pushed ⟨_, looked⟩
  rw [← looked.store] at tidy stored untangled
  have worked := resting_workOff reliable depth [] request.paths rfl (looked.interactive.trans quiet)
    ⟨tidy, stored, untangled, by simp⟩
  refine worked.bind (fun _ between resting => ?_) fun _ _ resting => resting
  refine (meets_turn setup.job.pop).mono ?_
  rintro _ after ⟨_, looked⟩
  rw [looked.report, looked.store]
  exact resting

theorem keeps_workAll (reliable : setup.Reliable) (depth : Nat) {s : MemoryStore}
    (destination : request.destination = .ofFolder target)
    (resting : s.Resting request.paths target request.paths) :
    Links (Desk.Keeps s) (workAll setup.host depth .move .bulk request) := by
  have job := (Desk.chain_keeps setup s).toJobLink
  unfold workAll
  rw [destination]
  exact .inLevel job (.workOff job fun path member =>
    keeps_movePath reliable resting.tidy.distinct depth (resting.rests path member))

/-- A move into a folder where nobody is asked and nothing is left out, made again, leaves everything
that is stored as it is, unless some folder has a rival and something else in it is named. It comes
to an end again. -/
theorem plan_again (reliable : setup.Reliable) {request : Request} {cabinet : Cabinet τ}
    (quiet : request.interactive = false) (bulk : request.modeIn cabinet.store.contents = .bulk)
    (tidy : cabinet.store.contents.Tidy) (untangled : request.Untangled cabinet.store.contents) :
    (∀ depth report after, request.plan setup.host depth cabinet = some (.ok report, after) →
      report.cancelled = false → ∀ again : Cabinet τ, again.store = after.store →
        (∀ depth result later, request.plan setup.host depth again = some (result, later) →
          later.store = after.store) ∧
        ∀ depth, 2 * after.store.contents.folders.ncard < depth → ∃ report later,
          request.plan setup.host depth again = some (.ok report, later) ∧
          later.store = after.store) ∧
    ∀ depth, 2 * cabinet.store.contents.folders.ncard < depth →
      ∃ report after, request.plan setup.host depth cabinet = some (.ok report, after) := by
  refine ⟨?_, fun _ enough => plan_returns reliable bulk tidy.wellFormed.loopFree enough⟩
  intro depth report after ran whole again same
  obtain ⟨target, destination, stored⟩ := destination_of_bulk bulk
  -- After the first time, everything rests.
  have resting : after.store.Resting request.paths target request.paths := by
    obtain ⟨between, _, desk, sameStore, worked, reported, rfl⟩ := work_of_reliable reliable ran
    cases reported
    rw [bulk] at worked
    have untangled := untangled target (by rw [destination]; rfl)
    rw [← sameStore] at tidy stored untangled
    have begun : (request.desk .move .bulk between).interactive = false := quiet
    exact resting_workAll reliable depth destination begun tidy stored untangled _ _ worked whole
  have bulk' : request.modeIn again.store.contents = .bulk :=
    bulk_of_destination destination (same ▸ resting.stored)
  -- So nothing is left to do, whatever becomes of the second time.
  have stays (depth : Nat) (result : Except RequestError Report) (later : Cabinet τ)
      (ran : request.plan setup.host depth again = some (result, later)) :
      later.store = after.store := by
    obtain ⟨between, _, desk, sameStore, worked, _, rfl⟩ := work_of_reliable reliable ran
    rw [bulk'] at worked
    have holds : (request.desk .move .bulk between).Holds after.store :=
      ⟨quiet, sameStore.trans same⟩
    exact (keeps_workAll reliable depth destination resting _ _ _ worked holds).store
  refine ⟨stays, fun depth enough => ?_⟩
  have loopFree := resting.tidy.wellFormed.loopFree
  rw [← same] at loopFree enough
  obtain ⟨report, later, ran⟩ := plan_returns reliable bulk' loopFree enough
  exact ⟨report, later, ran, stays depth _ later ran⟩

end Request

namespace Sample

/-- A folder that has to stay and one of its name that what is in it goes to. -/
def held : MemoryStore := { nest with deleteDenied := .ofList [note] }

theorem held_untangled : (Request.taking note (.ofFolder docs)).Untangled held.contents := by
  rintro _ ⟨⟩ a b _ path member folder named below
  cases List.mem_singleton.mp member
  cases named
  have noteStored : held.contents.folder? note = some ⟨note, "note", none⟩ := by decide
  exact congrArg Path.ofFolder (eq_of_below_top noteStored rfl below)

theorem spiral_tidy : spiral.contents.Tidy := by
  have empty : DistinctNames (Catalogue.empty : Contents) := by
    constructor
    · rintro _ _ _ _ _ ⟨⟩
    · rintro _ _ _ _ _ ⟨⟩
  have childless {c : Contents} {parent : EntityId} (none : c.childFolders parent = []) (name : String)
      (except : Option EntityId) : c.FreeFolderName name parent except := by
    intro id folder stored inside
    have member : id ∈ c.childFolders parent := mem_childFolders.mpr ⟨folder, stored, inside⟩
    simp [none] at member
  -- Each of them is the first child of the one before.
  refine ⟨spiral_wellFormed, ((((empty.insert_folder (by simp)).insert_folder ?_).insert_folder
    ?_).insert_folder ?_).insert_folder ?_⟩
  all_goals
    rintro _ ⟨⟩
    exact childless (by decide) _ _

end Sample

open Sample in
theorem Request.plan_again_held : ∃ report after result later,
    plan Setup.quiet.host 9 (taking note (.ofFolder docs)) ⟨held, (), []⟩ = some (.ok report, after) ∧
    report.cancelled = false ∧ after.store.contents.childFiles Sample.inner = [memo] ∧
    after.store.contents.Vacant note ∧
    plan Setup.quiet.host 9 (taking note (.ofFolder docs)) after = some (result, later) ∧
    later.store = after.store := by
  have went : ((plan Setup.quiet.host 9 (taking note (.ofFolder docs)) ⟨held, (), []⟩).bind fun first =>
      (plan Setup.quiet.host 9 (taking note (.ofFolder docs)) first.2).map fun _ =>
        (first.1.toOption.map (·.cancelled), first.2.store.contents.childFiles Sample.inner,
          first.2.store.contents.childFiles note, first.2.store.contents.childFolders note)) =
      some (some false, [memo], [], []) := by decide +kernel
  obtain ⟨⟨first, after⟩, ran, went⟩ := Option.bind_eq_some_iff.mp went
  obtain ⟨⟨result, later⟩, ran', found⟩ := Option.map_eq_some_iff.mp went
  simp only [Prod.mk.injEq] at found
  obtain ⟨whole, moved, noFiles, noFolders⟩ := found
  cases first with
  | error _ => cases whole
  | ok report =>
    have whole := Option.some.inj whole
    have vacant : after.store.contents.Vacant note := by
      refine ⟨fun x inside => ?_, fun {x file} stored listed => ?_⟩
      · simpa [noFolders] using mem_childFolders_iff_inside.mpr inside
      · simpa [noFiles] using mem_childFiles.mpr ⟨file, stored, listed⟩
    refine ⟨report, after, result, later, ran, whole, moved, vacant, ran', ?_⟩
    exact ((plan_again Setup.quiet_reliable rfl (by decide) nest_tidy held_untangled).1 9 report after ran
      whole after rfl).1 9 result later ran'

open Sample in
/-- What the first time leaves behind is merged further the second time. -/
theorem Request.not_plan_again_spiral : spiral.contents.Tidy ∧ outward.interactive = false ∧
    outward.modeIn spiral.contents = .bulk ∧ ∃ report after result later,
    outward.plan Setup.quiet.host 9 ⟨spiral, (), []⟩ = some (.ok report, after) ∧
    report.cancelled = false ∧ outward.plan Setup.quiet.host 9 after = some (result, later) ∧
    later.store.contents ≠ after.store.contents := by
  refine ⟨spiral_tidy, rfl, by decide, ?_⟩
  have went : ((outward.plan Setup.quiet.host 9 ⟨spiral, (), []⟩).bind fun first =>
      (outward.plan Setup.quiet.host 9 first.2).map fun second =>
        (first.1.toOption.map (·.cancelled), first.2.store.contents.parentOf memo,
          second.2.store.contents.parentOf memo)) =
      some (some false, some Sample.inner, some note) := by decide +kernel
  obtain ⟨⟨first, after⟩, ran, went⟩ := Option.bind_eq_some_iff.mp went
  obtain ⟨⟨result, later⟩, ran', found⟩ := Option.map_eq_some_iff.mp went
  simp only [Prod.mk.injEq] at found
  obtain ⟨whole, memoFirst, memoSecond⟩ := found
  cases first with
  | error _ => cases whole
  | ok report =>
    refine ⟨report, after, result, later, ran, Option.some.inj whole, ran', fun same => ?_⟩
    rw [same, memoFirst] at memoSecond
    exact absurd memoSecond (by decide)

end Filing
