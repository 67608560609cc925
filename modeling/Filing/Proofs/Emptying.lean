import Filing.Proofs.Resting
import Filing.Proofs.Returning

/-!
# A folder rests once it was moved

While a folder is being emptied into another one (`MemoryStore.Emptying`, then
`MemoryStore.Shedding`), only what lies below the two is touched, and a child that is done rests from
then on: what is done to its siblings neither reaches below it nor below what it was merged into. So
in the end the whole folder rests (`Action.disposes_moveFolder`), unless what it is merged into lies
below itself.
-/
namespace Filing

open Contents Relation

variable {τ : Type}

/-- What lies below a folder, with the folder itself. -/
def Contents.realm (c : Contents) (id : EntityId) : Set EntityId := {y | c.Below y id}

namespace Contents

variable {c : Contents} {id source target y : EntityId}

theorem beneath_subset_realm (c : Contents) (id : EntityId) : c.beneath id ⊆ c.realm id :=
  fun _ below => below.to_reflTransGen

/-- Nothing lies below both folders. -/
theorem Beside.disjoint (beside : Beside c source target) (below : c.Below y source) :
    ¬ c.Below y target := fun below' => by
  rcases below.comparable below' with up | up
  · exact beside.apart' up
  · exact beside.apart up

/-- The folder lies beside the one it is to be merged into. -/
theorem Beside.of_clash {folder : Folder} {existing : EntityId} {s : MemoryStore}
    (reparents : Reparents s folder target)
    (clash : FolderClash s.contents folder.name existing target (some folder.id))
    (notUnder : ¬ s.contents.Below folder.id existing) : Beside s.contents folder.id existing where
  stored := ⟨folder, reparents.stored⟩
  destination := mem_folders_of_inside clash.child.inside
  apart below := reparents.away (below.parent_of_ne clash.ne clash.child.inside)
  apart' := notUnder

end Contents

namespace MemoryStore

/-- What comes of moving a folder where nobody is asked. It rests from then on. -/
inductive Disposes (s : MemoryStore) (id target : EntityId) : MemoryStore → Prop
  | stays (rests : s.Rests id target) : Disposes s id target s
  | moved {folder} (sameId : folder.id = id) (reparents : Reparents s folder target)
      (free : s.contents.FreeFolderName folder.name target (some id)) :
      Disposes s id target (s.save (.folder { folder with parent := some target }))
  | merged {s' folder existing} (sameId : folder.id = id) (reparents : Reparents s folder target)
      (clash : FolderClash s.contents folder.name existing target (some id))
      (tidy : s'.contents.Tidy)
      (shifts : s.Shifts s' (s.contents.realm id) (s.contents.realm id ∪ s.contents.realm existing))
      (gone : s'.contents.folder? id = none ∨ s'.contents.folder? id = s.contents.folder? id)
      (rests : s'.Rests id target) : Disposes s id target s'

variable {s s' m m' : MemoryStore} {id source target child file : EntityId} {seen : List EntityId}

theorem tidy_of_move {tally : Tally} (tidy : s.contents.Tidy)
    (step : Step ⟨.move, .bulk, false⟩ ⟨s, {}⟩ ⟨s', tally⟩) : s'.contents.Tidy :=
  tidy_of_steps (by rintro _ ⟨⟩) ⟨{}, tally, .single step⟩ tidy

theorem tidy_relist {f : File} {source : Option EntityId} (tidy : s.contents.Tidy)
    (relists : Relists s f source target)
    (free : s.contents.FreeFileName f.name target (some f.id)) :
    (s.save (.file (f.reparent source target).1)).contents.Tidy :=
  tidy_of_move tidy (.relist rfl rfl relists free)

/-- A file rests once it is listed in its new place. -/
theorem FileRests.relisted {f : File} {source : Option EntityId} (relists : Relists s f source target)
    (elsewhere : source ≠ some target) :
    (s.save (.file (f.reparent source target).1)).FileRests f.id source target := by
  refine .moved ?_ fun p up => ?_
  · simp [lists_relist relists.stored]
  · have differs : p ≠ target := fun same => elsewhere (same ▸ up)
    simp [lists_relist relists.stored, up, differs]

theorem tidy_reparent {folder : Folder} (tidy : s.contents.Tidy)
    (reparents : Reparents s folder target)
    (free : s.contents.FreeFolderName folder.name target (some folder.id)) :
    (s.save (.folder { folder with parent := some target })).contents.Tidy :=
  tidy_of_move tidy (.reparent rfl rfl reparents free)

namespace Disposes

theorem tidy (disposes : s.Disposes id target s') (tidy : s.contents.Tidy) : s'.contents.Tidy := by
  cases disposes with
  | stays _ => exact tidy
  | moved sameId reparents free =>
    subst sameId
    exact tidy_reparent tidy reparents free
  | merged _ _ _ tidy' _ _ _ => exact tidy'

theorem shifts (disposes : s.Disposes id target s') :
    s.Shifts s' (s.contents.realm id) (s.contents.realm id ∪ s.contents.realm target) := by
  cases disposes with
  | stays _ => exact .refl s _ _
  | moved sameId reparents _ =>
    subst sameId
    refine (Shifts.reparent reparents.stored).mono ?_ ?_
    · exact Set.singleton_subset_iff.mpr (below_refl _ _)
    · exact Set.singleton_subset_iff.mpr (.inr (below_refl _ _))
  | merged _ _ clash _ shifts _ _ =>
    refine shifts.mono (le_refl _) (Set.union_subset_union_right _ fun y below => ?_)
    exact Below.trans below clash.child.inside.below

theorem rests (disposes : s.Disposes id target s') : s'.Rests id target := by
  cases disposes with
  | stays rests => exact rests
  | moved sameId _ _ => exact .there (by simp [save, Inside, sameId])
  | merged _ _ _ _ _ _ rests => exact rests

theorem placed (disposes : s.Disposes id target s') : s'.contents.folder? id = none ∨
    s'.contents.Inside id target ∨ s'.contents.folder? id = s.contents.folder? id := by
  cases disposes with
  | stays _ => exact .inr (.inr rfl)
  | moved sameId _ _ => exact .inr (.inl (by simp [save, Inside, sameId]))
  | merged _ _ _ _ _ gone _ => exact gone.imp_right .inr

end Disposes

/-! ## The child folders -/

/-- The child folders in `seen` have been moved from `source` to `target`. -/
structure Emptying (s m : MemoryStore) (source target : EntityId) (seen : List EntityId) : Prop where
  tidy : m.contents.Tidy
  shifts : s.Shifts m (s.contents.beneath source) (s.contents.beneath source ∪ s.contents.realm target)
  fresh : ∀ child, s.contents.Inside child source → child ∉ seen →
    m.contents.folder? child = s.contents.folder? child
  placed : ∀ child ∈ seen, m.contents.folder? child = none ∨ m.contents.Inside child target ∨
    m.contents.Inside child source
  rests : ∀ child ∈ seen, m.Rests child target

namespace Emptying

theorem start (tidy : s.contents.Tidy) (source target : EntityId) :
    s.Emptying s source target [] where
  tidy := tidy
  shifts := .refl s _ _
  fresh _ _ _ := rfl
  placed := by simp
  rests := by simp

section

variable (emptying : s.Emptying m source target seen)
include emptying

/-- Whatever is below something that lay beneath the folder lay there as well. -/
theorem beneath {y top : EntityId} (below : m.contents.Below y top)
    (under : top ∈ s.contents.beneath source) : y ∈ s.contents.beneath source := by
  rcases emptying.shifts.below_or_through below with below | ⟨z, member, below, _⟩
  · exact TransGen.trans_right below under
  · exact TransGen.trans_right below member

theorem inside (inside : s.contents.Inside child source) (new : child ∉ seen) :
    m.contents.Inside child source := by
  rw [Inside, Contents.parentOf, emptying.fresh child inside new]
  exact inside

theorem beside (loopFree : s.contents.LoopFree) (beside : Beside s.contents source target) :
    Beside m.contents source target := by
  have apart : target ∉ s.contents.beneath source :=
    fun below => beside.apart (beneath_subset_realm _ _ below)
  constructor
  · simpa [Contents.folders, emptying.shifts.folders source (loopFree source)] using beside.stored
  · simpa [Contents.folders, emptying.shifts.folders target apart] using beside.destination
  · intro below
    refine beside.apart (emptying.shifts.below_of_under below fun z member => ?_)
    exact beneath_subset_realm _ _ member
  · intro below
    rcases emptying.shifts.below_or_through below with below | ⟨z, member, below, _⟩
    · exact beside.apart' below
    · exact loopFree source (TransGen.trans_right below member)

/-- A child that rests goes on resting while the next one is moved. -/
theorem rests_next (besideNow : Beside m.contents source target)
    (up : m.contents.Inside child source) (new : child ∉ seen)
    (disposes : m.Disposes child target m') {other : EntityId} (member : other ∈ seen) :
    m'.Rests other target := by
  have loopFree := emptying.tidy.wellFormed.loopFree
  have rests := emptying.rests other member
  have differs : other ≠ child := fun same => new (same ▸ member)
  rcases emptying.placed other member with missing | placed
  · exact .missing (disposes.shifts.missing missing)
  -- It lies in one of the two folders, and so nothing is below both it and the next one.
  have apart {y : EntityId} (below : m.contents.Below y other) : ¬ m.contents.Below y child :=
    fun below' => differs (besideNow.eq_of_children loopFree placed.symm (.inl up) below below')
  have away := besideNow.not_below_child loopFree placed.symm
  refine rests.shift disposes.shifts ?_ (fun around => absurd around away.2) ?_
  · exact (disposes.shifts.inside_iff (apart (below_refl _ _))).mpr
  · intro folder existing _ clash notThere _
    have inSource := placed.resolve_left notThere
    refine ⟨fun y below => ⟨apart below, ?_⟩, fun y below below' => ?_⟩
    · rintro (below' | below')
      · exact apart below below'
      · exact besideNow.disjoint (below.trans inSource.below) below'
    · exact besideNow.disjoint (Below.trans below' up.below) (below.trans clash.child.inside.below)

theorem next (loopFree : s.contents.LoopFree) (beside : Beside s.contents source target)
    (inside : s.contents.Inside child source) (new : child ∉ seen)
    (disposes : m.Disposes child target m') : s.Emptying m' source target (seen ++ [child]) := by
  have loopFree' := emptying.tidy.wellFormed.loopFree
  have besideNow := emptying.beside loopFree beside
  have up := emptying.inside inside new
  have within : m.contents.realm child ⊆ s.contents.beneath source :=
    fun y below => emptying.beneath below (.single inside)
  constructor
  · exact disposes.tidy emptying.tidy
  · refine (emptying.shifts.trans disposes.shifts).mono ?_ ?_
    · exact Set.union_subset (le_refl _) within
    · refine Set.union_subset (le_refl _) (Set.union_subset (within.trans Set.subset_union_left) ?_)
      intro y below
      rcases emptying.shifts.below_or_through below with below | ⟨z, member, below, _⟩
      · exact .inr below
      · exact .inl (TransGen.trans_right below member)
  · intro other inside' unseen
    have notSeen : other ∉ seen := fun member => unseen (by simp [member])
    rw [← emptying.fresh other inside' notSeen]
    -- Of two children of a folder, neither lies below the other.
    refine disposes.shifts.folders other fun below => unseen ?_
    have same := loopFree'.eq_of_siblings (emptying.inside inside' notSeen) up (below_refl _ _) below
    simp [same]
  · refine List.forall_mem_append.mpr ⟨fun other early => ?_, List.forall_mem_singleton.mpr ?_⟩
    · have differs : other ≠ child := fun same => new (same ▸ early)
      rcases emptying.placed other early with missing | placed
      · exact .inl (disposes.shifts.missing missing)
      · have out : other ∉ m.contents.realm child := fun below => differs
          (besideNow.eq_of_children loopFree' placed.symm (.inl up) (below_refl _ _) below)
        rw [disposes.shifts.inside_iff out, disposes.shifts.inside_iff out]
        exact .inr placed
    · rcases disposes.placed with gone | there | same
      · exact .inl gone
      · exact .inr (.inl there)
      · refine .inr (.inr ?_)
        rw [Inside, Contents.parentOf, same]
        exact up
  · refine List.forall_mem_append.mpr ⟨fun other early => ?_, List.forall_mem_singleton.mpr ?_⟩
    · exact emptying.rests_next besideNow up new disposes early
    · exact disposes.rests

end

end Emptying

/-! ## The files -/

/-- The files in `seen` have been moved from `source` to `target`. -/
structure Shedding (s m : MemoryStore) (source target : EntityId) (seen : List EntityId) : Prop where
  tidy : m.contents.Tidy
  shifts : s.Shifts m {source} {target}
  folders : ∀ y, m.contents.folder? y = s.contents.folder? y
  rests : ∀ file ∈ seen, m.FileRests file (some source) target

namespace Shedding

theorem start (tidy : s.contents.Tidy) (source target : EntityId) :
    s.Shedding s source target [] where
  tidy := tidy
  shifts := .refl s _ _
  folders _ := rfl
  rests := by simp

theorem next (shedding : s.Shedding m source target seen) (differs : source ≠ target)
    (shelves : m.Shelves file (some source) target m') :
    s.Shedding m' source target (seen ++ [file]) := by
  cases shelves with
  | rests rests =>
    refine { shedding with rests := List.forall_mem_append.mpr ⟨shedding.rests, ?_⟩ }
    exact List.forall_mem_singleton.mpr rests
  | @relisted f sameId elsewhere relists free =>
    subst sameId
    have shifts : m.Shifts (m.save (.file (f.reparent (some source) target).1)) {source} {target} :=
      (Shifts.relist relists.stored).mono (fun p up => (Option.some.inj up).symm) (le_refl _)
    constructor
    · exact tidy_relist shedding.tidy relists free
    · exact (shedding.shifts.trans shifts).mono (Set.union_self _).le (Set.union_self _).le
    · exact fun y => (folder?_relist relists.stored (some source) target y).trans (shedding.folders y)
    · refine List.forall_mem_append.mpr ⟨fun other early => ?_, List.forall_mem_singleton.mpr ?_⟩
      · refine (shedding.rests other early).shift shifts differs.symm ?_
        rintro _ ⟨⟩ _
        exact differs
      · exact .relisted relists elsewhere

end Shedding

/-! ## The emptied folder -/

section

variable {s₁ s₂ : MemoryStore}
  (emptying : s.Emptying s₁ source target (s.contents.childFolders source))
  (shedding : s₁.Shedding s₂ source target (s.contents.childFiles source))
include emptying shedding

theorem shifts_emptied : s.Shifts s₂ (s.contents.realm source)
    (s.contents.realm source ∪ s.contents.realm target) := by
  refine (emptying.shifts.trans shedding.shifts).mono ?_ ?_
  · refine Set.union_subset (beneath_subset_realm _ _) ?_
    exact Set.singleton_subset_iff.mpr (below_refl _ _)
  · refine Set.union_subset ?_ (Set.singleton_subset_iff.mpr (.inr (below_refl _ _)))
    exact Set.union_subset_union_left _ (beneath_subset_realm _ _)

variable (loopFree : s.contents.LoopFree)
include loopFree

theorem folder?_emptied : s₂.contents.folder? source = s.contents.folder? source :=
  (shedding.folders source).trans (emptying.shifts.folders source (loopFree source))

/-- All that is left in the folder rests, and so the folder does if it cannot go. -/
theorem rests_emptied (beside : Beside s.contents source target) {folder : Folder} {parent : EntityId}
    (stored : s.contents.folder? source = some folder)
    (clash : FolderClash s.contents folder.name target parent (some source))
    (stuck : s₂.contents.Vacant source → s₂.allows .delete source = false) :
    s₂.Rests source parent := by
  have loopFree' := emptying.tidy.wellFormed.loopFree
  have besideNow := emptying.beside loopFree beside
  -- Nothing was put into the folder, so nothing is there that was not worked on.
  have emptied : source ∉ s.contents.beneath source ∪ s.contents.realm target := by
    rintro (below | below)
    · exact loopFree source below
    · exact beside.apart' below
  have apart : target ∉ s.contents.beneath source :=
    fun below => beside.apart (beneath_subset_realm _ _ below)
  have clash' : FolderClash s₂.contents folder.name target parent (some source) := by
    refine ⟨?_, clash.differs⟩
    rw [shedding.folders, emptying.shifts.folders target apart]
    exact clash.stored
  refine .merged ((folder?_emptied emptying shedding loopFree).trans stored) clash' ?_ ?_ stuck
  · intro child inside
    have up : s₁.contents.Inside child source := by
      rwa [Inside, Contents.parentOf, shedding.folders] at inside
    have before := (emptying.shifts.inside up).resolve_right emptied
    have rests := emptying.rests child (mem_childFolders_iff_inside.mpr before)
    have away := besideNow.not_below_child loopFree' (.inl up)
    have notSource {y : EntityId} (below : s₁.contents.Below y child) : y ≠ source := by
      rintro rfl
      exact away.1 below
    refine rests.shift shedding.shifts ?_ (fun around => absurd around away.2) ?_
    · exact (shedding.shifts.inside_iff (notSource (below_refl _ _))).mpr
    · intro _ existing _ named _ _
      refine ⟨fun y below => ⟨notSource below, ?_⟩, fun y below => ?_⟩
      · rintro rfl
        exact away.2 below
      · rintro rfl
        exact besideNow.apart' (below.trans named.child.inside.below)
  · intro file listed
    have before := (shedding.shifts.lists listed).resolve_right beside.ne
    have first := (emptying.shifts.lists before).resolve_right emptied
    exact shedding.rests file (mem_childFiles.mpr first)

end

end MemoryStore

/-! ## Moving a folder -/

namespace Action

variable {setup : Setup τ} {desk : Desk (Cabinet τ)} {s : MemoryStore} {P Q : MemoryStore → Prop}

/-- The action ends well, nobody was asked, and `P` holds of what is stored then. -/
def Quietly (action : Action (Cabinet τ) Unit) (desk : Desk (Cabinet τ)) (P : MemoryStore → Prop) :
    Prop :=
  action.Meets desk fun result after =>
    result = .ok () ∧ after.interactive = false ∧ P after.world.store

namespace Quietly

theorem bind {action : Action (Cabinet τ) Unit} {next : Unit → Action (Cabinet τ) Unit}
    (first : Quietly action desk P)
    (rest : ∀ after : Desk (Cabinet τ), after.interactive = false → P after.world.store →
      Quietly (next ()) after Q) : Quietly (action >>= next) desk Q := by
  refine Meets.bind first ?_ (by rintro _ _ ⟨⟨⟩, _⟩)
  rintro _ after ⟨_, quiet, holds⟩
  exact rest after quiet holds

theorem thenTurn {action : Action (Cabinet τ) Unit} (first : Quietly action desk P)
    (turn : StateM τ Unit) :
    Quietly (action >>= fun _ => Action.turn (Cabinet.aside turn)) desk P := by
  refine first.bind fun after quiet holds => (meets_turn turn).mono ?_
  rintro _ later ⟨⟨_, rfl⟩, looked⟩
  exact ⟨rfl, looked.interactive.trans quiet, looked.store.symm ▸ holds⟩

theorem item {work : Action (Cabinet τ) Unit}
    (meets : work.Meets desk fun _ after => after.interactive = false ∧ P after.world.store) :
    Quietly (Action.item setup.host.job work) desk P :=
  .thenTurn (.settle meets (fun _ ended => ⟨rfl, ended⟩) fun _ _ ended => ⟨rfl, ended⟩)
    setup.job.step

theorem inLevel {total : Nat} {work : Action (Cabinet τ) Unit} (quiet : desk.interactive = false)
    (inside : ∀ pushed : Desk (Cabinet τ), pushed.interactive = false →
      pushed.world.store = desk.world.store → Quietly work pushed P) :
    Quietly (Action.inLevel setup.host.job total work) desk P := by
  refine (meets_turn (setup.job.push total)).bind ?_ (by rintro _ _ ⟨⟨_, ⟨⟩⟩, _⟩)
  rintro _ pushed ⟨_, looked⟩
  exact (inside pushed (looked.interactive.trans quiet) looked.store).thenTurn setup.job.pop

theorem forM {ι : Type} {items : List ι} {work : ι → Action (Cabinet τ) Unit}
    (inv : List ι → MemoryStore → Prop) (quiet : desk.interactive = false)
    (start : inv [] desk.world.store)
    (each : ∀ seen item later, items = seen ++ item :: later → ∀ desk : Desk (Cabinet τ),
      desk.interactive = false → inv seen desk.world.store →
      Quietly (work item) desk (inv (seen ++ [item]))) :
    Quietly (items.forM work) desk (inv items) := by
  refine Meets.forM (fun seen desk => desk.interactive = false ∧ inv seen desk.world.store)
    ⟨quiet, start⟩ ?_ fun after held => ⟨rfl, held⟩
  rintro seen item later split desk ⟨quiet, held⟩
  refine (each seen item later split desk quiet held).mono ?_
  rintro _ after ⟨rfl, held⟩
  exact held

end Quietly

open MemoryStore

theorem meets_removeIfEmpty_quiet (reliable : setup.Reliable) (quiet : desk.interactive = false)
    (id : EntityId) :
    (discard (removeIfEmpty setup.host id)).Meets desk fun _ after => after.interactive = false ∧
      (after.world.store = desk.world.store ∧ ((∃ f, desk.world.store.contents.folder? id = some f) →
          desk.world.store.contents.Vacant id → desk.world.store.allows .delete id = false) ∨
        Dissolves desk.world.store id ∧ after.world.store = desk.world.store.discard id) := by
  refine (meets_removeIfEmpty id).bind ?_ ?_
  · intro removed after ended
    refine .pure ?_
    cases removed with
    | false =>
      obtain ⟨_, glanced, filled⟩ := ended
      refine ⟨glanced.interactive.trans quiet, .inl ⟨glanced.store, ?_⟩⟩
      rintro ⟨f, stored⟩ vacant
      exact absurd vacant (filled f stored)
    | true =>
      obtain ⟨dissolves, between, extra, method, glanced, wrote, _⟩ := ended
      exact ⟨(wrote.interactive.trans glanced.interactive).trans quiet, .inr ⟨dissolves, wrote.store⟩⟩
  · rintro error after missed
    have denied := missed.reason_of_reliable reliable
    obtain ⟨_, glanced, _⟩ := missed
    exact ⟨glanced.interactive.trans quiet, .inl ⟨glanced.store, fun _ _ => denied.1⟩⟩

/-- Moving folders within this depth leaves them at rest. -/
def DisposesWithin (setup : Setup τ) (depth : Nat) : Prop :=
  ∀ (desk : Desk (Cabinet τ)) (id target : EntityId), desk.interactive = false →
    desk.world.store.contents.Tidy →
    (∀ folder existing, desk.world.store.contents.folder? id = some folder →
      FolderClash desk.world.store.contents folder.name existing target (some id) →
      ¬ desk.world.store.contents.Below id existing) →
    (moveFolder setup.host depth id target).Meets desk fun _ after => after.interactive = false ∧
      desk.world.store.Disposes id target after.world.store

theorem emptying_moveFolders {depth : Nat} (disposes : DisposesWithin setup depth)
    {source target : EntityId} (quiet : desk.interactive = false) (tidy : desk.world.store.contents.Tidy)
    (beside : Beside desk.world.store.contents source target) :
    Quietly ((desk.world.store.contents.childFolders source).forM fun child =>
        item setup.host.job (moveFolder setup.host depth child target)) desk fun m =>
      desk.world.store.Emptying m source target (desk.world.store.contents.childFolders source) := by
  generalize store : desk.world.store = s at *
  have start : s.Emptying desk.world.store source target [] := store ▸ .start tidy source target
  refine .forM (fun seen m => s.Emptying m source target seen) quiet start ?_
  intro seen child later split between quiet emptying
  have loopFree := tidy.wellFormed.loopFree
  have nodup := nodup_childFolders s.contents source
  rw [split, List.nodup_append] at nodup
  have new : child ∉ seen := fun member => nodup.2.2 child member child (by simp) rfl
  have inside : s.contents.Inside child source :=
    mem_childFolders_iff_inside.mp (by simp [split])
  have besideNow := emptying.beside loopFree beside
  refine .item ((disposes between child target quiet emptying.tidy ?_).mono ?_)
  -- What the child may be merged into lies in the target, and thus not below the child.
  · intro folder existing _ clash below
    have up := emptying.inside inside new
    exact besideNow.disjoint up.below (below.trans clash.child.inside.below)
  · rintro _ after ⟨quiet, disposes⟩
    exact ⟨quiet, emptying.next loopFree beside inside new disposes⟩

theorem shedding_moveFiles (reliable : setup.Reliable) {source target : EntityId}
    (quiet : desk.interactive = false) (tidy : desk.world.store.contents.Tidy)
    (differs : source ≠ target) (files : List EntityId) :
    Quietly (files.forM fun child =>
        item setup.host.job (moveFile setup.host child (some source) target)) desk fun m =>
      desk.world.store.Shedding m source target files := by
  generalize store : desk.world.store = s at *
  have start : s.Shedding desk.world.store source target [] := store ▸ .start tidy source target
  refine .forM (fun seen m => s.Shedding m source target seen) quiet start ?_
  intro seen file later _ between quiet shedding
  refine .item ((meets_moveFile_quiet reliable quiet file (some source) target).mono ?_)
  rintro _ after ⟨quiet, shelves⟩
  exact ⟨quiet, shedding.next differs shelves⟩

/-- A folder whose children are all moved into another one rests. -/
theorem disposes_mergeFolder (reliable : setup.Reliable) {depth : Nat}
    (disposes : DisposesWithin setup depth) (quiet : desk.interactive = false)
    (tidy : desk.world.store.contents.Tidy) {listing : Listing} {existing target : EntityId}
    (listed : desk.world.store.contents.listing? listing.id = some listing)
    (reparents : Reparents desk.world.store listing.toFolder target)
    (clash : FolderClash desk.world.store.contents listing.name existing target (some listing.id))
    (notUnder : ¬ desk.world.store.contents.Below listing.id existing) :
    (mergeFolder setup.host (moveFolder setup.host depth) listing existing).Meets desk fun _ after =>
      after.interactive = false ∧
        desk.world.store.Disposes listing.id target after.world.store := by
  generalize store : desk.world.store = s at *
  have loopFree := tidy.wellFormed.loopFree
  have beside : Beside s.contents listing.id existing := .of_clash reparents clash notUnder
  obtain ⟨stored, childFolders, childFiles⟩ := listing?_eq_some_iff.mp listed
  refine .tally_bind (Meets.mono (?_ : Quietly _ _ fun s' => s.Disposes listing.id target s')
    fun _ _ ended => ended.2)
  refine .inLevel quiet fun pushed quiet pushedStore => ?_
  replace pushedStore : pushed.world.store = s := pushedStore.trans store
  rw [childFolders, childFiles]
  have folders := emptying_moveFolders disposes quiet (pushedStore ▸ tidy) (pushedStore ▸ beside)
  rw [pushedStore] at folders
  refine folders.bind fun filled quiet emptying => ?_
  refine (shedding_moveFiles reliable quiet emptying.tidy beside.ne _).bind fun shed quiet shedding => ?_
  refine .item ((meets_removeIfEmpty_quiet reliable quiet listing.id).mono ?_)
  have here := (folder?_emptied emptying shedding loopFree).trans stored
  have shifts := shifts_emptied emptying shedding
  rintro _ after ⟨quiet, ⟨same, stuck⟩ | ⟨dissolves, gone⟩⟩
  -- Either something is left in the folder, or nobody may delete it.
  · rw [same]
    refine ⟨quiet, .merged rfl reparents clash shedding.tidy shifts (.inr (here.trans stored.symm)) ?_⟩
    exact rests_emptied emptying shedding loopFree beside stored clash (stuck ⟨_, here⟩)
  -- A folder that is gone has nothing left to move.
  · rw [gone]
    have noFolder : (shed.world.store.discard listing.id).contents.folder? listing.id = none := by
      simp [MemoryStore.discard]
    have tidy' := tidy_of_move shedding.tidy (.dissolve rfl rfl dissolves)
    refine ⟨quiet, .merged rfl reparents clash tidy' ?_ (.inl noFolder) (.missing noFolder)⟩
    refine (shifts.trans (Shifts.discard here)).mono ?_ (by simp)
    exact Set.union_subset (le_refl _) (Set.singleton_subset_iff.mpr (below_refl _ _))

/-- A folder that was moved rests, whatever is denied. -/
theorem disposes_moveFolder (reliable : setup.Reliable) (depth : Nat) : DisposesWithin setup depth := by
  induction depth with
  | zero => exact fun _ _ _ _ _ _ => .tooDeep
  | succ depth ih =>
    intro desk id target quiet tidy notUnder
    have stays {after : Desk (Cabinet τ)} {extra : List Entry}
        (glanced : desk.Glanced setup.faults after extra) (rests : desk.world.store.Rests id target) :
        after.interactive = false ∧ desk.world.store.Disposes id target after.world.store := by
      refine ⟨glanced.interactive.trans quiet, ?_⟩
      rw [glanced.store]
      exact .stays rests
    refine .moveFolder ?_ ?_ ?_ ?_
    · exact fun after extra glanced placed => stays glanced (.of_placed placed)
    · rintro error after missed
      have refused := missed.reason_of_reliable reliable
      obtain ⟨_, glanced, _⟩ := missed
      exact stays glanced (.of_refused refused)
    · rintro after folder sameId reparents free ⟨between, extra, method, glanced, wrote, _⟩
      refine ⟨(wrote.interactive.trans glanced.interactive).trans quiet, ?_⟩
      rw [wrote.store]
      exact .moved sameId reparents free
    · rintro between extra listing existing glanced rfl listed reparents clash
      -- The existing folder does not lie below this one, so the two are apart.
      have apart := notUnder _ existing reparents.stored clash
      rw [← glanced.store] at tidy listed reparents clash apart ⊢
      exact disposes_mergeFolder reliable ih (glanced.interactive.trans quiet) tidy listed reparents clash
        apart

end Action

end Filing
