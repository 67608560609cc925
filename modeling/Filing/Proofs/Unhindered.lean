import Filing.Proofs.Halting
import Filing.Proofs.Uniting

/-!
# Moving when nothing is in the way

In well-formed contents where nothing is denied and no call fails, a folder that is moved to where it
does not contain the destination gets there without a failure (`Action.ends_moveFolder`). Only folders
below it are touched on the way (`Desk.Glides`), so what lies above the destinations stays put.
-/
namespace Filing

open Contents

variable {τ : Type} {setup : Setup τ}

/-- The action went well, and of the folders only those below `roots` were touched. -/
structure Desk.Glides (first : Desk (Cabinet τ)) (roots : List EntityId)
    (result : Except RequestError Unit) (last : Desk (Cabinet τ)) : Prop where
  ended : result = .ok ()
  rules : last.rules = first.rules
  failures : last.report.failures = first.report.failures
  permissive : last.world.store.Permissive
  wellFormed : last.world.store.contents.WellFormed
  fewer : last.world.store.contents.folders ⊆ first.world.store.contents.folders
  kept : ∀ y, (∀ root ∈ roots, ¬ first.world.store.contents.Below y root) →
    last.world.store.contents.folder? y = first.world.store.contents.folder? y

namespace Desk

variable {first second third : Desk (Cabinet τ)} {extra : List Entry} {store : MemoryStore}
  {change : Tally → Tally} {roots more : List EntityId} {result : Except RequestError Unit}

/-- Nothing is denied in well-formed contents. -/
structure Open (desk : Desk (Cabinet τ)) : Prop where
  quiet : desk.rules = .quietMove
  permissive : desk.world.store.Permissive
  wellFormed : desk.world.store.contents.WellFormed

namespace Glides

theorem opened (glides : first.Glides roots result second) (before : first.Open) : second.Open :=
  ⟨glides.rules.trans before.quiet, glides.permissive, glides.wellFormed⟩

/-- What is not below a root goes up as before. -/
theorem below_iff (glides : first.Glides roots result second) {y x : EntityId}
    (apart : ∀ root ∈ roots, ¬ first.world.store.contents.Below y root) :
    second.world.store.contents.Below y x ↔ first.world.store.contents.Below y x := by
  apply below_congr
  intro z above
  have same := glides.kept z fun root member below => apart root member (above.trans below)
  simp [parentOf, same]

theorem trans (glides : first.Glides roots (.ok ()) second)
    (glides' : second.Glides more result third) : first.Glides (roots ++ more) result third where
  ended := glides'.ended
  rules := glides'.rules.trans glides.rules
  failures := glides'.failures.trans glides.failures
  permissive := glides'.permissive
  wellFormed := glides'.wellFormed
  fewer := glides'.fewer.trans glides.fewer
  kept y apart := by
    have early (root : EntityId) (member : root ∈ roots) :
        ¬ first.world.store.contents.Below y root := apart root (by simp [member])
    rw [← glides.kept y early]
    apply glides'.kept
    intro root member
    rw [glides.below_iff early]
    exact apart root (by simp [member])

/-- What is below the old roots is below the new ones. -/
theorem reroot (glides : first.Glides roots result second)
    (under : ∀ root ∈ roots, ∃ other ∈ more, first.world.store.contents.Below root other) :
    first.Glides more result second where
  ended := glides.ended
  rules := glides.rules
  failures := glides.failures
  permissive := glides.permissive
  wellFormed := glides.wellFormed
  fewer := glides.fewer
  kept y apart := by
    apply glides.kept
    intro root member below
    obtain ⟨other, member', under⟩ := under root member
    exact apart other member' (below.trans under)

/-- Less is below a child, whatever happened below its siblings. -/
theorem ncard_beneath_lt (glides : first.Glides roots result second) {child id : EntityId}
    (inside : ∀ root ∈ roots, first.world.store.contents.Inside root id)
    (up : first.world.store.contents.Inside child id) :
    (second.world.store.contents.beneath child).ncard <
      (first.world.store.contents.beneath id).ncard := by
  refine Set.ncard_lt_ncard ⟨fun x below => ?_, fun fewer => ?_⟩ (finite_beneath _ id)
  · -- On the way up to the child `x` either meets a sibling or goes as before.
    by_cases met : ∃ root ∈ roots, first.world.store.contents.Below x root
    · obtain ⟨root, member, under⟩ := met
      exact Relation.TransGen.tail' under (inside root member)
    · have before : first.world.store.contents.Below x child :=
        (glides.below_iff fun root member under => met ⟨root, member, under⟩).mp below.to_reflTransGen
      exact Relation.TransGen.tail' before up
  · exact glides.wellFormed.loopFree child (fewer (Relation.TransGen.single up))

theorem ncard_folders_le (glides : first.Glides roots result second) :
    second.world.store.contents.folders.ncard ≤ first.world.store.contents.folders.ncard :=
  Set.ncard_le_ncard glides.fewer (finite_folders _)

/-- Nothing changed that matters. -/
theorem of_same (opened : first.Open) (store : second.world.store = first.world.store)
    (rules : second.rules = first.rules)
    (failures : second.report.failures = first.report.failures) (roots : List EntityId) :
    first.Glides roots (.ok ()) second where
  ended := rfl
  rules := rules
  failures := failures
  permissive := store ▸ opened.permissive
  wellFormed := store ▸ opened.wellFormed
  fewer := store ▸ subset_rfl
  kept y _ := by rw [store]

end Glides

theorem Kept.glides (kept : first.Kept second extra) (opened : first.Open) (roots : List EntityId) :
    first.Glides roots (.ok ()) second :=
  .of_same opened kept.store kept.rules kept.failures roots

/-- A change of the store, done in steps. -/
theorem Changed.glides (changed : first.Changed second store change) (opened : first.Open)
    (traced : first.Traced second)
    (fewer : store.contents.folders ⊆ first.world.store.contents.folders)
    (kept : ∀ y, (∀ root ∈ roots, ¬ first.world.store.contents.Below y root) →
      store.contents.folder? y = first.world.store.contents.folder? y) :
    first.Glides roots (.ok ()) second where
  ended := rfl
  rules := traced.rules
  failures := changed.failures
  permissive permission id := by
    have same : second.world.store.allows = first.world.store.allows := Steps.allows traced.steps
    rw [same]
    exact opened.permissive permission id
  wellFormed := Steps.wellFormed traced.steps opened.wellFormed
  fewer := changed.store_eq ▸ fewer
  kept y apart := by
    rw [changed.store_eq]
    exact kept y apart

theorem Failed.absurd_of_open {error : RequestError} {reason : RequestError → Prop} {α : Prop}
    (failed : first.Failed setup.faults reason error second) (reliable : setup.Reliable)
    (impossible : ¬ reason error) : α := by
  obtain ⟨_, _, ended⟩ := failed
  rcases ended with here | faulted
  · exact absurd here impossible
  · exact absurd faulted.canFail reliable

theorem Open.not_refused (opened : first.Open) (error : RequestError) :
    ¬ Refused first.world.store error := by
  rintro ⟨permission, id, denied, _⟩
  simp [opened.permissive permission id] at denied

end Desk

namespace Action

variable {desk : Desk (Cabinet τ)}

theorem ends_moveFile (reliable : setup.Reliable) (opened : desk.Open) (id source target : EntityId)
    (destination : target ∈ desk.world.store.contents.folders) :
    (moveFile setup.host id (some source) target).Ends desk (desk.Glides []) := by
  refine ⟨returns_moveFile id _ target desk, ?_⟩
  have traces : Traces .quietMove (moveFile setup.host id (some source) target) :=
    traces_moveFile rfl rfl id _ target
  refine ((meets_moveFile id _ target).and (traces desk opened.quiet)).mono ?_
  rintro result after ⟨ended, traced⟩
  have noReason (error : RequestError) : ¬ MoveRefused desk.world.store id target error := by
    rintro (denied | ⟨missing, _⟩)
    · exact opened.not_refused error ⟨_, _, denied⟩
    · obtain ⟨folder, stored⟩ := destination
      simp [missing] at stored
  -- Nobody is asked, so no file makes room for another one.
  have quiet {file existing : File} (displaces : Displaces desk.rules desk.world.store file existing
      target) : False := by
    have asked := displaces.asked
    simp [opened.quiet, Rules.quietMove] at asked
  cases ended with
  | missing kept _ => exact kept.glides opened []
  | already kept _ => exact kept.glides opened []
  | clashes kept _ _ => exact kept.glides opened []
  | idle _ room _ =>
    cases room with
    | free kept _ => exact kept.glides opened []
    | evicted displaces _ => exact (quiet displaces).elim
  | moved room relists _ wrote =>
    cases room with
    | free kept free =>
      have relisted : Relisted desk.world.store.contents _ source target _ :=
        relisted_reparent relists.stored
      rw [kept.store] at wrote
      have changed : desk.Changed after _ _ := ⟨_, _, _, kept, wrote⟩
      refine changed.glides opened traced ?_ fun y _ => relisted.folders y
      rintro y ⟨folder, stored⟩
      exact ⟨folder, (relisted.folders y).symm.trans stored⟩
    | evicted displaces _ => exact (quiet displaces).elim
  | stuck _ _ failed => exact failed.absurd_of_open reliable fun impossible => impossible
  | failed failed => exact failed.absurd_of_open reliable (noReason _)
  | hindered failed => exact failed.absurd_of_open reliable (opened.not_refused _)

theorem ends_removeIfEmpty (reliable : setup.Reliable) (opened : desk.Open) (id : EntityId) :
    (discard (removeIfEmpty setup.host id)).Ends desk (desk.Glides [id]) := by
  refine ⟨(returns_removeIfEmpty id desk).andThen fun _ desk => .pure () desk, ?_⟩
  refine (meets_removeIfEmpty id).bind ?_ fun error after missed =>
    missed.failed.absurd_of_open reliable fun denied => opened.not_refused error ⟨_, _, denied⟩
  intro removed after ended
  refine .pure ?_
  cases removed with
  | false =>
    obtain ⟨_, glanced, _⟩ := ended
    exact glanced.kept.glides opened [id]
  | true =>
    obtain ⟨dissolves, altered⟩ := ended
    have changed := altered.changed
    have traced : desk.Traced after := by
      apply changed.traced
      rw [opened.quiet]
      exact .dissolve rfl rfl dissolves
    -- Nothing but the folder itself is gone.
    refine changed.glides opened traced ?_ fun y apart => ?_
    · rintro y ⟨folder, stored⟩
      exact ⟨folder, (folder?_erase_eq_some_iff.mp stored).2⟩
    · have differs : id ≠ y := by
        rintro rfl
        exact apart id (by simp) (below_refl _ _)
      simp [MemoryStore.discard, differs]

/-! ## One after another -/

theorem Ends.bind_glides {roots more : List EntityId} {action : Action (Cabinet τ) Unit}
    {next : Unit → Action (Cabinet τ) Unit} (first : action.Ends desk (desk.Glides roots))
    (rest : ∀ later, desk.Glides roots (.ok ()) later → (next ()).Ends later (later.Glides more)) :
    (action >>= next).Ends desk (desk.Glides (roots ++ more)) := by
  refine first.bind (fun _ later glides => ?_) fun error after glides => ?_
  · exact (rest later glides).mono fun _ _ => glides.trans
  · cases glides.ended

theorem Ends.item_glides {roots : List EntityId} {work : Action (Cabinet τ) Unit}
    (opened : desk.Open) (ends : work.Ends desk (desk.Glides roots)) :
    (Action.item setup.host.job work).Ends desk (desk.Glides roots) := by
  refine ends.item (fun between after glides looked => ?_) fun error between after glides _ => ?_
  · have rest := looked.kept.glides (glides.opened opened) []
    rw [← List.append_nil roots]
    exact glides.trans rest
  · cases glides.ended

theorem Ends.inLevel_glides {total : Nat} {roots : List EntityId} {work : Action (Cabinet τ) Unit}
    (opened : desk.Open)
    (inside : ∀ pushed, desk.Looked pushed [] → work.Ends pushed (pushed.Glides roots)) :
    (Action.inLevel setup.host.job total work).Ends desk (desk.Glides roots) := by
  have glides (pushed : Desk (Cabinet τ)) (looked : desk.Looked pushed []) :
      work.Ends pushed (desk.Glides roots) :=
    (inside pushed looked).mono fun _ _ => (looked.kept.glides opened []).trans
  refine .inLevel glides (fun between after glides looked => ?_) fun _ _ glides => ?_
  · have rest := looked.kept.glides (glides.opened opened) []
    rw [← List.append_nil roots]
    exact glides.trans rest
  · cases glides.ended

/-- Each item may touch what is below some folders of its own. -/
theorem Ends.forM_glides {items : List EntityId} {work : EntityId → Action (Cabinet τ) Unit}
    (roots : EntityId → List EntityId) (opened : desk.Open)
    (each : ∀ seen item rest, items = seen ++ item :: rest → ∀ later,
      desk.Glides (seen.flatMap roots) (.ok ()) later →
      (work item).Ends later (later.Glides (roots item))) :
    (items.forM work).Ends desk (desk.Glides (items.flatMap roots)) := by
  refine .forM (fun seen later => desk.Glides (seen.flatMap roots) (.ok ()) later) ?_ ?_
    fun _ glides => glides
  · exact Desk.Glides.of_same opened rfl rfl rfl _
  · intro seen item rest split between glides
    refine (each seen item rest split between glides).mono fun result after glides' => ?_
    cases result with
    | ok _ => simpa using glides.trans glides'
    | error _ => cases glides'.ended

/-! ## Folders -/

/-- The files of a folder go over one after another. -/
theorem ends_moveFiles (reliable : setup.Reliable) (opened : desk.Open) (files : List EntityId)
    (source target : EntityId) (destination : target ∈ desk.world.store.contents.folders) :
    (files.forM fun child => item setup.host.job (moveFile setup.host child (some source) target)).Ends
      desk (desk.Glides []) := by
  have none (seen : List EntityId) : seen.flatMap (fun _ => ([] : List EntityId)) = [] := by simp
  have all : (files.forM fun child => item setup.host.job (moveFile setup.host child (some source) target)).Ends
      desk (desk.Glides (files.flatMap fun _ => [])) := by
    refine .forM_glides (fun _ => []) opened ?_
    intro seen child rest split between glides
    rw [none] at glides
    have now := glides.opened opened
    refine .item_glides now (ends_moveFile reliable now child source target ?_)
    simpa [folders, glides.kept target (by simp)] using destination
  rwa [none] at all

/-- Each folder is moved to its end from wherever it can be. -/
def Moves (setup : Setup τ) (depth : Nat) : Prop :=
  ∀ desk : Desk (Cabinet τ), desk.Open → ∀ id target,
    target ∈ desk.world.store.contents.folders → ¬ desk.world.store.contents.Below target id →
    (desk.world.store.contents.beneath id).ncard + desk.world.store.contents.folders.ncard < depth →
    (moveFolder setup.host depth id target).Ends desk (desk.Glides [id])

section

variable {depth : Nat} (moves : Moves setup depth) {id target : EntityId}
  (destination : target ∈ desk.world.store.contents.folders)
  (away : ¬ desk.world.store.contents.Below target id)
  (enough : (desk.world.store.contents.beneath id).ncard +
    desk.world.store.contents.folders.ncard < depth + 1)
include moves destination away enough

/-- The folders in a folder go over one after another. -/
theorem ends_moveFolders {start : Desk (Cabinet τ)} (soFar : desk.Glides [] (.ok ()) start)
    (opened : start.Open) (children : List EntityId)
    (inside : ∀ child ∈ children, desk.world.store.contents.Inside child id) :
    (children.forM fun child => item setup.host.job (moveFolder setup.host depth child target)).Ends
      start (start.Glides children) := by
  have all : (children.forM fun child =>
      item setup.host.job (moveFolder setup.host depth child target)).Ends start
      (start.Glides (children.flatMap fun child => [child])) := by
    refine .forM_glides (fun child => [child]) opened ?_
    intro seen child rest split between glides
    have up := inside child (by simp [split])
    have others (other : EntityId) (member : other ∈ seen) := inside other (by simp [split, member])
    have targetAway (other : EntityId) (member : other ∈ seen) :
        ¬ desk.world.store.contents.Below target other :=
      fun below => away (below.trans (others other member).below)
    have glides : desk.Glides seen (.ok ()) between := by simpa using soFar.trans glides
    have now : between.Open := ⟨glides.rules.trans (soFar.rules.symm.trans opened.quiet),
      glides.permissive, glides.wellFormed⟩
    -- What the siblings took along only makes less of what is below the child.
    have fewer := glides.ncard_folders_le
    have less := glides.ncard_beneath_lt others up
    refine .item_glides now (moves between now child target ?_ ?_ ?_)
    · simpa [folders, glides.kept target targetAway] using destination
    · rw [glides.below_iff targetAway]
      exact fun below => away (below.trans up.below)
    · omega
  simpa using all

theorem ends_mergeFolder (reliable : setup.Reliable) (opened : desk.Open) {listing : Listing}
    (sameId : listing.id = id) (found : desk.world.store.contents.listing? id = some listing) :
    (mergeFolder setup.host (moveFolder setup.host depth) listing target).Ends desk
      (desk.Glides [id]) := by
  subst sameId
  have children (child : EntityId) (member : child ∈ listing.childFolders) :
      desk.world.store.contents.Inside child listing.id := inside_of_mem_listing found member
  have counted : (count fun t => { t with foldersMerged := t.foldersMerged + 1 }).Ends desk
      (desk.Glides []) := by
    refine ⟨.count _ desk, .modify ?_⟩
    refine .of_same opened ?_ ?_ ?_ [] <;> rfl
  -- The children are touched first, then the folder itself.
  suffices all : (mergeFolder setup.host (moveFolder setup.host depth) listing target).Ends desk
      (desk.Glides ([] ++ (listing.childFolders ++ ([] ++ [listing.id])))) by
    refine all.mono fun result after glides => glides.reroot fun root member => ?_
    simp only [List.nil_append, List.mem_append, List.mem_singleton] at member
    refine ⟨listing.id, by simp, ?_⟩
    rcases member with inside | rfl
    · exact (children root inside).below
    · exact below_refl _ _
  refine counted.bind_glides fun later tallied => ?_
  refine .inLevel_glides (tallied.opened opened) fun pushed looked => ?_
  have soFar : desk.Glides [] (.ok ()) pushed :=
    tallied.trans (looked.kept.glides (tallied.opened opened) [])
  have start := soFar.opened opened
  refine .bind_glides (ends_moveFolders moves destination away enough soFar start _ children) ?_
  intro filled glides
  have still : target ∈ filled.world.store.contents.folders := by
    have kept := (soFar.trans glides).kept target fun child member below =>
      away (below.trans (children child (by simpa using member)).below)
    simpa [folders, kept] using destination
  refine .bind_glides (ends_moveFiles reliable (glides.opened start) _ listing.id target still) ?_
  intro emptied glides'
  have now := glides'.opened (glides.opened start)
  exact .item_glides now (ends_removeIfEmpty reliable now listing.id)

end

theorem ends_moveFolder (reliable : setup.Reliable) (depth : Nat) (opened : desk.Open)
    (id target : EntityId) (destination : target ∈ desk.world.store.contents.folders)
    (away : ¬ desk.world.store.contents.Below target id)
    (enough : (desk.world.store.contents.beneath id).ncard +
      desk.world.store.contents.folders.ncard < depth) :
    (moveFolder setup.host depth id target).Ends desk (desk.Glides [id]) := by
  -- On the depth. Fewer folders lie beneath each child; those that are stored are added for the way up.
  induction depth generalizing desk id target with
  | zero => exact absurd enough (Nat.not_lt_zero _)
  | succ depth ih =>
    have merges (between : Desk (Cabinet τ)) (extra : List Entry) (listing : Listing)
        (there : EntityId) (kept : desk.Kept between extra)
        (found : desk.world.store.contents.listing? id = some listing)
        (clash : FolderClash desk.world.store.contents listing.name there target (some id)) :
        (mergeFolder setup.host (moveFolder setup.host depth) listing there).Ends between
          (desk.Glides [id]) := by
      cases id_of_listing? found
      obtain ⟨⟨folder, there, inside, _⟩, differs⟩ := clash
      have soFar := kept.glides opened []
      have up := inside_iff.mpr ⟨folder, there, inside⟩
      refine Ends.mono ?_ fun _ _ => soFar.trans
      rw [← kept.store] at found there away enough up
      refine ends_mergeFolder (fun desk opened id target => ih opened id target) ⟨folder, there⟩ ?_
        enough reliable (soFar.opened opened) rfl found
      -- Whatever is merged into lies in the destination, so it is not below the folder that goes.
      exact fun below => away (below.parent_of_ne (by simpa using differs) up)
    refine .moveFolder ?_ (by omega) fun between extra listing there kept found clash =>
      (merges between extra listing there kept found clash).1
    refine .moveFolder ?_ ?_ ?_ ?_
    · exact fun after extra glanced _ => glanced.kept.glides opened [id]
    · intro error after missed
      refine missed.failed.absurd_of_open reliable ?_
      rintro ((denied | ⟨missing, _⟩) | ⟨below, _⟩)
      · exact opened.not_refused error ⟨_, _, denied⟩
      · obtain ⟨folder, stored⟩ := destination
        simp [missing] at stored
      · exact away below
    · rintro after folder rfl reparents free altered
      have changed := altered.changed
      have traced : desk.Traced after := by
        apply changed.traced
        rw [opened.quiet]
        exact .reparent rfl rfl reparents free
      refine changed.glides opened traced ?_ fun y apart => ?_
      · rintro y ⟨other, found⟩
        by_cases here : folder.id = y
        · exact here ▸ ⟨folder, reparents.stored⟩
        · exact ⟨other, by simpa [MemoryStore.save, here] using found⟩
      · have differs : folder.id ≠ y := by
          rintro rfl
          exact apart folder.id (by simp) (below_refl _ _)
        simp [MemoryStore.save, differs]
    · intro between extra listing there glanced _ found _ clash
      exact (merges between extra listing there glanced.kept found clash).2

end Action

end Filing
