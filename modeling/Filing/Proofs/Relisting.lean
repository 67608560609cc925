import Filing.Proofs.Replacing
import Filing.Proofs.Working

/-!
# One file into a folder

A file that is moved into a folder changes one parent for another, and takes out at most one file there
that has its name (`MemoryStore.TakesIn`). Whatever keeps it from going there, whether it is found out
before anything is looked at or only when somebody was asked, leaves everything as it is
(`Request.LeavesAlone`).

## Main results

* `File.reparent_exactly`: which folders list a file afterwards, and when there is something to save.
* `Request.plan_takesIn`: what a request to move one file into a folder comes to.
-/
namespace Filing

variable {τ : Type}

/-! ## The file that is in the way -/

/-- Of the other files in the folder that have the name of `file`, `existing` comes first. -/
structure Contents.FirstNamesake (c : Contents) (file : File) (target : EntityId) (existing : File) :
    Prop where
  stored : c.file? existing.id = some existing
  listed : target ∈ existing.parents
  sameName : existing.name = file.name
  differs : existing.id ≠ file.id
  first : ∀ other : File, c.file? other.id = some other → target ∈ other.parents →
    other.name = file.name → other.id ≠ file.id → existing.id = other.id ∨ existing.id < other.id

namespace Contents

variable {c : Contents} {file existing : File} {target : EntityId}

theorem FirstNamesake.unique {existing' : File} (first : c.FirstNamesake file target existing)
    (first' : c.FirstNamesake file target existing') : existing = existing' := by
  have same : existing.id = existing'.id := by
    rcases first.first existing' first'.stored first'.listed first'.sameName first'.differs with
      same | less
    · exact same
    rcases first'.first existing first.stored first.listed first.sameName first.differs with
      same | greater
    · exact same.symm
    · exact absurd greater (EntityId.lt_asymm less)
  have stored := first.stored
  rw [same, first'.stored] at stored
  exact (Option.some.inj stored).symm

/-- The listing of a folder is in order, so the first one found there is the first one there is. -/
theorem firstNamesake_of_namesake?
    (found : c.namesake? file.name target (some file.id) = some existing) :
    c.FirstNamesake file target existing := by
  have clash := clash_of_namesake? found
  refine ⟨clash.stored, clash.listed, clash.sameName, by simpa using clash.differs,
    fun other stored listed sameName differs => ?_⟩
  obtain ⟨before, id, after, listing, named, earlier⟩ := List.findSome?_eq_some_iff.mp found
  cases id_of_file? (fileNamed?_eq_some_iff.mp named).1
  have sorted := (c.sorted_childFiles target).filter fun x => some x ≠ some file.id
  have member : other.id ∈ (c.childFiles target).filter fun x => some x ≠ some file.id := by
    rw [List.mem_filter]
    exact ⟨mem_childFiles.mpr ⟨other, stored, listed⟩, by simpa using differs⟩
  rw [listing, List.pairwise_append, List.pairwise_cons] at sorted
  rw [listing, List.mem_append, List.mem_cons] at member
  rcases member with early | same | late
  · have absent := earlier other.id early
    rw [fileNamed?_eq_some_iff.mpr ⟨stored, sameName⟩] at absent
    cases absent
  · exact .inl same.symm
  · exact .inr (sorted.2.1.1 other.id late)

theorem namesake?_eq_some_iff : c.namesake? file.name target (some file.id) = some existing ↔
    c.FirstNamesake file target existing := by
  refine ⟨firstNamesake_of_namesake?, fun first => ?_⟩
  cases found : c.namesake? file.name target (some file.id) with
  | some existing' => rw [first.unique (firstNamesake_of_namesake? found)]
  | none =>
    have absent := List.findSome?_eq_none_iff.mp found existing.id (List.mem_filter.mpr
      ⟨mem_childFiles.mpr ⟨existing, first.stored, first.listed⟩, by simpa using first.differs⟩)
    rw [fileNamed?_eq_some_iff.mpr ⟨first.stored, first.sameName⟩] at absent
    cases absent

end Contents

/-! ## What has become of the store -/

/-- A file has gone from `source` to `target`: its parents have changed, the first other file there that
has its name has left the folder, and nothing else is stored differently. -/
structure MemoryStore.TakesIn (before after : MemoryStore) (file : File) (source : Option EntityId)
    (target : EntityId) : Prop where
  moved : ∃ parents, after.contents.file? file.id = some { file with parents } ∧
    ∀ x, x ∈ parents ↔ x ∈ file.parents ∧ source ≠ some x ∨ x = target
  detached : ∀ existing, before.contents.FirstNamesake file target existing →
    (∃ p ∈ existing.parents, p ≠ target) → after.contents.find? existing.id =
      some (.file { existing with parents := existing.parents.erase target })
  destroyed : ∀ existing, before.contents.FirstNamesake file target existing →
    (∀ p ∈ existing.parents, p = target) → after.contents.find? existing.id = none
  others : ∀ id, id ≠ file.id →
    (∀ existing, before.contents.FirstNamesake file target existing → id ≠ existing.id) →
    after.contents.find? id = before.contents.find? id
  allows : after.allows = before.allows

namespace File

variable {file : File} {source : Option EntityId} {target : EntityId}

/-- Something is saved if and only if another set of folders lists the file. -/
theorem reparent_changes_iff (elsewhere : source ≠ some target) :
    (file.reparent source target).2 = true ↔
      (file.reparent source target).1.parents ≠ file.parents := by
  rw [reparent_flag_iff]
  exact or_iff_left fun itself => elsewhere itself.1

/-- The target joins the parents of a file, the source leaves them, and the file is otherwise as it was.
There is something to save if the parents are not the same as before, and also if a parent was to be
swapped for itself. -/
theorem reparent_exactly (file : File) (source : Option EntityId) (target : EntityId) :
    ∃ parents : IdSet, (file.reparent source target).1 = { file with parents } ∧
      (∀ x, x ∈ parents ↔ x = target ∨ x ∈ file.parents ∧ source ≠ some x) ∧
      ((file.reparent source target).2 = true ↔
        parents ≠ file.parents ∨ source = some target ∧ target ∈ file.parents) :=
  ⟨_, rfl, fun _ => mem_parents_reparent, reparent_flag_iff⟩

end File

namespace Sample

/-- A file in one folder. -/
def filed : File := ⟨memo, "memo", [], .ofList [docs]⟩

end Sample

namespace File

open Sample in
/-- The only parent is swapped for itself: the file is as it was, and yet there is something to save. -/
theorem not_reparent_exactly_filed :
    ¬ ((filed.reparent (some docs) docs).2 = true ↔
      (filed.reparent (some docs) docs).1.parents ≠ filed.parents) := by
  decide

end File

namespace MemoryStore

variable {s : MemoryStore} {file existing : File} {source : Option EntityId} {target : EntityId}

theorem find?_takeOut (s : MemoryStore) (file : File) (parent id : EntityId) :
    (s.takeOut file parent).contents.find? id =
      if file.id = id then
        if file.isElsewhere parent then some (.file { file with parents := file.parents.erase parent })
        else none
      else s.contents.find? id := by
  unfold takeOut
  split
  · exact Catalogue.find?_insert _ _ _
  · simp [discard]

/-- What is stored before the file is saved in its new place. -/
theorem takesIn_of_save {roomed : MemoryStore}
    (cleared : (roomed = s ∧ ∀ existing, ¬ s.contents.FirstNamesake file target existing) ∨
      ∃ existing, s.contents.FirstNamesake file target existing ∧ roomed = s.takeOut existing target) :
    s.TakesIn (roomed.save (.file (file.reparent source target).1)) file source target := by
  have find? (id : EntityId) : (roomed.save (.file (file.reparent source target).1)).contents.find? id =
      if file.id = id then some (.file (file.reparent source target).1)
      else roomed.contents.find? id := Catalogue.find?_insert _ _ _
  have moved : ∃ parents,
      (roomed.save (.file (file.reparent source target).1)).contents.file? file.id =
        some { file with parents } ∧
      ∀ x, x ∈ parents ↔ x ∈ file.parents ∧ source ≠ some x ∨ x = target := by
    refine ⟨(file.reparent source target).1.parents, ?_, fun x => ?_⟩
    · rw [Contents.file?_eq_some_iff, find?, if_pos rfl]
      rfl
    · rw [File.mem_parents_reparent, or_comm]
  -- At most two identifiers were written to: that of the file, and that of the one that had to leave.
  rcases cleared with ⟨rfl, alone⟩ | ⟨existing, first, rfl⟩
  · refine ⟨moved, fun existing first => absurd first (alone existing),
      fun existing first => absurd first (alone existing), fun id other _ => ?_, rfl⟩
    rw [find?, if_neg other.symm]
  · have gone : ((s.takeOut existing target).save (.file (file.reparent source target).1)).contents.find?
        existing.id = if existing.isElsewhere target then
          some (.file { existing with parents := existing.parents.erase target }) else none := by
      rw [find?, if_neg first.differs.symm, find?_takeOut, if_pos rfl]
    refine ⟨moved, fun existing' first' elsewhere => ?_, fun existing' first' only => ?_,
      fun id other spared => ?_, ?_⟩
    · cases first.unique first'
      rw [gone, if_pos (File.isElsewhere_iff.mpr elsewhere)]
    · cases first.unique first'
      rw [gone, File.isElsewhere_eq_false_iff.mpr only, if_neg (by simp)]
    · rw [find?, if_neg other.symm, find?_takeOut, if_neg (spared existing first).symm]
    · exact s.allows_takeOut existing target

/-- What is stored already changes nothing when it is saved. -/
theorem save_of_stored {entity : Entity} (stored : s.contents.find? entity.id = some entity) :
    s.save entity = s := by
  have contents : s.contents.insert entity = s.contents := by
    refine Catalogue.ext_find? fun id => ?_
    rw [Catalogue.find?_insert]
    split
    next here => rw [← here, stored]
    next => rfl
  unfold save
  rw [contents]

end MemoryStore

/-! ## One file -/

/-- What has become of a file that was to go from `source` to `target`. -/
inductive Desk.TakesIn (before : Desk (Cabinet τ)) (id : EntityId) (source : Option EntityId)
    (target : EntityId) (result : Except RequestError Unit) (ruling : Option Ruling)
    (after : Desk (Cabinet τ)) : Prop
  | stays (why : before.world.store.contents.file? id = none ∨ (∃ error, result = .error error) ∨
        (∃ r, ruling = some r ∧ r.verdict ≠ .overwrite) ∨ source = some target)
      (store : after.world.store = before.world.store)
      (report : ∃ warnings, after.report = { before.report with warnings })
  | enters {file} (stored : before.world.store.contents.file? id = some file)
      (succeeded : result = .ok ()) (goes : ∀ r, ruling = some r → r.verdict = .overwrite)
      (elsewhere : source ≠ some target)
      (takesIn : before.world.store.TakesIn after.world.store file source target)
      (failures : after.report.failures = before.report.failures)
      (cancelled : after.report.cancelled = before.report.cancelled)
      (filesMoved : after.report.tally.filesMoved = before.report.tally.filesMoved +
        if (file.reparent source target).2 then 1 else 0)

namespace Desk

variable {setup : Setup τ} {before roomed after : Desk (Cabinet τ)} {file : File} {id target : EntityId}
  {source : Option EntityId} {result : Except RequestError Unit} {ruling : Option Ruling}

/-- When a file may go on, nothing is in the way any more, and the file itself is where it was. -/
theorem Admits.cleared
    (admits : before.Admits setup file target (some file.id) (.ok true) ruling roomed) :
    ((roomed.world.store = before.world.store ∧
        ∀ existing, ¬ before.world.store.contents.FirstNamesake file target existing) ∨
      ∃ existing, before.world.store.contents.FirstNamesake file target existing ∧
        roomed.world.store = before.world.store.takeOut existing target) ∧
    roomed.world.store.contents.file? file.id = before.world.store.contents.file? file.id ∧
    ∃ warnings tally, roomed.report = { before.report with warnings, tally } ∧
      tally.filesMoved = before.report.tally.filesMoved := by
  cases admits with
  | free glanced alone =>
    refine ⟨.inl ⟨glanced.store, fun existing first => ?_⟩, by rw [glanced.store],
      _, _, by rw [glanced.report], rfl⟩
    cases alone.symm.trans (Contents.namesake?_eq_some_iff.mpr first)
  | @evicted existing _ _ found permitted about goes ruled store report =>
    have first := Contents.namesake?_eq_some_iff.mp found
    obtain ⟨warnings, report⟩ := report
    refine ⟨.inr ⟨existing, first, store⟩, ?_, warnings, _, report, rfl⟩
    rw [store, MemoryStore.file?_takeOut, if_neg first.differs]

theorem Moves.takesIn (moves : before.Moves setup id source target result ruling after) :
    before.TakesIn id source target result ruling after := by
  cases moves with
  | stays glanced idle =>
    exact .stays (idle.imp_right fun same => .inr (.inr same)) glanced.store ⟨_, by rw [glanced.report]⟩
  | refused glanced met => exact .stays (.inr (.inl ⟨_, rfl⟩)) glanced.store ⟨_, by rw [glanced.report]⟩
  | spared met admits =>
    cases admits with
    | spared found permitted about spares ruled store report =>
      exact .stays (.inr (.inr (.inl ⟨_, rfl, spares⟩))) store report
  | @entered file _ roomed _ elsewhere stored met admits relisted =>
    cases Contents.id_of_file? stored
    obtain ⟨cleared, here, warnings, tally, report, count⟩ := admits.cleared
    have takesIn : before.world.store.TakesIn
        (roomed.world.store.save (.file (file.reparent source target).1)) file source target :=
      MemoryStore.takesIn_of_save cleared
    -- A file whose parents stay is not saved again, which leaves the same behind as saving it.
    rcases relisted with ⟨unchanged, rfl⟩ | ⟨changes, wrote, _⟩
    · have same := File.reparent_of_unchanged unchanged
      have saved : after.world.store.save (.file file) = after.world.store :=
        MemoryStore.save_of_stored (Contents.file?_eq_some_iff.mp (here.trans stored))
      rw [same, saved] at takesIn
      refine .enters stored rfl admits.goes elsewhere takesIn (by rw [report]) (by rw [report]) ?_
      rw [unchanged, report]
      exact count
    · rw [← wrote.store] at takesIn
      refine .enters stored rfl admits.goes elsewhere takesIn (by rw [wrote.report, report])
        (by rw [wrote.report, report]) ?_
      rw [changes, wrote.report, report]
      exact congrArg (· + 1) count

end Desk

/-! ## One path -/

theorem Action.item_apply {σ : Type} (job : Job σ) (work : Action σ Unit) (desk : Desk σ) :
    Action.item job work desk = (work desk).map fun outcome => (.ok (), { outcome.2 with
      report := Request.reportAfter outcome.2.report outcome.1
      world := (job.step.run outcome.2.world).2 }) := by
  unfold Action.item
  rw [bind_apply, settle_apply]
  cases work desk with
  | none => rfl
  | some outcome =>
    obtain ⟨result, after⟩ := outcome
    cases result with
    | ok _ => rfl
    | error _ => rfl

/-- The only path of a request is worked on, unless the request is cancelled before. -/
theorem Order.run_only {setup : Setup τ} (reliable : setup.Reliable) {order : Order} {path : Path}
    (only : order.paths = [path]) (depth : Nat) (cabinet : Cabinet τ) :
    order.run setup.host depth cabinet =
      if (setup.host.job.isCancelled.run (order.opened setup cabinet).world).1 then
        some (.ok ((order.opened setup cabinet).asked setup.host.job).leftOff.report,
          (setup.host.job.pop.run ((order.opened setup cabinet).asked setup.host.job).world).2)
      else (order.work setup.host depth cabinet.store.contents path
          ((order.opened setup cabinet).asked setup.host.job)).map fun outcome =>
        (.ok (Request.reportAfter outcome.2.report outcome.1),
          (setup.host.job.pop.run (setup.host.job.step.run outcome.2.world).2).2) := by
  rw [run_eq reliable, only, Request.workOff_cons]
  split
  · rfl
  · rw [Action.bind_apply, Action.item_apply]
    cases order.work setup.host depth cabinet.store.contents path
        ((order.opened setup cabinet).asked setup.host.job) with
    | none => rfl
    | some outcome => rfl

namespace Request

/-- Why a file that was to go into a folder is left alone: it was not even begun, there is none, it
failed, or another file stays where it would have to go. Last, it may come from there. -/
def LeavesAlone (c : Contents) (id : EntityId) (source : Option EntityId) (target : EntityId)
    (report : Report) (ruling : Option Ruling) : Prop :=
  report.cancelled = true ∨ c.file? id = none ∨ report.failures ≠ [] ∨
    (∃ r, ruling = some r ∧ r.verdict ≠ .overwrite) ∨ source = some target

/-- What a request to move one file into a folder comes to. The collision that is met, if there is one,
is ruled on by what is answered. -/
structure TakesIn (setup : Setup τ) (request : Request) (id : EntityId) (source : Option EntityId)
    (target : EntityId) (cabinet : Cabinet τ) (report : Report) (after : Cabinet τ)
    (ruling : Option Ruling) : Prop where
  met : ruling.map Ruling.collision =
    if report.cancelled then none else (Errand.move id source target).collision? cabinet.store
  quiet : request.interactive = false → ∀ r, ruling = some r → r.asked = none ∧ r.verdict = .keep
  asked : request.interactive = true → ∀ r, ruling = some r →
    ∃ answer, r.asked = some answer ∧ r.verdict = .told answer
  heard : setup.Hears cabinet.around (ruling.toList.filterMap Ruling.answered?) after.around
  stays : LeavesAlone cabinet.store.contents id source target report ruling →
    after.store = cabinet.store
  enters : ¬ LeavesAlone cabinet.store.contents id source target report ruling →
    ∃ file, cabinet.store.contents.file? id = some file ∧
      cabinet.store.TakesIn after.store file source target
  once : report.tally.filesMoved ≤ 1
  counted : report.tally.filesMoved = 1 ↔ (after.store.contents.file? id).map File.parents ≠
    (cabinet.store.contents.file? id).map File.parents

variable {setup : Setup τ} {request : Request} {id target : EntityId} {source : Option EntityId}

/-- A file that has gone where it should counts as moved if other folders list it now. -/
theorem counted_of_takesIn {before after : MemoryStore} {file : File}
    (takesIn : before.TakesIn after file source target)
    (stored : before.contents.file? file.id = some file) (elsewhere : source ≠ some target) :
    (file.reparent source target).2 = true ↔ (after.contents.file? file.id).map File.parents ≠
      (before.contents.file? file.id).map File.parents := by
  obtain ⟨parents, moved, members⟩ := takesIn.moved
  have same : (file.reparent source target).1.parents = parents := by
    refine IdSet.ext fun x => ?_
    rw [File.mem_parents_reparent, members, or_comm]
  rw [File.reparent_changes_iff elsewhere, same, moved, stored]
  simp

/-- The report and the store of a path that was worked on. -/
theorem takesIn_of_desk {begun ended : Desk (Cabinet τ)} {result : Except RequestError Unit}
    {ruling : Option Ruling} (takesIn : begun.TakesIn id source target result ruling ended)
    (fresh : begun.report.failures = [] ∧ begun.report.cancelled = false ∧
      begun.report.tally.filesMoved = 0) :
    let report := reportAfter ended.report result
    report.cancelled = false ∧
    (LeavesAlone begun.world.store.contents id source target report ruling →
      ended.world.store = begun.world.store) ∧
    (¬ LeavesAlone begun.world.store.contents id source target report ruling →
      ∃ file, begun.world.store.contents.file? id = some file ∧
        begun.world.store.TakesIn ended.world.store file source target) ∧
    report.tally.filesMoved ≤ 1 ∧
    (report.tally.filesMoved = 1 ↔ (ended.world.store.contents.file? id).map File.parents ≠
      (begun.world.store.contents.file? id).map File.parents) := by
  obtain ⟨unfailing, uncancelled, unmoved⟩ := fresh
  intro report
  have sameCancelled : report.cancelled = ended.report.cancelled := by cases result <;> rfl
  have sameTally : report.tally = ended.report.tally := by cases result <;> rfl
  rw [sameCancelled, sameTally]
  cases takesIn with
  | stays why store same =>
    obtain ⟨warnings, same⟩ := same
    have left : LeavesAlone begun.world.store.contents id source target report ruling := by
      rcases why with missing | ⟨error, rfl⟩ | spared | there
      · exact .inr (.inl missing)
      · exact .inr (.inr (.inl (by simp [report, reportAfter])))
      · exact .inr (.inr (.inr (.inl spared)))
      · exact .inr (.inr (.inr (.inr there)))
    refine ⟨by rw [same, uncancelled], fun _ => store, fun goes => absurd left goes, ?_, ?_⟩
    · simp [same, unmoved]
    · simp [same, unmoved, store]
  | @enters file stored succeeded goes elsewhere takesIn failures cancelled filesMoved =>
    cases Contents.id_of_file? stored
    subst succeeded
    -- None of the reasons to leave a file alone holds of one that has entered.
    have goesOn : ¬ LeavesAlone begun.world.store.contents file.id source target report ruling := by
      rintro (stopped | missing | failed | ⟨r, ruled, spares⟩ | there)
      · rw [sameCancelled, cancelled, uncancelled] at stopped
        cases stopped
      · simp [stored] at missing
      · exact failed (failures.trans unfailing)
      · exact spares (goes r ruled)
      · exact elsewhere there
    rw [filesMoved, unmoved, ← counted_of_takesIn takesIn stored elsewhere]
    refine ⟨by rw [cancelled, uncancelled], fun left => absurd left goesOn,
      fun _ => ⟨file, stored, takesIn⟩, ?_, ?_⟩
    · split <;> omega
    · split
      next changes => simp [changes]
      next unchanged => simp [unchanged]

/-- Before its only path is worked on, a request is sorted, and the job is told how many paths there are
and asked whether it was cancelled. -/
structure Begun (setup : Setup τ) (request : Request) (cabinet : Cabinet τ) (desk : Desk (Cabinet τ)) :
    Prop where
  store : desk.world.store = cabinet.store
  heard : setup.Hears cabinet.around [] desk.world.around
  interactive : desk.interactive = request.interactive
  remembered : desk.remembered = none
  fresh : desk.report.failures = [] ∧ desk.report.cancelled = false ∧ desk.report.tally.filesMoved = 0

theorem begun_asked (setup : Setup τ) (request : Request) (cabinet : Cabinet τ) :
    request.Begun setup cabinet (((Order.plan request).opened setup cabinet).asked setup.host.job) := by
  obtain ⟨sameStore, drift⟩ := Order.drift_sorted setup (.plan request) cabinet
  exact ⟨sameStore, (Setup.Hears.of_drift drift).append (.turn (.push _) (.turn .isCancelled (.done _))),
    rfl, rfl, rfl, rfl, rfl⟩

theorem work_file {c : Contents} (bulk : request.modeIn c = .bulk)
    (destination : request.destination = .ofFolder target) (host : Host (Cabinet τ)) (depth : Nat) :
    (Order.plan request).work host depth c ⟨source, some id⟩ = Action.moveFile host id source target := by
  unfold Order.work Order.rules Order.request
  dsimp only
  rw [bulk, destination]
  rfl

/-- A request to move one file into a folder ends. Unless there is a reason to leave the file alone, it
exchanges its old folder for the new one, and at most one file there has to leave. -/
theorem plan_takesIn (reliable : setup.Reliable) {folder : Folder} {cabinet : Cabinet τ}
    (only : request.paths = [⟨source, some id⟩]) (destination : request.destination = .ofFolder target)
    (there : cabinet.store.contents.folder? target = some folder) (depth : Nat) :
    ∃ report after ruling, request.plan setup.host depth cabinet = some (.ok report, after) ∧
      request.TakesIn setup id source target cabinet report after ruling := by
  have onlyPath : (Order.plan request).paths = [⟨source, some id⟩] := only
  have ran := Order.run_only reliable onlyPath depth cabinet
  rw [work_file (bulk_of_destination destination ⟨folder, there⟩) destination] at ran
  have begun := begun_asked setup request cabinet
  generalize ((Order.plan request).opened setup cabinet).asked setup.host.job = desk at ran begun
  split at ran
  -- If the job is cancelled before the path, nothing is met at all.
  · refine ⟨_, _, none, ran, ?_⟩
    have left : LeavesAlone cabinet.store.contents id source target desk.leftOff.report none := .inl rfl
    refine ⟨rfl, by simp, by simp, ?_, fun _ => begun.store, fun goes => absurd left goes, ?_, ?_⟩
    · exact begun.heard.append (.turn .pop (.done _))
    · exact begun.fresh.2.2.le.trans (Nat.zero_le 1)
    · have same : (setup.host.job.pop.run desk.world).2.store = cabinet.store := begun.store
      simp [same, Desk.leftOff, begun.fresh.2.2]
  · obtain ⟨⟨result, ended⟩, moved⟩ := Action.returns_moveFile id source target desk
    obtain ⟨ruling, moves⟩ := Action.moves_moveFile reliable id source target result ended moved
    rw [moved] at ran
    refine ⟨_, _, ruling, ran, ?_⟩
    have rules := moves.rules
    have orderly := rules.ruled.orderly
    rw [begun.interactive, begun.remembered] at orderly
    obtain ⟨uncancelled, stays, enters, once, counted⟩ := takesIn_of_desk moves.takesIn begun.fresh
    rw [begun.store] at stays enters counted
    refine ⟨?_, fun quiet r ruled => ?_, fun asks r ruled => ?_, ?_, stays, enters, once, counted⟩
    · rw [uncancelled, if_neg (by simp), rules.met, begun.store]
    · exact orderly.protocol.quiet quiet r (by simp [ruled])
    · exact orderly.protocol.asked asks [] r [] (by simp [ruled]) (by simp)
    · have heard := (begun.heard.append rules.ruled.around).append
        (.turn .step (.turn .pop (.done _)))
      rwa [List.nil_append, List.append_nil] at heard

end Request

namespace Sample

/-- Takes a file to where another one has its name. -/
def takeNew : Request :=
  { paths := [.ofFile note new], destination := .ofFolder inside, interactive := true }

end Sample

open Sample in
theorem Request.plan_takesIn_rivals : ∃ report after,
    takeNew.plan agreeing.host 0 ⟨rivals, [], []⟩ = some (.ok report, after) ∧
    rivals.TakesIn after.store ⟨new, "memo", [1], .ofList [note]⟩ (some note) inside ∧
    after.store.contents.find? old = none ∧ report.tally.filesMoved = 1 := by
  have there : rivals.contents.folder? inside = some ⟨inside, "note", some docs⟩ := by decide
  have here : rivals.contents.file? new = some ⟨new, "memo", [1], .ofList [note]⟩ := by decide
  have went : ((takeNew.plan agreeing.host 0 ⟨rivals, [], []⟩).map fun outcome =>
      (outcome.2.store.contents.find? old, (outcome.2.store.contents.file? new).map File.parents)) =
      some (none, some (.ofList [inside])) := by decide +kernel
  obtain ⟨report, after, ruling, ran, takesIn⟩ : ∃ report after ruling,
      takeNew.plan agreeing.host 0 ⟨rivals, [], []⟩ = some (.ok report, after) ∧
        takeNew.TakesIn agreeing new (some note) inside ⟨rivals, [], []⟩ report after ruling :=
    plan_takesIn agreeing_reliable rfl rfl there 0
  rw [ran, Option.map_some, Option.some.injEq] at went
  obtain ⟨gone, listed⟩ := Prod.mk.inj went
  have goesOn : ¬ LeavesAlone rivals.contents new (some note) inside report ruling := by
    intro left
    rw [takesIn.stays left] at gone
    exact absurd gone (by decide)
  obtain ⟨file, stored, entered⟩ := takesIn.enters goesOn
  cases here.symm.trans stored
  refine ⟨report, after, ran, entered, gone, takesIn.counted.mpr ?_⟩
  rw [listed, stored]
  decide

end Filing
