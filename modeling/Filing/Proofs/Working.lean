import Filing.Proofs.Deleting
import Filing.Proofs.Lasting
import Filing.Proofs.Nesting
import Filing.Proofs.Sparing

/-!
# Path by path

A request works on its paths one after another (`Order.run_eq`), and before each of them its job is
asked. So some of them were worked on (`Request.WorkedOff`), and the rest is left either to be worked on
as if it were all (`Request.WorkedOff.workOff_append`) or, once the job has been cancelled, for good
(`Request.WorkedOff.workOff_cancelled`).

What is done with a path depends on what kind of request it is for, but not on the other paths: into a
folder goes whatever is named (`Order.run_about`).
-/
namespace Filing

variable {σ τ : Type}

/-- The desk after the job was asked whether it was cancelled. -/
def Desk.asked (job : Job σ) (desk : Desk σ) : Desk σ :=
  { desk with world := (job.isCancelled.run desk.world).2 }

namespace Request

variable {host : Host σ} {work : Path → Action σ Unit} {path : Path}
  {paths done rest later : List Path}
  {desk between last : Desk σ} {result : Except RequestError Unit}

/-- Before each path the job is asked. -/
theorem workOff_cons (path : Path) (later : List Path) (desk : Desk σ) :
    workOff host work (path :: later) desk =
      if (host.job.isCancelled.run desk.world).1 then some (.ok (), (desk.asked host.job).leftOff)
      else (Action.item host.job (work path) >>= fun _ => workOff host work later)
        (desk.asked host.job) := by
  have told : Action.turn host.job.isCancelled desk =
      some (.ok (host.job.isCancelled.run desk.world).1, desk.asked host.job) := rfl
  rw [workOff, Action.bind_apply, told]
  cases (host.job.isCancelled.run desk.world).1 with
  | true => rfl
  | false => rfl

/-! ## Paths that were worked on -/

/-- The paths were worked on in order, and before each of them the job had not been cancelled. -/
inductive WorkedOff (host : Host σ) (work : Path → Action σ Unit) :
    List Path → Desk σ → Desk σ → Prop
  | done (desk : Desk σ) : WorkedOff host work [] desk desk
  | next {path : Path} {later : List Path} {desk between last : Desk σ}
      (goesOn : (host.job.isCancelled.run desk.world).1 = false)
      (item : Action.item host.job (work path) (desk.asked host.job) = some (.ok (), between))
      (rest : WorkedOff host work later between last) :
      WorkedOff host work (path :: later) desk last

/-- After the first item, the others are left. -/
theorem workOff_next (goesOn : (host.job.isCancelled.run desk.world).1 = false)
    (item : Action.item host.job (work path) (desk.asked host.job) = some (.ok (), between)) :
    workOff host work (path :: later) desk = workOff host work later between := by
  rw [workOff_cons, goesOn, if_neg (by decide), Action.bind_apply, item]
  rfl

namespace WorkedOff

theorem split (worked : WorkedOff host work (done ++ rest) desk last) :
    ∃ between, WorkedOff host work done desk between ∧ WorkedOff host work rest between last := by
  induction done generalizing desk with
  | nil => exact ⟨desk, .done desk, worked⟩
  | cons path later ih =>
    cases worked with
    | next goesOn item worked =>
      obtain ⟨between, first, second⟩ := ih worked
      exact ⟨between, .next goesOn item first, second⟩

/-- What is left is worked on as if it were all. -/
theorem workOff_append (worked : WorkedOff host work done desk between) (rest : List Path) :
    workOff host work (done ++ rest) desk = workOff host work rest between := by
  induction worked with
  | done _ => rfl
  | next goesOn item _ ih => exact (workOff_next goesOn item).trans ih

theorem workOff (worked : WorkedOff host work done desk last) :
    Request.workOff host work done desk = some (.ok (), last) := by
  have none := worked.workOff_append []
  rwa [List.append_nil] at none

/-- Once the job has been cancelled, nothing more is begun. -/
theorem workOff_cancelled (worked : WorkedOff host work done desk between)
    (cancelled : (host.job.isCancelled.run between.world).1 = true) (left : rest ≠ []) :
    Request.workOff host work (done ++ rest) desk =
      some (.ok (), (between.asked host.job).leftOff) := by
  rw [worked.workOff_append]
  cases rest with
  | nil => exact absurd rfl left
  | cons path later => rw [workOff_cons, cancelled, if_pos rfl]

end WorkedOff

/-- Either all paths are worked on, or the job has been cancelled before one of them. -/
theorem workOff_cases (ran : workOff host work paths desk = some (result, last)) :
    WorkedOff host work paths desk last ∨ ∃ done rest between, paths = done ++ rest ∧ rest ≠ [] ∧
      WorkedOff host work done desk between ∧ (host.job.isCancelled.run between.world).1 = true := by
  induction paths generalizing desk with
  | nil =>
    cases ran
    exact .inl (.done last)
  | cons path later ih =>
    cases goesOn : (host.job.isCancelled.run desk.world).1 with
    | true => exact .inr ⟨[], path :: later, desk, rfl, List.cons_ne_nil _ _, .done desk, goesOn⟩
    | false =>
      have began := ran
      rw [workOff_cons, goesOn, if_neg (by decide), Action.bind_apply, Option.bind_eq_some_iff] at began
      obtain ⟨⟨ended, between⟩, item, _⟩ := began
      -- Failures are settled within an item.
      cases meets_item _ _ _ _ _ item
      rw [workOff_next goesOn item] at ran
      rcases ih ran with worked | ⟨done, rest, last, rfl, left, worked, cancelled⟩
      · exact .inl (.next goesOn item worked)
      · exact .inr ⟨path :: done, rest, last, rfl, left, .next goesOn item worked, cancelled⟩

/-- If nothing has been left out, all paths were worked on. -/
theorem workedOff_of_whole (ran : workOff host work paths desk = some (result, last))
    (whole : last.report.cancelled = false) : WorkedOff host work paths desk last := by
  rcases workOff_cases ran with worked | ⟨done, rest, between, rfl, left, worked, cancelled⟩
  · exact worked
  · cases (worked.workOff_cancelled cancelled left).symm.trans ran
    cases whole

/-- With a store that answers, a request is sorted by what is stored. -/
theorem classify_eq {setup : Setup τ} (reliable : setup.Reliable) (request : Request)
    (cabinet : Cabinet τ) : (request.classify setup.host).run cabinet =
      (.ok (request.modeIn cabinet.store.contents), ((request.classify setup.host).run cabinet).2) := by
  obtain ⟨told, around, extra, went, _, _, ended⟩ :=
    peeks_classify setup cabinet.store request cabinet rfl
  rcases ended with rfl | ⟨error, rfl, canFail, _⟩
  · rw [went]
  · exact absurd canFail reliable

/-- All paths are one level of the job. -/
theorem workAll_apply (host : Host σ) (depth : Nat) (operation : Operation) (mode : Mode)
    (request : Request) (desk : Desk σ) : workAll host depth operation mode request desk =
      (workOff host (workOn host depth operation mode request.destination) request.paths
        { desk with world := ((host.job.push request.paths.length).run desk.world).2 }).map
        fun outcome => (.ok (),
          { outcome.2 with world := (host.job.pop.run outcome.2.world).2 }) := by
  generalize begun : ({ desk with
    world := ((host.job.push request.paths.length).run desk.world).2 } : Desk σ) = pushed
  have told : Action.turn (host.job.push request.paths.length) desk = some (.ok (), pushed) :=
    begun ▸ rfl
  unfold workAll Action.inLevel
  rw [Action.bind_apply, told, Option.bind_some]
  dsimp only
  rw [Action.bind_apply]
  cases worked : workOff host (workOn host depth operation mode request.destination) request.paths
      pushed with
  | none => rfl
  | some outcome =>
    obtain ⟨result, last⟩ := outcome
    cases meets_workOff _ _ _ _ _ _ worked
    rfl

end Request

namespace Order

/-- The request as such. -/
def request : Order → Request
  | plan request => request
  | copy request => request
  | delete paths => { paths, destination := .nowhere, interactive := false }

/-- The same request for other paths. -/
def about (paths : List Path) : Order → Order
  | plan request => plan { request with paths }
  | copy request => copy { request with paths }
  | delete _ => delete paths

/-- What is done with each path while these contents are worked on. -/
def work (host : Host σ) (depth : Nat) (c : Contents) (order : Order) (path : Path) :
    Action σ Unit :=
  Request.workOn host depth (order.rules c).operation (order.rules c).mode order.request.destination path

/-- Before any work, the request is sorted. -/
def sorted (host : Host σ) (world : σ) : Order → σ
  | plan request => ((request.classify host).run world).2
  | copy request => ((request.classify host).run world).2
  | delete _ => world

/-- The desk on which the first path is begun: the request has been sorted, and the job knows how many
paths there are. -/
def opened (setup : Setup τ) (order : Order) (cabinet : Cabinet τ) : Desk (Cabinet τ) where
  world := ((setup.host.job.push order.paths.length).run (order.sorted setup.host cabinet)).2
  interactive := (order.rules cabinet.store.contents).interactive
  remembered := none
  report :=
    { operation := (order.rules cabinet.store.contents).operation
      mode := (order.rules cabinet.store.contents).mode }

variable {setup : Setup τ} {depth : Nat} {order : Order} {cabinet : Cabinet τ}

/-- A request comes to what has come of its paths. -/
theorem run_eq (reliable : setup.Reliable) (order : Order) (depth : Nat) (cabinet : Cabinet τ) :
    order.run setup.host depth cabinet =
      (Request.workOff setup.host (order.work setup.host depth cabinet.store.contents) order.paths
        (order.opened setup cabinet)).map fun outcome =>
          (.ok outcome.2.report, (setup.host.job.pop.run outcome.2.world).2) := by
  -- To sort the request is to look, and the look cannot fail.
  have classified (operation : Operation) (request : Request) :
      request.classifyAndRun setup.host depth operation cabinet =
        (request.run setup.host depth operation (request.modeIn cabinet.store.contents)
          ((request.classify setup.host).run cabinet).2).map fun outcome => (.ok outcome.1, outcome.2) := by
    unfold Request.classifyAndRun
    rw [Request.classify_eq reliable]
    exact Option.map_eq_bind.symm
  cases order with
  | plan request =>
    refine (classified .move request).trans ?_
    rw [Request.run_eq, Request.workAll_apply, Option.map_map, Option.map_map]
    rfl
  | copy request =>
    refine (classified .copy request).trans ?_
    rw [Request.run_eq, Request.workAll_apply, Option.map_map, Option.map_map]
    rfl
  | delete paths =>
    have deleted : (delete paths).run setup.host depth cabinet =
        (Request.run setup.host depth .delete .bulk (delete paths).request cabinet).bind
          (some ∘ fun outcome => (.ok outcome.1, outcome.2)) := rfl
    rw [deleted, ← Option.map_eq_bind, Request.run_eq, Request.workAll_apply, Option.map_map,
      Option.map_map]
    rfl

/-! ## The same request for other paths -/

@[simp] theorem paths_about (paths : List Path) (order : Order) : (order.about paths).paths = paths := by
  cases order with
  | plan request => rfl
  | copy request => rfl
  | delete _ => rfl

@[simp] theorem destination_about (paths : List Path) (order : Order) :
    (order.about paths).request.destination = order.request.destination := by
  cases order with
  | plan request => rfl
  | copy request => rfl
  | delete _ => rfl

theorem about_about (paths later : List Path) (order : Order) :
    (order.about paths).about later = order.about later := by
  cases order with
  | plan request => rfl
  | copy request => rfl
  | delete _ => rfl

theorem about_paths (order : Order) : order.about order.paths = order := by
  cases order with
  | plan request => rfl
  | copy request => rfl
  | delete _ => rfl

/-- Into a folder goes whatever is named. -/
theorem rules_about {c : Contents} (bulk : (order.rules c).mode = .bulk) (paths : List Path) :
    (order.about paths).rules c = order.rules c := by
  have sorted {request : Request} (bulk : request.modeIn c = .bulk) :
      Request.modeIn { request with paths } c = request.modeIn c := by
    obtain ⟨target, destination, stored⟩ := Request.destination_of_bulk bulk
    rw [bulk]
    exact Request.bulk_of_destination destination stored
  cases order with
  | plan request => exact congrArg (Rules.mk .move · request.interactive) (sorted bulk)
  | copy request => exact congrArg (Rules.mk .copy · request.interactive) (sorted bulk)
  | delete _ => rfl

theorem rules_of_about {c : Contents} {paths : List Path}
    (bulk : ((order.about paths).rules c).mode = .bulk) :
    order.rules c = (order.about paths).rules c := by
  have same := rules_about bulk order.paths
  rwa [about_about, about_paths] at same

theorem work_about {c : Contents} (bulk : (order.rules c).mode = .bulk) (paths : List Path) :
    (order.about paths).work setup.host depth c = order.work setup.host depth c := by
  funext path
  unfold work
  rw [rules_about bulk, destination_about]

/-- The look at the destination does not depend on the paths. -/
theorem sorted_about {c : Contents} (bulk : (order.rules c).mode = .bulk) (paths : List Path)
    (cabinet : Cabinet τ) :
    (order.about paths).sorted setup.host cabinet = order.sorted setup.host cabinet := by
  have sorted {request : Request} (bulk : request.modeIn c = .bulk) :
      Request.classify setup.host { request with paths } = request.classify setup.host := by
    obtain ⟨target, destination, _⟩ := Request.destination_of_bulk bulk
    simp only [Request.classify, destination, Path.ofFolder]
  cases order with
  | plan request => exact congrArg (fun c => (c.run cabinet).2) (sorted bulk)
  | copy request => exact congrArg (fun c => (c.run cabinet).2) (sorted bulk)
  | delete _ => rfl

theorem run_about (reliable : setup.Reliable) (bulk : (order.rules cabinet.store.contents).mode = .bulk)
    (paths : List Path) (depth : Nat) : (order.about paths).run setup.host depth cabinet =
      (Request.workOff setup.host (order.work setup.host depth cabinet.store.contents) paths
        ((order.about paths).opened setup cabinet)).map fun outcome =>
          (.ok outcome.2.report, (setup.host.job.pop.run outcome.2.world).2) := by
  rw [run_eq reliable, work_about bulk, paths_about]

/-! ## What the paths have to do with it -/

theorem drift_sorted (setup : Setup τ) (order : Order) (cabinet : Cabinet τ) :
    (order.sorted setup.host cabinet).store = cabinet.store ∧
      setup.faults.Drift cabinet.around (order.sorted setup.host cabinet).around := by
  have sorted (request : Request) : ((request.classify setup.host).run cabinet).2.store = cabinet.store ∧
      setup.faults.Drift cabinet.around ((request.classify setup.host).run cabinet).2.around := by
    obtain ⟨_, _, _, went, drift, _⟩ := Request.peeks_classify setup cabinet.store request cabinet rfl
    rw [went]
    exact ⟨rfl, drift⟩
  cases order with
  | plan request => exact sorted request
  | copy request => exact sorted request
  | delete _ => exact ⟨rfl, .refl⟩

theorem record_opened {record : τ → List Answered} (records : setup.Records record) (order : Order)
    (cabinet : Cabinet τ) :
    record (order.opened setup cabinet).world.around = record cabinet.around :=
  (records.turn (.push _)).trans (records.drift (drift_sorted setup order cabinet).2)

/-- The items leave alone what kind of request it is. -/
theorem rules_worked {c : Contents} {paths : List Path} {desk last : Desk (Cabinet τ)}
    (bulk : (order.rules c).mode = .bulk)
    (worked : Request.WorkedOff setup.host (order.work setup.host depth c) paths desk last)
    (begun : desk.rules = order.rules c) : last.rules = order.rules c := by
  have traces : Action.Traces (order.rules c)
      (Request.workOff setup.host (order.work setup.host depth c) paths) :=
    .workOff fun path _ => Request.traces_workOn depth _ path fun _ single => by simp [bulk] at single
  exact (traces desk begun _ _ worked.workOff).rules.trans begun

/-- In well-formed contents, whatever goes into a folder or is deleted comes to an end. -/
theorem returns_of_bulk (reliable : setup.Reliable) (wf : cabinet.store.contents.WellFormed)
    (bulk : (order.rules cabinet.store.contents).mode = .bulk) :
    ∃ enough, ∀ depth, enough ≤ depth →
      ∃ report after, order.run setup.host depth cabinet = some (.ok report, after) := by
  cases order with
  | plan request =>
    exact ⟨_, fun depth enough => Request.plan_returns reliable bulk wf.loopFree enough⟩
  | copy request =>
    obtain ⟨_, result, after, reports, ends⟩ := Request.comes_to_an_end setup request cabinet wf
    obtain ⟨report, rfl⟩ := reports reliable
    exact ⟨_, fun depth enough => ⟨report, after, ends depth enough⟩⟩
  | delete paths =>
    refine ⟨cabinet.store.contents.folders.ncard + 1, fun depth enough => ?_⟩
    have straight (id : EntityId) : ¬ cabinet.store.Circular id :=
      MemoryStore.not_circular_of_loopFree wf.loopFree id
    obtain ⟨report, after, ran⟩ :=
      Request.delete_returns (fun id (_ : .ofFolder id ∈ paths) => straight id) enough
    exact ⟨report, after, Option.bind_eq_some_iff.mpr ⟨_, ran, rfl⟩⟩

end Order

end Filing
