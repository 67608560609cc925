import Filing.Proofs.Renaming

/-!
# Requests

A request first takes a look at its destination (`classifyAndRun_cases`) and then works on its paths.
Except where a folder gets a new identifier, all of that is traced (`traces_workAll`).
-/
namespace Filing.Request

variable {σ τ : Type}

/-- The work on all paths. -/
def workAll (host : Host σ) (depth : Nat) (operation : Operation) (mode : Mode) (request : Request) :
    Action σ Unit :=
  Action.inLevel host.job request.paths.length
    (workOff host (workOn host depth operation mode request.destination) request.paths)

/-- The desk on which the work begins. -/
def desk (operation : Operation) (mode : Mode) (request : Request) (world : σ) : Desk σ where
  world
  interactive := request.interactive
  remembered := none
  report := { operation, mode }

/-- The request that takes one folder to a destination, and nobody is asked. -/
def taking (folder : EntityId) (destination : Path) : Request where
  paths := [.ofFolder folder]
  destination
  interactive := false

theorem run_eq (host : Host σ) (depth : Nat) (operation : Operation) (mode : Mode)
    (request : Request) (world : σ) :
    run host depth operation mode request world =
      (workAll host depth operation mode request (request.desk operation mode world)).map
        fun outcome => (outcome.2.report, outcome.2.world) := by
  unfold run
  change (workAll host depth operation mode request (request.desk operation mode world)).bind _ = _
  cases workAll host depth operation mode request (request.desk operation mode world) with
  | none => rfl
  | some outcome => rfl

/-- A report tells what the work has come to. -/
theorem work_of_run {host : Host σ} {depth : Nat} {operation : Operation} {mode : Mode}
    {request : Request} {world after : σ} {report : Report}
    (ran : run host depth operation mode request world = some (report, after)) :
    ∃ result desk, workAll host depth operation mode request (request.desk operation mode world) =
      some (result, desk) ∧ desk.report = report ∧ desk.world = after := by
  rw [run_eq, Option.map_eq_some_iff] at ran
  obtain ⟨⟨result, desk⟩, worked, same⟩ := ran
  cases same
  exact ⟨result, desk, worked, rfl, rfl⟩

/-- A request fails where it cannot be sorted, and otherwise comes to what the work on it does. -/
theorem work_of_classified {host : Host σ} {depth : Nat} {operation : Operation} {request : Request}
    {world after : σ} {result : Except RequestError Report}
    (ran : request.classifyAndRun host depth operation world = some (result, after)) :
    (∃ error, (request.classify host).run world = (.error error, after) ∧
      result = .error (.storage (some error))) ∨
    ∃ mode begun ended desk, (request.classify host).run world = (.ok mode, begun) ∧
      workAll host depth operation mode request (request.desk operation mode begun) =
        some (ended, desk) ∧ result = .ok desk.report ∧ desk.world = after := by
  unfold classifyAndRun at ran
  split at ran
  next error later told =>
    cases ran
    exact .inl ⟨error, told, rfl⟩
  next mode begun told =>
    obtain ⟨⟨report, _⟩, ran, same⟩ := Option.bind_eq_some_iff.mp ran
    cases same
    obtain ⟨ended, desk, worked, rfl, rfl⟩ := work_of_run ran
    exact .inr ⟨mode, begun, ended, desk, told, worked, rfl, rfl⟩

/-- The failure of an item goes into the report. -/
theorem meets_item (job : Job σ) (work : Action σ Unit) (desk : Desk σ) :
    (Action.item job work).Meets desk fun result _ => result = .ok () := by
  have settled : (Action.settle work).Meets desk fun result _ => result = .ok () :=
    .settle (fun _ _ _ => trivial : work.Meets desk fun _ _ => True) (fun _ _ => rfl) fun _ _ _ => rfl
  refine settled.bind (fun _ after _ => ?_) fun _ _ failed => failed
  exact (Action.meets_told job.step after).mono fun _ _ told => told.1

theorem meets_workOff (host : Host σ) (work : Path → Action σ Unit) (paths : List Path)
    (desk : Desk σ) : (workOff host work paths).Meets desk fun result _ => result = .ok () := by
  induction paths generalizing desk with
  | nil => exact .pure rfl
  | cons path later ih =>
    unfold workOff
    refine (Action.meets_told host.job.isCancelled desk).bind (fun cancelled asked _ => ?_)
      (by rintro _ _ ⟨⟨⟩, _⟩)
    split
    · exact .modify rfl
    · exact (meets_item host.job (work path) asked).bind (fun _ after _ => ih after)
        fun _ _ failed => failed

/-- The failure of an item never ends the work on a request. -/
theorem meets_workAll {setup : Setup τ} {depth : Nat} {operation : Operation} {mode : Mode}
    {request : Request} (desk : Desk (Cabinet τ)) :
    (workAll setup.host depth operation mode request).Meets desk fun result _ => result = .ok () := by
  -- Nothing that is told to the job can fail.
  have turns (action : StateM (Cabinet τ) Unit) (desk : Desk (Cabinet τ)) :
      (Action.turn action).Meets desk fun result _ => result = .ok () :=
    (Action.meets_told action desk).mono fun _ _ told => told.1
  refine (turns (setup.host.job.push _) desk).bind (fun _ pushed _ => ?_) fun _ _ failed => failed
  refine (meets_workOff setup.host _ request.paths pushed).bind (fun _ worked _ => ?_)
    fun _ _ failed => failed
  exact turns setup.host.job.pop worked

/-- A report after its only item has ended like this. -/
def reportAfter (report : Report) : Except RequestError Unit → Report
  | .ok _ => report
  | .error error => { report with failures := report.failures ++ [error] }

/-- It has not failed, and `post` holds of every desk with this store and this report. -/
def HoldsAlike (post : Except RequestError Unit → Desk (Cabinet τ) → Prop)
    (result : Except RequestError Unit) (after : Desk (Cabinet τ)) : Prop :=
  result = .ok () ∧ ∀ final, final.world.store = after.world.store → final.report = after.report →
    post (.ok ()) final

/-- A turn to the job changes neither the store nor the report. -/
theorem meets_thenTurn {post : Except RequestError Unit → Desk (Cabinet τ) → Prop}
    {work : Action (Cabinet τ) Unit} {desk : Desk (Cabinet τ)}
    (meets : work.Meets desk (HoldsAlike post)) (action : StateM τ Unit) :
    (work >>= fun _ => Action.turn (Cabinet.aside action)).Meets desk (HoldsAlike post) := by
  refine meets.bind ?_ (by rintro _ _ ⟨⟨⟩, _⟩)
  rintro _ after ⟨_, holds⟩
  refine (Action.meets_turn action).mono ?_
  rintro _ turned ⟨⟨_, rfl⟩, looked⟩
  exact ⟨rfl, fun final store report =>
    holds final (store.trans looked.store) (report.trans looked.report)⟩

/-- The only path is worked on and its failure is put into the report, unless the request was cancelled
before. -/
theorem meets_workAll_only {setup : Setup τ} {depth : Nat} {operation : Operation} {mode : Mode}
    {request : Request} {path : Path} {desk : Desk (Cabinet τ)}
    {post : Except RequestError Unit → Desk (Cabinet τ) → Prop} (only : request.paths = [path])
    (cancelled : ∀ after, after.world.store = desk.world.store →
      after.report = { desk.report with cancelled := true } → post (.ok ()) after)
    (worked : ∀ begun, desk.Looked begun [] →
      (workOn setup.host depth operation mode request.destination path).Meets begun
        fun result ended => ∀ after, after.world.store = ended.world.store →
          after.report = reportAfter ended.report result → post (.ok ()) after) :
    (workAll setup.host depth operation mode request).Meets desk post := by
  unfold workAll
  rw [only]
  refine (Action.meets_turn (setup.job.push _)).bind ?_ (by rintro _ _ ⟨⟨_, ⟨⟩⟩, _⟩)
  rintro _ pushed ⟨_, looked⟩
  -- The job is told about the item afterwards, which changes neither the store nor the report.
  have items : (workOff setup.host (workOn setup.host depth operation mode request.destination)
      [path]).Meets pushed (HoldsAlike post) := by
    unfold workOff
    refine (Action.meets_turn setup.job.isCancelled).bind ?_ (by rintro _ _ ⟨⟨_, ⟨⟩⟩, _⟩)
    rintro stop asked ⟨_, looked'⟩
    have begun : desk.Looked asked [] := looked.trans looked'
    split
    · refine .modify ⟨rfl, fun final store report => cancelled final (store.trans begun.store) ?_⟩
      rw [report, begun.report]
    · have settled : (Action.settle
          (workOn setup.host depth operation mode request.destination path)).Meets asked
          (HoldsAlike post) := by
        refine (worked asked begun).settle ?_ ?_
        · exact fun after holds => ⟨rfl, holds⟩
        · exact fun error after holds => ⟨rfl, holds⟩
      have item : (Action.item setup.host.job
          (workOn setup.host depth operation mode request.destination path)).Meets asked
          (HoldsAlike post) := meets_thenTurn settled setup.job.step
      exact item.bind (fun _ _ holds => .pure ⟨rfl, holds.2⟩) (by rintro _ _ ⟨⟨⟩, _⟩)
  refine (meets_thenTurn items setup.job.pop).mono ?_
  rintro _ popped ⟨rfl, holds⟩
  exact holds popped rfl rfl

/-! ## What kind of request it is -/

/-- How a request is sorted when these are the contents. -/
def modeIn (request : Request) (c : Contents) : Mode :=
  match request.destination with
  | { folder := some folder, leaf := none } => if (c.folder? folder).isSome then .bulk else .ignored
  | { leaf := some _, .. } => if request.paths.length = 1 then .single else .ignored
  | { folder := none, leaf := none } => .ignored

theorem peeks_classify (setup : Setup τ) (store : MemoryStore) (request : Request) :
    Call.Peeks setup.faults store (request.classify setup.host)
      (· = .ok (request.modeIn store.contents)) := by
  obtain ⟨paths, ⟨folder, leaf⟩, interactive⟩ := request
  cases leaf with
  | some leaf => cases folder <;> exact .pure rfl
  | none =>
    cases folder with
    | none => exact .pure rfl
    | some folder =>
      refine (Action.peeks_folder setup store folder).bind ?_ (by rintro _ ⟨⟩)
      rintro _ ⟨⟩
      exact .pure (by simp [modeIn, Contents.listing?])

theorem classifyAndRun_cases {setup : Setup τ} {depth : Nat} {operation : Operation}
    {request : Request} {cabinet after : Cabinet τ} {result : Except RequestError Report}
    (ran : request.classifyAndRun setup.host depth operation cabinet = some (result, after)) :
    (∃ extra error, result = .error error ∧ setup.faults.CanFail ∧ after.store = cabinet.store ∧
      after.log = cabinet.log ++ extra ∧ ∀ entry ∈ extra, entry.contents = cabinet.store.contents) ∨
    ∃ between extra report, result = .ok report ∧ between.store = cabinet.store ∧
      between.log = cabinet.log ++ extra ∧
      (∀ entry ∈ extra, entry.contents = cabinet.store.contents) ∧
      request.run setup.host depth operation (request.modeIn cabinet.store.contents) between =
        some (report, after) := by
  obtain ⟨told, around, extra, went, _, same, ended⟩ :=
    peeks_classify setup cabinet.store request cabinet rfl
  simp only [classifyAndRun, went] at ran
  rcases ended with rfl | ⟨error, rfl, canFail, _⟩
  · obtain ⟨⟨report, _⟩, worked, same'⟩ := Option.bind_eq_some_iff.mp ran
    cases same'
    exact .inr ⟨{ store := cabinet.store, around, log := cabinet.log ++ extra }, extra, report, rfl,
      rfl, rfl, same, worked⟩
  · cases ran
    exact .inl ⟨extra, _, rfl, canFail, rfl, rfl, same⟩

/-- A report tells what the work has come to, which the first look has not touched. -/
theorem work_of_report {setup : Setup τ} {depth : Nat} {operation : Operation} {request : Request}
    {cabinet after : Cabinet τ} {report : Report}
    (ran : request.classifyAndRun setup.host depth operation cabinet = some (.ok report, after)) :
    ∃ between ended desk, between.store = cabinet.store ∧
      workAll setup.host depth operation (request.modeIn cabinet.store.contents) request
        (request.desk operation (request.modeIn cabinet.store.contents) between) =
          some (ended, desk) ∧ desk.report = report ∧ desk.world = after := by
  rcases classifyAndRun_cases ran with
    ⟨_, _, ⟨⟩, _⟩ | ⟨between, _, _, ⟨⟩, store, _, _, ran⟩
  obtain ⟨ended, desk, worked⟩ := work_of_run ran
  exact ⟨between, ended, desk, store, worked⟩

/-- With a store that answers, a request is sorted and then run. -/
theorem classifyAndRun_eq {setup : Setup τ} (reliable : setup.Reliable) (depth : Nat) (operation : Operation)
    (request : Request) (cabinet : Cabinet τ) :
    ∃ between : Cabinet τ, between.store = cabinet.store ∧
      setup.faults.Drift cabinet.around between.around ∧
      request.classifyAndRun setup.host depth operation cabinet =
        (request.run setup.host depth operation (request.modeIn cabinet.store.contents) between).map
          fun outcome => (.ok outcome.1, outcome.2) := by
  obtain ⟨told, around, extra, went, drift, _, ended⟩ :=
    peeks_classify setup cabinet.store request cabinet rfl
  rcases ended with rfl | ⟨error, rfl, canFail, _⟩
  · refine ⟨{ store := cabinet.store, around, log := cabinet.log ++ extra }, rfl, drift, ?_⟩
    simp only [classifyAndRun, went]
    cases request.run setup.host depth operation (request.modeIn cabinet.store.contents)
        { store := cabinet.store, around, log := cabinet.log ++ extra } with
    | none => rfl
    | some outcome => rfl
  · exact absurd canFail reliable

/-- With such a store, what is stored says how the paths are worked on. -/
theorem work_of_reliable {setup : Setup τ} (reliable : setup.Reliable) {depth : Nat}
    {operation : Operation} {request : Request} {cabinet after : Cabinet τ}
    {result : Except RequestError Report}
    (ran : request.classifyAndRun setup.host depth operation cabinet = some (result, after)) :
    ∃ between ended desk, between.store = cabinet.store ∧
      workAll setup.host depth operation (request.modeIn cabinet.store.contents) request
        (request.desk operation (request.modeIn cabinet.store.contents) between) =
          some (ended, desk) ∧ result = .ok desk.report ∧ desk.world = after := by
  rcases classifyAndRun_cases ran with
    ⟨_, _, _, canFail, _⟩ | ⟨between, _, report, rfl, store, _, _, ran⟩
  · exact absurd canFail reliable
  · obtain ⟨ended, desk, worked, rfl, rfl⟩ := work_of_run ran
    exact ⟨between, ended, desk, store, worked, rfl, rfl⟩

/-- With one path for a new name, that path is worked on. -/
theorem workOn_renaming (host : Host σ) (depth : Nat) (destination : Path) (folder : EntityId) :
    workOn host depth .move .single destination (.ofFolder folder) =
      match destination.leaf with
      | some desired => Action.renameFolder host depth folder destination.folder desired
      | none => pure () := by
  obtain ⟨target, leaf⟩ := destination
  cases leaf with
  | none => rfl
  | some desired => rfl

theorem modeIn_of_leaf {request : Request} {path : Path} (named : request.destination.leaf.isSome = true)
    (only : request.paths = [path]) (c : Contents) : request.modeIn c = .single := by
  unfold modeIn
  split
  next here => simp [here] at named
  next => simp [only]
  next here => simp [here] at named

theorem paths_of_modeIn {request : Request} {c : Contents} (single : request.modeIn c = .single) :
    request.destination.leaf.isSome = true ∧ ∃ path, request.paths = [path] := by
  unfold modeIn at single
  split at single
  · split at single <;> cases single
  next leaf here =>
    split at single
    next one => exact ⟨by simp [here], List.length_eq_one_iff.mp one⟩
    · cases single
  · cases single

/-! ## Traces -/

open Filing.Action

variable {setup : Setup τ} {rules : Rules}

theorem traces_workOn (depth : Nat) (destination path : Path)
    (noRename : rules.operation = .move → rules.mode = .single → ∀ folder, path ≠ .ofFolder folder) :
    Traces rules (workOn setup.host depth rules.operation rules.mode destination path) := by
  obtain ⟨operation, mode, interactive⟩ := rules
  obtain ⟨source, file⟩ := path
  unfold workOn
  dsimp only at noRename ⊢
  -- For each operation and mode there is something to do with files and with folders, and nothing to do
  -- where none is named.
  split
  · cases file with
    | some file => exact traces_deleteFile rfl file source
    | none => cases source with
      | some folder => exact traces_deleteFolder rfl depth folder
      | none => exact .pure ()
  · cases file with
    | some file => exact traces_moveFile rfl rfl file source _
    | none => cases source with
      | some folder => exact traces_moveFolder rfl rfl depth folder _
      | none => exact .pure ()
  · cases file with
    | some file => exact traces_copyFile rfl file _
    | none => cases source with
      | some folder => exact traces_copyFolder rfl depth folder _
      | none => exact .pure ()
  · cases file with
    | some file => exact traces_renameFile rfl rfl file source _ _
    | none => cases source with
      | some folder => exact absurd rfl (noRename rfl rfl folder)
      | none => exact .pure ()
  · cases file with
    | some file => exact traces_copyFileAs rfl file source _ _
    | none => cases source with
      | some folder => exact traces_copyFolderAs rfl depth folder _ _
      | none => exact .pure ()
  · exact .pure ()

theorem traces_workAll (depth : Nat) (request : Request)
    (noRename : rules.operation = .move → rules.mode = .single →
      ∀ path ∈ request.paths, ∀ folder, path ≠ .ofFolder folder) :
    Traces rules (workAll setup.host depth rules.operation rules.mode request) :=
  .inLevel (.workOff fun path member =>
    traces_workOn depth request.destination path fun move single => noRename move single path member)

end Filing.Request
