import Filing.Proofs.Alongside
import Filing.Proofs.Working

/-!
# One request or two

A request that goes into a folder or deletes may as well be made in two parts: nothing but the store and
the report leads from one path to the next. The second part then runs alongside the rest of the whole
(`Filing.Proofs.Alongside`), with nothing reported yet. And a request that is cancelled between two items
runs alongside the request for what was done by then.

## Main results

- `Order.cancelled_iff_stopsAfter`: a report says cancelled just if some paths were left out.
- `Order.divides`: a request comes to the same as the request for the first of its paths and then the
  request for the rest, and one that is cancelled to what the request for the first of its paths comes to.
-/
namespace Filing

variable {τ : Type} {setup : Setup τ}

/-- A job that was not cancelled in the one surroundings has not been in the other. -/
def Setup.GoesOn (setup : Setup τ) (alike : τ → τ → Prop) : Prop :=
  ∀ around around', alike around around' → (setup.job.isCancelled.run around).1 = false →
    (setup.job.isCancelled.run around').1 = false

/-- A desk where nothing was reported yet goes alongside itself. -/
theorem Desk.alongside_self (desk : Desk (Cabinet τ))
    (fresh : desk.report = { operation := desk.report.operation, mode := desk.report.mode }) :
    desk.Alongside ⟨desk.interactive, Eq, desk.report, (desk.world.log, desk.world.log)⟩ desk where
  world := ⟨rfl, rfl, [], (List.append_nil _).symm, (List.append_nil _).symm⟩
  interactive := rfl
  interactive' := rfl
  remembered _ := rfl
  report := by
    rw [fresh]
    exact (Report.fresh_append _ _ _).symm
  whole := by rw [fresh]

/-- What is on record in surroundings that are alike stays the same if it was. -/
theorem Setup.Alike.recording {interactive : Bool} {alike : τ → τ → Prop}
    (goes : setup.Alike interactive alike) {record : τ → List Answered}
    (records : setup.Records record) :
    setup.Alike interactive fun around around' =>
      alike around around' ∧ record around = record around' where
  fault method id both := by
    refine ⟨goes.fault method id both.1, ?_⟩
    rw [records.call, records.call, both.2]
  push total both := by
    refine ⟨goes.push total both.1, ?_⟩
    rw [records.turn (.push total), records.turn (.push total), both.2]
  step both := by
    refine ⟨goes.step both.1, ?_⟩
    rw [records.turn .step, records.turn .step, both.2]
  pop both := by
    refine ⟨goes.pop both.1, ?_⟩
    rw [records.turn .pop, records.turn .pop, both.2]
  ask asks _ _ question both := by
    obtain ⟨same, around⟩ := goes.ask asks question both.1
    refine ⟨same, around, ?_⟩
    rw [records.ask, records.ask, both.2, same]
  isCancelled both on on' := by
    refine ⟨goes.isCancelled both.1 on on', ?_⟩
    rw [records.turn .isCancelled, records.turn .isCancelled, both.2]

/-- Where the one job goes on, the same is done for the other unless that one is cancelled. -/
theorem Request.WorkedOff.alongside {p : Pairing τ} {work : Path → Action (Cabinet τ) Unit}
    {paths : List Path} {one other last : Desk (Cabinet τ)}
    (alike : setup.Alike p.interactive p.alike) (respects : ∀ path, Action.Respects p (work path))
    (worked : WorkedOff setup.host work paths one last) (alongside : one.Alongside p other) :
    ∃ last', Request.workOff setup.host work paths other = some (.ok (), last') ∧
      (WorkedOff setup.host work paths other last' ∧ last.Alongside p last' ∨
        last'.report.cancelled = true ∧ ¬ setup.GoesOn p.alike) := by
  induction worked generalizing other with
  | done _ => exact ⟨other, rfl, .inl ⟨.done other, alongside⟩⟩
  | @next path later one _ _ goesOn item _ ih =>
    cases goesOn' : (setup.host.job.isCancelled.run other.world).1 with
    | true =>
      -- The other job leaves out what the one still works on.
      refine ⟨_, by rw [workOff_cons, if_pos goesOn'], .inr ⟨rfl, fun goes => ?_⟩⟩
      exact absurd ((goes _ _ alongside.world.around goesOn).symm.trans goesOn') (by decide)
    | false =>
      have around := alike.isCancelled alongside.world.around goesOn goesOn'
      have asked : (one.asked setup.host.job).Alongside p (other.asked setup.host.job) :=
        { alongside with world := { alongside.world with around } }
      have respects : Action.Respects p (Action.item setup.host.job (work path)) :=
        .item alike (respects path)
      obtain ⟨between', item', alongside⟩ := respects _ _ asked _ _ item
      obtain ⟨last', left, ended⟩ := ih alongside
      rw [← workOff_next goesOn' item'] at left
      refine ⟨last', left, ended.imp_left fun both => ?_⟩
      exact ⟨.next goesOn' item' both.1, both.2⟩

namespace Order

variable {depth : Nat} {order : Order} {cabinet : Cabinet τ}

/-- The same request, made of two cabinets. -/
def pairing (order : Order) (alike : τ → τ → Prop) (cabinet start : Cabinet τ) : Pairing τ where
  interactive := (order.rules cabinet.store.contents).interactive
  alike
  earlier :=
    { operation := (order.rules cabinet.store.contents).operation
      mode := (order.rules cabinet.store.contents).mode }
  logs := (cabinet.log, start.log)

theorem alongside_opened (reliable : setup.Reliable) {alike : τ → τ → Prop} {start : Cabinet τ}
    (bulk : (order.rules cabinet.store.contents).mode = .bulk) (same : start.store = cabinet.store)
    {paths paths' : List Path}
    (begun : alike ((order.about paths).opened setup cabinet).world.around
      ((order.about paths').opened setup start).world.around) :
    ((order.about paths).opened setup cabinet).Alongside (order.pairing alike cabinet start)
      ((order.about paths').opened setup start) := by
  -- Sorting the request makes the same calls, whatever the surroundings.
  have sorted : (order.sorted setup.host cabinet).Alongside
      (order.pairing (fun _ _ => True) cabinet start) (order.sorted setup.host start) := by
    have begun : cabinet.Alongside (order.pairing (fun _ _ => True) cabinet start) start :=
      ⟨same.symm, trivial, [], (List.append_nil _).symm, (List.append_nil _).symm⟩
    have looks (request : Request) := Call.Respects.classify
      (p := order.pairing (fun _ _ => True) cabinet start) (fun _ _ _ => trivial) reliable request
    cases order with
    | plan request => exact (looks request cabinet start begun).2
    | copy request => exact (looks request cabinet start begun).2
    | delete _ => exact begun
  have rules := rules_about bulk paths
  have rules' : (order.about paths').rules start.store.contents = order.rules cabinet.store.contents :=
    (congrArg (fun s : MemoryStore => (order.about paths').rules s.contents) same).trans
      (rules_about bulk paths')
  have bulk' : (order.rules start.store.contents).mode = .bulk := by rwa [same]
  rw [← sorted_about bulk paths cabinet, ← sorted_about bulk paths' start] at sorted
  constructor
  · exact { store := sorted.store, around := begun, log := sorted.log }
  · exact congrArg Rules.interactive rules
  · exact congrArg Rules.interactive rules'
  · exact fun _ => rfl
  · unfold opened
    rw [rules, rules']
    exact (Report.fresh_append _ _ _).symm
  · rfl

theorem respects_work {p : Pairing τ} (alike : setup.Alike p.interactive p.alike)
    (reliable : setup.Reliable) (order : Order) (depth : Nat) (c : Contents) (path : Path) :
    Action.Respects p (order.work setup.host depth c path) :=
  (Action.respects_work alike reliable).workOn depth _ _ _ path

/-- What becomes of `done` in the one cabinet becomes of it in the other. -/
theorem alongside_done (reliable : setup.Reliable) {alike : τ → τ → Prop} {start : Cabinet τ}
    {done paths : List Path} {last : Desk (Cabinet τ)}
    (bulk : (order.rules cabinet.store.contents).mode = .bulk) (same : start.store = cabinet.store)
    (goes : setup.Alike (order.rules cabinet.store.contents).interactive alike)
    (begun : alike ((order.about paths).opened setup cabinet).world.around
      ((order.about done).opened setup start).world.around)
    (worked : Request.WorkedOff setup.host (order.work setup.host depth cabinet.store.contents) done
      ((order.about paths).opened setup cabinet) last) :
    ∃ last' : Desk (Cabinet τ), (order.about done).run setup.host depth start =
        some (.ok last'.report, (setup.host.job.pop.run last'.world).2) ∧
      (Request.WorkedOff setup.host (order.work setup.host depth cabinet.store.contents) done
          ((order.about done).opened setup start) last' ∧
        last.Alongside (order.pairing alike cabinet start) last' ∨
      last'.report.cancelled = true ∧ ¬ setup.GoesOn alike) := by
  obtain ⟨last', left, ended⟩ := worked.alongside goes (respects_work goes reliable order depth _)
    (alongside_opened reliable bulk same begun)
  refine ⟨last', ?_, ended⟩
  rw [run_about reliable (same ▸ bulk), same, left]
  rfl

/-! ## Cancelled between two items -/

/-- The paths in `done` are worked on, and by then the job has been cancelled. -/
def StopsAfter (setup : Setup τ) (depth : Nat) (order : Order) (cabinet : Cabinet τ)
    (done : List Path) : Prop :=
  ∃ last, Request.WorkedOff setup.host (order.work setup.host depth cabinet.store.contents) done
    (order.opened setup cabinet) last ∧ (setup.host.job.isCancelled.run last.world).1 = true

/-- The report says that the request was cancelled just if some of its paths were left out. -/
theorem cancelled_iff_stopsAfter (reliable : setup.Reliable) {report : Report} {after : Cabinet τ}
    (ran : order.run setup.host depth cabinet = some (.ok report, after)) :
    report.cancelled = true ↔ ∃ done rest, order.paths = done ++ rest ∧ rest ≠ [] ∧
      order.StopsAfter setup depth cabinet done := by
  rw [run_eq reliable, Option.map_eq_some_iff] at ran
  obtain ⟨⟨ended, last⟩, left, told⟩ := ran
  cases told
  constructor
  · intro cancelled
    rcases Request.workOff_cases left with worked | ⟨done, rest, between, same, more, worked, stops⟩
    · -- The desk beside itself: what is worked on leaves nothing out.
      have begun := (order.opened setup cabinet).alongside_self rfl
      have goes := setup.alike_refl (order.opened setup cabinet).interactive
      obtain ⟨last', left', ⟨_, alongside⟩ | ⟨_, stops⟩⟩ :=
        worked.alongside goes (respects_work goes reliable order depth _) begun
      · cases left.symm.trans left'
        exact absurd (alongside.whole.symm.trans cancelled) (by decide)
      · refine absurd ?_ stops
        rintro _ _ rfl goesOn
        exact goesOn
    · exact ⟨done, rest, same, more, between, worked, stops⟩
  · rintro ⟨done, rest, same, more, between, worked, stops⟩
    rw [same, worked.workOff_cancelled stops more] at left
    cases left
    rfl

/-- The first request comes to what the second one comes to, and was cancelled. The same calls are made
and the same questions asked. -/
def BreaksOffAs (setup : Setup τ) (depth : Nat) (first : Order) (cabinet : Cabinet τ) (second : Order)
    (start : Cabinet τ) : Prop :=
  ∃ report after after', report.cancelled = false ∧
    first.run setup.host depth cabinet = some (.ok { report with cancelled := true }, after) ∧
    second.run setup.host depth start = some (.ok report, after') ∧
    after.store = after'.store ∧
    (∃ calls, after.log = cabinet.log ++ calls ∧ after'.log = start.log ++ calls) ∧
    ∀ record, setup.Records record → record cabinet.around = record start.around →
      record after.around = record after'.around

theorem breaksOffAs (reliable : setup.Reliable) {alike : τ → τ → Prop} {start : Cabinet τ}
    {done rest : List Path} (bulk : (order.rules cabinet.store.contents).mode = .bulk)
    (same : start.store = cabinet.store)
    (goes : setup.Alike (order.rules cabinet.store.contents).interactive alike)
    (goesOn : setup.GoesOn alike)
    (begun : alike ((order.about (done ++ rest)).opened setup cabinet).world.around
      ((order.about done).opened setup start).world.around)
    (stops : (order.about (done ++ rest)).StopsAfter setup depth cabinet done) (left : rest ≠ []) :
    (order.about (done ++ rest)).BreaksOffAs setup depth cabinet (order.about done) start := by
  obtain ⟨last, worked, cancelled⟩ := stops
  rw [work_about bulk] at worked
  obtain ⟨last', ran', ⟨worked', alongside⟩ | ⟨_, stops⟩⟩ :=
    alongside_done reliable bulk same goes begun worked
  swap
  · exact (stops goesOn).elim
  have ran : (order.about (done ++ rest)).run setup.host depth cabinet =
      some (.ok { last.report with cancelled := true },
        (setup.host.job.pop.run (setup.host.job.isCancelled.run last.world).2).2) := by
    rw [run_about reliable bulk, worked.workOff_cancelled cancelled left]
    rfl
  have told : last.report = last'.report := alongside.report.trans (Report.fresh_append _ _ _)
  rw [told] at ran
  refine ⟨last'.report, _, _, alongside.whole, ran, ran', alongside.world.store, alongside.world.log, ?_⟩
  intro record records before
  have before : record ((order.about (done ++ rest)).opened setup cabinet).world.around =
      record ((order.about done).opened setup start).world.around := by
    rw [record_opened records, record_opened records, before]
  -- The same once more, with the record among what is alike.
  obtain ⟨last'', ran'', ⟨worked'', alongside''⟩ | ⟨_, stops⟩⟩ :=
    alongside_done reliable bulk same (goes.recording records) ⟨begun, before⟩ worked
  swap
  · exact (stops fun _ _ both => goesOn _ _ both.1).elim
  cases worked'.workOff.symm.trans worked''.workOff
  have recorded : record last.world.around = record last'.world.around := alongside''.world.around.2
  -- Nothing goes on record when the job is asked once more and told that the request has ended.
  have asked : record (setup.job.isCancelled.run last.world.around).2 = record last.world.around :=
    records.turn .isCancelled
  have ended (around : τ) : record (setup.job.pop.run around).2 = record around := records.turn .pop
  exact (ended _).trans (asked.trans (recorded.trans (ended _).symm))

/-! ## Two requests for one -/

/-- Requests for the one part of the paths and then for the other come to this report together, and to
this store in the end, if they are not cancelled. -/
def AddsUp (setup : Setup τ) (depth : Nat) (order : Order) (done rest : List Path)
    (begun : MemoryStore) (report : Report) (ended : MemoryStore) : Prop :=
  ∀ start : Cabinet τ, start.store = begun →
    ∃ first between, (order.about done).run setup.host depth start = some (.ok first, between) ∧
      ((order.about rest).rules between.store.contents).mode = .bulk ∧
      (first.cancelled = false → ∀ next : Cabinet τ, next.store = between.store →
        ∃ second last, (order.about rest).run setup.host depth next = some (.ok second, last) ∧
          (second.cancelled = false → last.store = ended ∧ report = first ++ second))

/-- What is left goes on as if it were all, with nothing reported yet. -/
theorem alongside_rest (reliable : setup.Reliable) {rest : List Path} {next : Cabinet τ}
    {between last : Desk (Cabinet τ)} (bulk : (order.rules next.store.contents).mode = .bulk)
    (quiet : (order.rules next.store.contents).interactive = false)
    (same : between.world.store = next.store) (rules : between.rules = order.rules next.store.contents)
    (worked : Request.WorkedOff setup.host (order.work setup.host depth next.store.contents) rest between
      last) :
    ∃ last' : Desk (Cabinet τ), (order.about rest).run setup.host depth next =
        some (.ok last'.report, (setup.host.job.pop.run last'.world).2) ∧
      (last'.report.cancelled = false → last'.world.store = last.world.store ∧
        last.report = between.report ++ last'.report) := by
  generalize opens : (order.about rest).opened setup next = opened
  have kind := rules_about bulk rest
  have stored : opened.world.store = next.store := by
    rw [← opens]
    exact (drift_sorted setup (order.about rest) next).1
  -- Side by side, with what was reported so far standing before the other report.
  have begun : between.Alongside ⟨false, fun _ _ => True, between.report,
      (between.world.log, opened.world.log)⟩ opened := by
    constructor
    · exact ⟨same.trans stored.symm, trivial, [], (List.append_nil _).symm, (List.append_nil _).symm⟩
    · exact (congrArg Rules.interactive rules).trans quiet
    · exact opens ▸ (congrArg Rules.interactive kind).trans quiet
    · rintro ⟨⟩
    · have fresh : opened.report =
          { operation := between.report.operation, mode := between.report.mode } := by
        have operation : between.report.operation = (order.rules next.store.contents).operation :=
          congrArg Rules.operation rules
        have mode : between.report.mode = (order.rules next.store.contents).mode :=
          congrArg Rules.mode rules
        rw [operation, mode, ← kind, ← opens]
        rfl
      rw [fresh]
      exact (Report.append_fresh _).symm
    · exact opens ▸ rfl
  obtain ⟨last', left, ended⟩ := worked.alongside setup.alike_anyhow
    (respects_work setup.alike_anyhow reliable order depth _) begun
  refine ⟨last', by rw [run_about reliable bulk, opens, left]; rfl, fun whole => ?_⟩
  rcases ended with ⟨_, alongside⟩ | ⟨cancelled, _⟩
  · exact ⟨alongside.world.store.symm, alongside.report⟩
  · exact absurd (whole.symm.trans cancelled) (by decide)

theorem addsUp (reliable : setup.Reliable) {done rest : List Path} {report : Report} {after : Cabinet τ}
    (bulk : (order.rules cabinet.store.contents).mode = .bulk)
    (quiet : (order.rules cabinet.store.contents).interactive = false)
    (ran : (order.about (done ++ rest)).run setup.host depth cabinet = some (.ok report, after))
    (whole : report.cancelled = false) :
    order.AddsUp setup depth done rest cabinet.store report after.store := by
  intro start same
  rw [run_about reliable bulk, Option.map_eq_some_iff] at ran
  obtain ⟨⟨ended, last⟩, left, told⟩ := ran
  cases told
  -- The second request begins where the first one has ended.
  obtain ⟨between, worked, later⟩ := (Request.workedOff_of_whole left whole).split
  have goes : setup.Alike (order.rules cabinet.store.contents).interactive fun _ _ => True := by
    rw [quiet]
    exact setup.alike_anyhow
  obtain ⟨between', ran, ended⟩ := alongside_done reliable bulk same goes trivial worked
  have bulk' : ((order.about done).rules start.store.contents).mode = .bulk := by
    rwa [same, rules_about bulk done]
  -- Each request is of the same kind as the first one.
  have sameRules : order.rules between'.world.store.contents = order.rules cabinet.store.contents := by
    have again := rules_of_bulk ran bulk'
    change (order.about done).rules between'.world.store.contents = _ at again
    rw [rules_of_about (again ▸ bulk'), again, same, rules_about bulk done]
  have again : ((order.about rest).rules between'.world.store.contents).mode = .bulk := by
    rwa [rules_about (sameRules ▸ bulk), sameRules]
  refine ⟨between'.report, _, ran, again, fun whole next same' => ?_⟩
  rcases ended with ⟨_, alongside⟩ | ⟨cancelled, _⟩
  swap
  · exact absurd (whole.symm.trans cancelled) (by decide)
  have stored : between'.world.store = next.store := same'.symm
  rw [stored] at sameRules
  have sameWork : order.work setup.host depth cabinet.store.contents =
      order.work setup.host depth next.store.contents := by
    funext path
    unfold work
    rw [sameRules]
  have kind : between.rules = order.rules cabinet.store.contents :=
    rules_worked bulk worked (rules_about bulk _)
  obtain ⟨last', ran', ended⟩ := alongside_rest reliable (sameRules ▸ bulk) (sameRules ▸ quiet)
    (alongside.world.store.trans stored) (kind.trans sameRules.symm) (sameWork ▸ later)
  have told : between.report = between'.report := alongside.report.trans (Report.fresh_append _ _ _)
  rw [told] at ended
  exact ⟨last'.report, _, ran', ended⟩

/-- A request that asks nobody and is not cancelled comes to the same as two requests, for any beginning
of its paths and then for the rest: the destination is still there for the second one, failures and
warnings come one after another, and all counts are added. A request that is cancelled between two items
comes to what the request for the first of them comes to, whatever it is asked and answered: the rest
makes no call. -/
theorem divides (reliable : setup.Reliable) (order : Order) (done rest : List Path)
    (cabinet : Cabinet τ) (wf : cabinet.store.contents.WellFormed)
    (bulk : (order.rules cabinet.store.contents).mode = .bulk) :
    ((order.rules cabinet.store.contents).interactive = false →
      (∃ enough, ∀ depth, enough ≤ depth → ∃ report after,
        (order.about (done ++ rest)).run setup.host depth cabinet = some (.ok report, after)) ∧
      ∀ depth report after,
        (order.about (done ++ rest)).run setup.host depth cabinet = some (.ok report, after) →
        report.cancelled = false →
        order.AddsUp setup depth done rest cabinet.store report after.store) ∧
    ∀ (depth : Nat) (start : Cabinet τ) (alike : τ → τ → Prop), start.store = cabinet.store →
      setup.Alike (order.rules cabinet.store.contents).interactive alike → setup.GoesOn alike →
      alike ((order.about (done ++ rest)).opened setup cabinet).world.around
        ((order.about done).opened setup start).world.around →
      (order.about (done ++ rest)).StopsAfter setup depth cabinet done → rest ≠ [] →
      (order.about (done ++ rest)).BreaksOffAs setup depth cabinet (order.about done) start := by
  constructor
  · intro quiet
    constructor
    · refine returns_of_bulk reliable wf ?_
      rwa [rules_about bulk]
    · exact fun _ _ _ ran whole => addsUp reliable bulk quiet ran whole
  · exact fun _ _ _ same goes goesOn begun stops left =>
      breaksOffAs reliable bulk same goes goesOn begun stops left

end Order

namespace Sample

/-- Whoever is asked agrees, and where the job lapses, it is cancelled as soon as somebody was asked. -/
def lapsing : Setup (Bool × List Answered) where
  faults := .never
  suffixing := .standard
  job :=
    { push := fun _ => pure ()
      step := pure ()
      pop := pure ()
      ask := fun question around => (some ⟨true, false⟩,
        (around.1, around.2 ++ [(question, some ⟨true, false⟩)]))
      isCancelled := fun around => (around.1 && !around.2.isEmpty, around) }

/-- Takes something to the first folder. -/
def takeIn (interactive : Bool) : Order :=
  .plan { paths := [], destination := .ofFolder docs, interactive }

theorem rivals_wellFormed : rivals.contents.WellFormed := by
  have folders : Contents.WellFormed (apart.contents.insert (.folder ⟨inside, "note", some docs⟩)) := by
    refine apart_wellFormed.insert_unused (by decide) ?_
    rintro _ ⟨⟩
    exact ⟨⟨docs, "docs", none⟩, by decide⟩
  refine (folders.insert_file (by decide) fun parent listed => ?_).insert_file (by decide)
    fun parent listed => ?_
  · simp only [Catalogue.ofList, List.foldl_cons, List.foldl_nil, IdSet.mem_insert] at listed
    rcases listed with rfl | ⟨⟨⟩⟩
    exact ⟨⟨note, "note", none⟩, by decide⟩
  · simp only [Catalogue.ofList, List.foldl_cons, List.foldl_nil, IdSet.mem_insert] at listed
    rcases listed with rfl | ⟨⟨⟩⟩
    exact ⟨⟨inside, "note", some docs⟩, by decide⟩

/-- As long as the one job goes on, it does not matter whether the other one would. -/
theorem lapsing_alike : lapsing.Alike true fun around around' =>
    around'.1 = false ∧ around.2 = around'.2 where
  fault _ _ both := both
  push _ both := both
  step both := both
  pop both := both
  ask _ around around' question both := by
    refine ⟨rfl, both.1, ?_⟩
    change around.2 ++ _ = around'.2 ++ _
    rw [both.2]
  isCancelled both _ _ := both

theorem lapsing_goesOn : lapsing.GoesOn fun around around' =>
    around'.1 = false ∧ around.2 = around'.2 := by
  intro _ around' both _
  change (around'.1 && !around'.2.isEmpty) = false
  rw [both.1, Bool.false_and]

end Sample

open Sample in
/-- A folder is merged into the one with its name, and a file of the same name is in both. If nobody is
asked, that file stays behind and is taken by itself afterwards. Otherwise it is asked about, the request
is cancelled by then, and the file that was to be next is left alone. -/
theorem Order.divides_rivals :
    (∃ report after,
      ((takeIn false).about ([.ofFolder note] ++ [⟨some note, some new⟩])).run lapsing.host 4
        ⟨rivals, (false, []), []⟩ = some (.ok report, after) ∧
      report.tally.foldersMerged = 1 ∧ report.tally.filesMoved = 1 ∧
      (takeIn false).AddsUp lapsing 4 [.ofFolder note] [⟨some note, some new⟩] rivals report
        after.store) ∧
    ((takeIn true).about ([.ofFolder note] ++ [⟨some docs, some old⟩])).BreaksOffAs lapsing 4
      ⟨rivals, (true, []), []⟩ ((takeIn true).about [.ofFolder note]) ⟨rivals, (false, []), []⟩ := by
  have reliable : lapsing.Reliable := Faults.not_canFail_never
  constructor
  · have moved : (((takeIn false).about ([.ofFolder note] ++ [⟨some note, some new⟩])).run lapsing.host 4
        ⟨rivals, (false, []), []⟩).map (fun outcome => outcome.1.toOption.map fun report =>
          (report.cancelled, report.tally.foldersMerged, report.tally.filesMoved)) =
            some (some (false, 1, 1)) := by
      decide +kernel
    obtain ⟨⟨result, after⟩, ran, told⟩ := Option.map_eq_some_iff.mp moved
    cases result with
    | error _ => cases told
    | ok report =>
      obtain ⟨whole, counted⟩ := Prod.mk.inj (Option.some.inj told)
      obtain ⟨merged, moved⟩ := Prod.mk.inj counted
      have adds := (divides reliable (takeIn false) [.ofFolder note] [⟨some note, some new⟩]
        ⟨rivals, (false, []), []⟩ rivals_wellFormed (by decide)).1 rfl
      exact ⟨report, after, ran, merged, moved, adds.2 4 report after ran whole⟩
  · have asked : (Action.item lapsing.host.job ((takeIn true).work lapsing.host 4 rivals.contents
        (.ofFolder note)) ((((takeIn true).about ([.ofFolder note] ++ [⟨some docs, some old⟩])).opened
          lapsing ⟨rivals, (true, []), []⟩).asked lapsing.host.job)).map
        (fun outcome => (lapsing.host.job.isCancelled.run outcome.2.world).1) = some true := by
      decide +kernel
    obtain ⟨⟨result, last⟩, worked, cancelled⟩ := Option.map_eq_some_iff.mp asked
    cases Request.meets_item _ _ _ _ _ worked
    refine (divides reliable (takeIn true) [.ofFolder note] [⟨some docs, some old⟩]
      ⟨rivals, (true, []), []⟩ rivals_wellFormed (by decide)).2 4 ⟨rivals, (false, []), []⟩ _ rfl
      lapsing_alike lapsing_goesOn ⟨rfl, rfl⟩ ⟨last, ?_, cancelled⟩ (by decide)
    exact .next rfl worked (.done last)

end Filing
