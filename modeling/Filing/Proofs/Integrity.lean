import Filing.Proofs.Requests

/-!
# Well-formed contents stay well formed

Every step keeps contents well formed (`Step.wellFormed`), and a folder with a new identifier leaves
them so in the end. Over any sequence of requests nothing is ever left pointing at something that is
missing (`Session.wellFormed_throughout`).
-/
namespace Filing

open Contents

variable {τ : Type}

namespace MemoryStore

variable {s : MemoryStore} {file : File}

theorem wellFormed_takeOut (wf : s.contents.WellFormed)
    (stored : s.contents.file? file.id = some file) (parent : EntityId) :
    (s.takeOut file parent).contents.WellFormed := by
  unfold takeOut
  split
  · refine wf.insert_file (folder?_eq_none_of_file? stored) fun parent listed => ?_
    exact wf.fileParent stored (IdSet.mem_erase.mp listed).2
  · exact wf.erase_file stored

/-- A file is saved with the parents it had, or into a folder that exists. -/
theorem wellFormed_relist (wf : s.contents.WellFormed)
    (stored : s.contents.file? file.id = some file) {target : EntityId}
    (destination : ∃ folder, s.contents.folder? target = some folder) (source : Option EntityId) :
    (s.save (.file (file.reparent source target).1)).contents.WellFormed := by
  refine wf.insert_file (folder?_eq_none_of_file? stored) fun parent listed => ?_
  rcases File.mem_parents_reparent.mp listed with rfl | ⟨listed, _⟩
  · exact destination
  · exact wf.fileParent stored listed

end MemoryStore

theorem Reparents.wellFormed {store : MemoryStore} {folder : Folder} {target : EntityId}
    (reparents : Reparents store folder target) (wf : store.contents.WellFormed) :
    (store.save (.folder { folder with parent := some target })).contents.WellFormed := by
  refine wf.insert_folder ?_
  rintro _ ⟨⟩
  exact ⟨reparents.destination, reparents.away⟩

theorem Creates.wellFormed_folder {store : MemoryStore} {id : EntityId} {parent : Option EntityId}
    (creates : Creates store id parent) (name : String) (wf : store.contents.WellFormed) :
    (store.save (.folder { id, name, parent })).contents.WellFormed :=
  wf.insert_unused creates.unused creates.destination

theorem Creates.wellFormed_file {store : MemoryStore} {id : EntityId} {parent : Option EntityId}
    (creates : Creates store id parent) (source : File) (name : String)
    (wf : store.contents.WellFormed) :
    (store.save (.file (source.copyTo id name parent))).contents.WellFormed := by
  refine wf.insert_file (folder?_eq_none_of_unused creates.unused) fun target listed => ?_
  exact creates.destination target (File.mem_parents_copyTo.mp listed)

/-- What one step does to well-formed contents. -/
theorem Step.wellFormed {rules : Rules} {before after : Stage} (step : Step rules before after)
    (wf : before.store.contents.WellFormed) : after.store.contents.WellFormed := by
  cases step with
  | evict _ displaces => exact MemoryStore.wellFormed_takeOut wf displaces.storedExisting _
  | relist _ _ relists _ =>
    exact MemoryStore.wellFormed_relist wf relists.stored relists.destination _
  | displace _ _ displaces relists =>
    -- The file that leaves is not the one that comes.
    refine MemoryStore.wellFormed_relist
      (MemoryStore.wellFormed_takeOut wf displaces.storedExisting _) ?_ ?_ _
    · rw [MemoryStore.file?_takeOut, if_neg displaces.differs]
      exact relists.stored
    · simpa only [MemoryStore.folder?_takeOut displaces.storedExisting] using relists.destination
  | reparent _ _ reparents _ => exact reparents.wellFormed wf
  | merge _ => exact wf
  | dissolve _ _ dissolves => exact wf.erase dissolves.vacant.folders fun _ _ => dissolves.vacant.files
  | createFolder _ creates _ => exact creates.wellFormed_folder _ wf
  | createFile _ _ creates _ => exact creates.wellFormed_file _ _ wf
  | replace _ displaces creates =>
    exact creates.wellFormed_file _ _ (MemoryStore.wellFormed_takeOut wf displaces.storedExisting _)
  | deleteFolder _ dissolves =>
    exact wf.erase dissolves.vacant.folders fun _ _ => dissolves.vacant.files
  | takeOut _ stored _ _ => exact MemoryStore.wellFormed_takeOut wf stored _
  | deleteFile _ stored _ => exact wf.erase_file stored
  | relocateFolder _ _ reparents => exact reparents.wellFormed wf
  | relocateFile _ _ relists =>
    exact MemoryStore.wellFormed_relist wf relists.stored relists.destination _
  | relabelFile _ _ stored unused _ =>
    -- The folders that list the file have other identifiers than its old one.
    refine (wf.erase_file stored).insert_file ?_ fun parent listed => ?_
    · simp [folder?_eq_none_of_unused unused]
    · obtain ⟨above, found⟩ := wf.fileParent stored listed
      refine ⟨above, ?_⟩
      rw [folder?_erase, if_neg, found]
      rintro rfl
      simp [folder?_eq_none_of_file? stored] at found
  | retitleFile _ _ stored =>
    refine wf.insert_file (folder?_eq_none_of_file? stored) fun parent listed => ?_
    exact wf.fileParent stored listed

theorem Steps.wellFormed {rules : Rules} {before after : Stage} (steps : Steps rules before after)
    (wf : before.store.contents.WellFormed) : after.store.contents.WellFormed := by
  induction steps with
  | refl => exact wf
  | tail _ step ih => exact step.wellFormed ih

/-- What every stage holds that steps lead to, everything holds that a traced action leaves, in the
end and after each call. -/
theorem Desk.Traced.throughout {P : Contents → Prop} {before after : Desk (Cabinet τ)}
    (traced : before.Traced after)
    (holds : ∀ stage, Steps before.rules before.stage stage → P stage.store.contents) :
    P after.world.store.contents ∧ ∃ extra, after.world.log = before.world.log ++ extra ∧
      ∀ entry ∈ extra, P entry.contents := by
  obtain ⟨extra, log, reached⟩ := traced.log
  refine ⟨holds _ traced.steps, extra, log, fun entry member => ?_⟩
  obtain ⟨stage, steps, same⟩ := reached entry member
  exact same ▸ holds stage steps

/-! ## Folders with new identifiers -/

/-- No call failed after an identifier was changed. -/
def Settled (log : List Entry) : Prop :=
  log.Pairwise fun earlier later =>
    earlier.method = .rename → earlier.failed = false → later.failed = false

/-- In the end everything is well formed, unless a call failed after an identifier was changed. -/
def Desk.Sound (before after : Desk (Cabinet τ)) : Prop :=
  ∃ extra, after.world.log = before.world.log ++ extra ∧
    (Settled extra → before.world.store.contents.WellFormed →
      after.world.store.contents.WellFormed)

namespace Desk

variable {first second third : Desk (Cabinet τ)} {extra : List Entry}

theorem Kept.sound (kept : first.Kept second extra) : first.Sound second :=
  ⟨extra, kept.log, fun _ wf => kept.store ▸ wf⟩

theorem Changed.sound {store : MemoryStore} {change : Tally → Tally}
    (changed : first.Changed second store change)
    (keeps : first.world.store.contents.WellFormed → store.contents.WellFormed) :
    first.Sound second := by
  obtain ⟨_, extra, method, kept, wrote⟩ := changed
  exact ⟨extra ++ [⟨method, false, store.contents⟩], by rw [wrote.log, kept.log, List.append_assoc],
    fun _ wf => wrote.store ▸ keeps wf⟩

theorem Sound.trans (sound : first.Sound second) (sound' : second.Sound third) :
    first.Sound third := by
  obtain ⟨extra, log, keeps⟩ := sound
  obtain ⟨later, log', keeps'⟩ := sound'
  refine ⟨extra ++ later, by rw [log', log, List.append_assoc], fun settled wf => ?_⟩
  obtain ⟨settled, settled', _⟩ := List.pairwise_append.mp settled
  exact keeps' settled' (keeps settled wf)

theorem Relocated.sound {folder : Folder} (relocated : first.Relocated second folder) :
    first.Sound second := by
  cases relocated with
  | stays kept _ => exact kept.sound
  | moved into reparents changed => exact changed.sound fun wf => into ▸ reparents.wellFormed wf

theorem link_sound : Link (Sound : Desk (Cabinet τ) → Desk (Cabinet τ) → Prop) where
  refl desk := (Kept.refl desk).sound
  trans := Sound.trans
  failing _ _ := ⟨[], (List.append_nil _).symm, fun _ wf => wf⟩
  leftOff _ := ⟨[], (List.append_nil _).symm, fun _ wf => wf⟩

theorem chain_sound (setup : Setup τ) : Chain setup (Sound : Desk (Cabinet τ) → _ → Prop) :=
  link_sound.chain Kept.sound setup

end Desk

theorem FolderRename.sound {setup : Setup τ} {desk after : Desk (Cabinet τ)} {id desired : EntityId}
    {target : Option EntityId} {result : Except RequestError Unit}
    (ended : FolderRename setup desk id target desired result after) : desk.Sound after := by
  cases ended with
  | kept kept _ => exact kept.sound
  | failed failed =>
    obtain ⟨_, kept, _⟩ := failed
    exact kept.sound
  | placed listed sameId _ _ relocated ended _ =>
    subst sameId
    cases ended with
    | stays _ => exact relocated.sound
    | failed failed =>
      obtain ⟨_, kept, _⟩ := failed
      exact relocated.sound.trans kept.sound
    | @renamed named _ contents unused _ relabelled rewrote _ _ =>
      obtain ⟨extra, log, keeps⟩ := relocated.sound
      obtain ⟨later, log'⟩ := rewrote.log
      refine ⟨extra ++ later, ?_, fun settled wf => ?_⟩
      · rw [← List.append_assoc, ← log, log']
        rfl
      · obtain ⟨apart, children⟩ := relocated.children wf.loopFree listed
        have placed := keeps (List.pairwise_append.mp settled).1 wf
        have whole := (relabelled apart children).wellFormed placed unused
        rw [show contents = named.world.store.contents by rw [rewrote.store]] at whole
        exact whole
    | @broke _ seen _ _ store _ kept wrote broke =>
      -- The failed call comes after the changed identifier in the log.
      obtain ⟨extra, log, _⟩ := relocated.sound
      obtain ⟨later, log', entry, member, failed⟩ := broke.logged
      refine ⟨extra ++ (seen ++ ([⟨.rename, false, store.contents⟩] ++ later)), ?_, fun settled => ?_⟩
      · rw [log', wrote.log, kept.log, log]
        simp only [List.append_assoc]
      · have settled := (List.pairwise_append.mp settled).2.1
        have settled := (List.pairwise_append.mp settled).2.1
        have fine := (List.pairwise_append.mp settled).2.2 _ (List.mem_singleton_self _) entry member
        simp [fine rfl rfl] at failed

/-! ## Requests -/

namespace Request

variable {setup : Setup τ} {depth : Nat} {operation : Operation} {mode : Mode} {request : Request}
  {cabinet after : Cabinet τ} {report : Report}

theorem run_throughout {P : Contents → Prop}
    (ran : request.run setup.host depth operation mode cabinet = some (report, after))
    (noRename : operation = .move → mode = .single →
      ∀ path ∈ request.paths, ∀ folder, path ≠ .ofFolder folder)
    (step : ∀ {first second}, Step ⟨operation, mode, request.interactive⟩ first second →
      P first.store.contents → P second.store.contents)
    (holds : P cabinet.store.contents) :
    P after.store.contents ∧ ∃ extra, after.log = cabinet.log ++ extra ∧
      ∀ entry ∈ extra, P entry.contents := by
  obtain ⟨result, desk, worked, _, rfl⟩ := work_of_run ran
  have traces : Action.Traces ⟨operation, mode, request.interactive⟩
      (workAll setup.host depth operation mode request) := traces_workAll depth request noRename
  refine (traces (request.desk operation mode cabinet) rfl result desk worked).throughout ?_
  intro stage steps
  induction steps with
  | refl => exact holds
  | tail _ next ih => exact step next ih

theorem run_sound (folder : EntityId) (here : request.paths = [.ofFolder folder])
    (ran : request.run setup.host depth .move .single cabinet = some (report, after)) :
    ∃ extra, after.log = cabinet.log ++ extra ∧
      (Settled extra → cabinet.store.contents.WellFormed → after.store.contents.WellFormed) := by
  obtain ⟨result, desk, worked, _, rfl⟩ := work_of_run ran
  have renames (path : Path) (member : path ∈ request.paths) : Action.Links Desk.Sound
      (workOn setup.host depth .move .single request.destination path) := by
    rw [here, List.mem_singleton] at member
    rw [member, workOn_renaming]
    split
    · exact fun desk => (Action.meets_renameFolder depth folder _ _).mono fun _ _ ended => ended.sound
    · exact .pure Desk.link_sound ()
  have job := (Desk.chain_sound setup).toJobLink
  have links : Action.Links Desk.Sound (workAll setup.host depth .move .single request) :=
    .inLevel job (.workOff job renames)
  exact links (request.desk .move .single cabinet) result desk worked

end Request

/-! ## Sessions -/

/-- A request of any kind. -/
inductive Order where
  | plan (request : Request)
  | copy (request : Request)
  | delete (paths : List Path)

namespace Order

def run {σ : Type} (host : Host σ) (depth : Nat) :
    Order → StateT σ Option (Except RequestError Report)
  | plan request => request.plan host depth
  | copy request => request.copy host depth
  | delete paths => do return .ok (← Request.delete host depth paths)

/-- What stays the same while these contents are worked on. -/
def rules (c : Contents) : Order → Rules
  | plan request => ⟨.move, request.modeIn c, request.interactive⟩
  | copy request => ⟨.copy, request.modeIn c, request.interactive⟩
  | delete _ => ⟨.delete, .bulk, false⟩

/-- One folder is to get a name of its own. -/
def RenamesFolder : Order → Prop
  | plan request => request.destination.leaf.isSome = true ∧
      ∃ folder, request.paths = [.ofFolder folder]
  | _ => False

variable {setup : Setup τ} {depth : Nat} {order : Order} {cabinet after : Cabinet τ}
  {result : Except RequestError Report}

theorem work_of_report {report : Report}
    (ran : order.run setup.host depth cabinet = some (.ok report, after)) :
    ∃ operation mode request between result desk,
      order.rules cabinet.store.contents = ⟨operation, mode, request.interactive⟩ ∧
      between.store = cabinet.store ∧
      Request.workAll setup.host depth operation mode request (request.desk operation mode between) =
        some (result, desk) ∧ desk.report = report ∧ desk.world = after := by
  cases order with
  | plan request =>
    obtain ⟨between, result, desk, worked⟩ := Request.work_of_report ran
    exact ⟨.move, _, request, between, result, desk, rfl, worked⟩
  | copy request =>
    obtain ⟨between, result, desk, worked⟩ := Request.work_of_report ran
    exact ⟨.copy, _, request, between, result, desk, rfl, worked⟩
  | delete paths =>
    obtain ⟨⟨report, _⟩, ran, same⟩ := Option.bind_eq_some_iff.mp ran
    cases same
    obtain ⟨result, desk, worked⟩ := Request.work_of_run ran
    exact ⟨.delete, .bulk, ⟨paths, .nowhere, false⟩, cabinet, result, desk, rfl, rfl, worked⟩

/-- Steps lead to what is stored and counted in the end, unless an item gets a name of its own. -/
theorem steps_of_report {report : Report}
    (ran : order.run setup.host depth cabinet = some (.ok report, after))
    (plain : (order.rules cabinet.store.contents).operation = .move →
      (order.rules cabinet.store.contents).mode ≠ .single) :
    Steps (order.rules cabinet.store.contents) ⟨cabinet.store, {}⟩ ⟨after.store, report.tally⟩ := by
  obtain ⟨operation, mode, request, between, _, desk, rules, store, worked, rfl, rfl⟩ :=
    work_of_report ran
  rw [rules] at plain ⊢
  have traces : Action.Traces ⟨operation, mode, request.interactive⟩
      (Request.workAll setup.host depth operation mode request) :=
    Request.traces_workAll depth request fun move single => absurd single (plain move)
  have traced := (traces (request.desk operation mode between) rfl _ _ worked).steps
  rw [← store]
  exact traced

/-- What each step keeps is kept throughout a request, unless it gives a folder a name of its own. -/
theorem throughout {P : Contents → Prop}
    (ran : order.run setup.host depth cabinet = some (result, after))
    (plain : ¬ order.RenamesFolder)
    (step : ∀ {first second}, Step (order.rules cabinet.store.contents) first second →
      P first.store.contents → P second.store.contents)
    (holds : P cabinet.store.contents) :
    P after.store.contents ∧ ∃ extra, after.log = cabinet.log ++ extra ∧
      ∀ entry ∈ extra, P entry.contents := by
  -- Moving and copying first take a look at the destination, which keeps everything.
  have sorted {operation : Operation} {request : Request}
      (ran : request.classifyAndRun setup.host depth operation cabinet = some (result, after))
      (noRename : operation = .move → request.modeIn cabinet.store.contents = .single →
        ∀ path ∈ request.paths, ∀ folder, path ≠ .ofFolder folder)
      (step : ∀ {first second},
        Step ⟨operation, request.modeIn cabinet.store.contents, request.interactive⟩ first second →
          P first.store.contents → P second.store.contents) :
      P after.store.contents ∧ ∃ extra, after.log = cabinet.log ++ extra ∧
        ∀ entry ∈ extra, P entry.contents := by
    rcases Request.classifyAndRun_cases ran with
      ⟨extra, _, _, _, store, log, same⟩ | ⟨between, extra, report, _, store, log, same, ran⟩
    · exact ⟨store ▸ holds, extra, log, fun entry member => same entry member ▸ holds⟩
    · obtain ⟨holds', later, log', reached⟩ :=
        Request.run_throughout ran noRename step (store ▸ holds)
      refine ⟨holds', extra ++ later, by rw [log', log, List.append_assoc], fun entry member => ?_⟩
      rcases List.mem_append.mp member with early | late
      · exact same entry early ▸ holds
      · exact reached entry late
  cases order with
  | plan request =>
    refine sorted ran ?_ step
    rintro _ single path member folder rfl
    obtain ⟨named, path, only⟩ := Request.paths_of_modeIn single
    rw [only, List.mem_singleton] at member
    exact plain ⟨named, folder, member ▸ only⟩
  | copy request => exact sorted ran (by rintro ⟨⟩) step
  | delete paths =>
    obtain ⟨⟨report, _⟩, ran, same⟩ := Option.bind_eq_some_iff.mp ran
    cases same
    exact Request.run_throughout ran (by rintro ⟨⟩) step holds

theorem sound (ran : order.run setup.host depth cabinet = some (result, after))
    (renames : order.RenamesFolder) (wf : cabinet.store.contents.WellFormed)
    (settled : Settled after.log) : after.store.contents.WellFormed := by
  cases order with
  | plan request =>
    rcases Request.classifyAndRun_cases ran with
      ⟨extra, _, _, _, store, log, same⟩ | ⟨between, extra, report, _, store, log, same, ran⟩
    · exact store ▸ wf
    · obtain ⟨named, folder, only⟩ := renames
      rw [Request.modeIn_of_leaf named only] at ran
      obtain ⟨later, log', keeps⟩ := Request.run_sound folder only ran
      rw [log', log] at settled
      exact keeps (List.pairwise_append.mp settled).2.1 (store ▸ wf)
  | copy request => exact renames.elim
  | delete paths => exact renames.elim

end Order

/-- What a store holds after any sequence of requests. `seen` are the calls made meanwhile, but for
those of requests that give a folder a name of its own. -/
inductive Session (start : MemoryStore) : List Entry → MemoryStore → Prop
  | opened : Session start [] start
  | worked {seen : List Entry} {store : MemoryStore} {τ : Type} {setup : Setup τ} {around : τ}
      {depth : Nat} {order : Order} {result : Except RequestError Report} {after : Cabinet τ}
      (before : Session start seen store) (plain : ¬ order.RenamesFolder)
      (ran : order.run setup.host depth ⟨store, around, []⟩ = some (result, after)) :
      Session start (seen ++ after.log) after.store
  | renamed {seen : List Entry} {store : MemoryStore} {τ : Type} {setup : Setup τ} {around : τ}
      {depth : Nat} {order : Order} {result : Except RequestError Report} {after : Cabinet τ}
      (before : Session start seen store) (renames : order.RenamesFolder)
      (ran : order.run setup.host depth ⟨store, around, []⟩ = some (result, after))
      (settled : Settled after.log) : Session start seen after.store

/-- Whatever is requested, permitted, answered, cancelled and whichever calls fail: nothing points at
something that is missing, and no folder comes to lie inside itself. -/
theorem Session.wellFormed_throughout {start store : MemoryStore} {seen : List Entry}
    (session : Session start seen store) (wf : start.contents.WellFormed) :
    store.contents.WellFormed ∧ ∀ entry ∈ seen, entry.contents.WellFormed := by
  induction session with
  | opened => exact ⟨wf, by simp⟩
  | worked _ plain ran ih =>
    obtain ⟨wf', extra, log, sound⟩ := Order.throughout ran plain Step.wellFormed ih.1
    refine ⟨wf', fun entry member => ?_⟩
    rcases List.mem_append.mp member with early | late
    · exact ih.2 entry early
    · rw [log] at late
      exact sound entry (by simpa using late)
  | renamed _ renames ran settled ih => exact ⟨Order.sound ran renames ih.1 settled, ih.2⟩

namespace Sample

def drive : Segment := ⟨"d", by decide⟩

def docs : EntityId := ⟨drive, ⟨"docs", by decide⟩⟩

def note : EntityId := ⟨drive, ⟨"note", by decide⟩⟩

/-- Two folders beside each other. -/
def apart : MemoryStore := .ofEntities [.folder ⟨docs, "docs", none⟩, .folder ⟨note, "note", none⟩]

/-- Puts one of them into the other. -/
def putTogether : Order :=
  .plan { paths := [.ofFolder note], destination := .ofFolder docs, interactive := false }

theorem apart_wellFormed : apart.contents.WellFormed :=
  (Contents.WellFormed.empty.insert_folder (by simp)).insert_folder (by simp)

end Sample

open Sample in
theorem Session.putTogether_wellFormed_throughout : ∃ seen store, Session apart seen store ∧
    store.contents.folder? note = some ⟨note, "note", some docs⟩ ∧
    store.contents.WellFormed ∧ ∀ entry ∈ seen, entry.contents.WellFormed := by
  have moved : ((putTogether.run Setup.quiet.host 3 ⟨apart, (), []⟩).map
      fun outcome => outcome.2.store.contents.folder? note) =
      some (some ⟨note, "note", some docs⟩) := by decide +kernel
  obtain ⟨⟨result, after⟩, ran, inDocs⟩ := Option.map_eq_some_iff.mp moved
  have session : Session apart ([] ++ after.log) after.store :=
    .worked .opened (by simp [putTogether, Order.RenamesFolder, Path.ofFolder]) ran
  exact ⟨_, _, session, inDocs, Session.wellFormed_throughout session apart_wellFormed⟩

end Filing
