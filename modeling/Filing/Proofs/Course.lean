import Filing.Proofs.Collision

/-!
# The course of a move into a folder

A course is what happened while paths were moved into a folder, deed by deed: calls, turns to the job,
questions with their answers, and every change of what is stored, with what was made sure of at that
moment. A file that takes another one's place does so in one deed, on the grounds of what was
answered up to then.

## Main results

* `Course.file_spared`: a file goes for good only in an overwrite that was accepted, from its last
  folder.
* `Course.folder_spared`: a folder goes only when it is empty, after a merge of what was in it.
* `Course.heard_eq`: what was heard is what surroundings that keep a record have on it.
-/
namespace Filing

variable {τ : Type}

/-- A question that was asked, and the answer to it. -/
abbrev Answered := Question × Option Decision

/-- The surroundings have on record which questions were asked and how they were answered. -/
structure Setup.Records (setup : Setup τ) (record : τ → List Answered) : Prop where
  call : ∀ method id around, record (setup.faults method id around).2 = record around
  turn : ∀ {around later}, setup.job.Turns around later → record later = record around
  ask : ∀ question around, record ((setup.job.ask question).run around).2 =
    record around ++ [(question, ((setup.job.ask question).run around).1)]

theorem Setup.Records.drift {setup : Setup τ} {record : τ → List Answered}
    (records : setup.Records record) {around later : τ} (drift : setup.faults.Drift around later) :
    record later = record around := drift.eq_of_kept records.call

/-- Overwriting is the last answer, to this very question, or an earlier one for all of them. -/
def Accepted (heard : List Answered) (question : Question) : Prop :=
  (∃ forAll, heard.getLast? = some (question, some ⟨true, forAll⟩)) ∨
  ∃ other, (other, some ⟨true, true⟩) ∈ heard

/-- Where a request has got to. -/
structure Moment (τ : Type) extends Stage where
  around : τ
  /-- The questions so far. -/
  heard : List Answered
  /-- The folders so far whose children were sent on to another folder. -/
  merged : List EntityId

inductive Deed where
  | call
  | turn
  | ask (question : Question) (answer : Option Decision)
  | relist (file target : EntityId)
  /-- The file `taker` is listed in `target`, and `loser` no longer. -/
  | overwrite (taker loser target : EntityId)
  | reparent (folder target : EntityId)
  | merge (source target : EntityId)
  | dissolve (folder : EntityId)
  deriving DecidableEq

def Deed.isOverwrite : Deed → Bool
  | overwrite .. => true
  | _ => false

/-- What a deed makes of one moment, and what it takes. -/
inductive Deed.Does (setup : Setup τ) (rules : Rules) : Deed → Moment τ → Moment τ → Prop
  | call {m around} (drift : setup.faults.Drift m.around around) :
      Does setup rules .call m { m with around }
  | turn {m around} (turns : setup.job.Turns m.around around) :
      Does setup rules .turn m { m with around }
  | ask {m question answer around}
      (told : (setup.job.ask question).run m.around = (answer, around)) :
      Does setup rules (.ask question answer) m
        { m with around, heard := m.heard ++ [(question, answer)] }
  | relist {m file source target} (relists : Relists m.store file source target)
      (free : m.store.contents.FreeFileName file.name target (some file.id)) :
      Does setup rules (.relist file.id target) m { m with
        store := m.store.save (.file (file.reparent source target).1)
        tally := { m.tally with filesMoved := m.tally.filesMoved + 1 } }
  | overwrite {m file existing source target}
      (displaces : Displaces rules m.store file existing target)
      (accepted : Accepted m.heard ⟨file.id, existing.id⟩)
      (relists : Relists m.store file source target) :
      Does setup rules (.overwrite file.id existing.id target) m { m with
        store := (m.store.takeOut existing target).save (.file (file.reparent source target).1)
        tally := { m.tally with
          filesOverwritten := m.tally.filesOverwritten + 1
          filesMoved := m.tally.filesMoved + 1 } }
  /-- The file has been in the folder all along. -/
  | oust {m file existing target} (displaces : Displaces rules m.store file existing target)
      (accepted : Accepted m.heard ⟨file.id, existing.id⟩) (already : target ∈ file.parents) :
      Does setup rules (.overwrite file.id existing.id target) m { m with
        store := m.store.takeOut existing target
        tally := { m.tally with filesOverwritten := m.tally.filesOverwritten + 1 } }
  | reparent {m folder target} (reparents : Reparents m.store folder target)
      (free : m.store.contents.FreeFolderName folder.name target (some folder.id)) :
      Does setup rules (.reparent folder.id target) m { m with
        store := m.store.save (.folder { folder with parent := some target })
        tally := { m.tally with foldersMoved := m.tally.foldersMoved + 1 } }
  | merge {m folder existing target} (reparents : Reparents m.store folder target)
      (clash : FolderClash m.store.contents folder.name existing target (some folder.id)) :
      Does setup rules (.merge folder.id existing) m { m with
        merged := m.merged ++ [folder.id]
        tally := { m.tally with foldersMerged := m.tally.foldersMerged + 1 } }
  | dissolve {m id} (dissolves : Dissolves m.store id) (merged : id ∈ m.merged) :
      Does setup rules (.dissolve id) m { m with store := m.store.discard id }

theorem Deed.Does.merged_cases {setup : Setup τ} {rules : Rules} {deed : Deed} {m between : Moment τ}
    (does : deed.Does setup rules m between) :
    between.merged = m.merged ∨
      ∃ source target, deed = .merge source target ∧ between.merged = m.merged ++ [source] := by
  cases does with
  | merge _ _ => exact .inr ⟨_, _, rfl, rfl⟩
  | call _ => exact .inl rfl
  | turn _ => exact .inl rfl
  | ask _ => exact .inl rfl
  | relist _ _ => exact .inl rfl
  | overwrite _ _ _ => exact .inl rfl
  | oust _ _ _ => exact .inl rfl
  | reparent _ _ => exact .inl rfl
  | dissolve _ _ => exact .inl rfl

/-- A deed between two moments. -/
structure Event (τ : Type) where
  before : Moment τ
  deed : Deed
  after : Moment τ

/-- These events, one after another, lead from one moment to another. -/
inductive Course (setup : Setup τ) (rules : Rules) : Moment τ → List (Event τ) → Moment τ → Prop
  | done (m) : Course setup rules m [] m
  | on {m between last deed events} (does : deed.Does setup rules m between)
      (rest : Course setup rules between events last) :
      Course setup rules m (⟨m, deed, between⟩ :: events) last

namespace Course

variable {setup : Setup τ} {rules : Rules} {m between last : Moment τ} {events later : List (Event τ)}

theorem single {deed : Deed} (does : deed.Does setup rules m last) :
    Course setup rules m [⟨m, deed, last⟩] last := .on does (.done last)

theorem append (course : Course setup rules m events between)
    (course' : Course setup rules between later last) :
    Course setup rules m (events ++ later) last := by
  induction course with
  | done _ => exact course'
  | on does _ ih => exact .on does (ih course')

theorem concat (course : Course setup rules m events between) {deed : Deed}
    (does : deed.Does setup rules between last) :
    Course setup rules m (events ++ [⟨between, deed, last⟩]) last := course.append (.single does)

theorem does_of_mem (course : Course setup rules m events last) {event : Event τ}
    (member : event ∈ events) : event.deed.Does setup rules event.before event.after := by
  induction course with
  | done _ => cases member
  | on does _ ih =>
    rcases List.mem_cons.mp member with rfl | later
    · exact does
    · exact ih later

/-- What every deed keeps, or else does away with in a certain way, is kept by the whole course, or
else there is a first event that does away with it. -/
theorem kept_or {P : Moment τ → Prop} {Q : Event τ → Prop}
    (step : ∀ {m deed between}, Deed.Does setup rules deed m between → P m →
      P between ∨ Q ⟨m, deed, between⟩)
    (course : Course setup rules m events last) (start : P m) :
    P last ∨ ∃ earlier event later, events = earlier ++ event :: later ∧
      Course setup rules m earlier event.before ∧ Q event := by
  induction course with
  | done _ => exact .inl start
  | @on m between last deed events does _ ih =>
    -- Either this event does away with it, or it is a matter of the later ones.
    rcases step does start with holds | done
    · refine (ih holds).imp_right ?_
      rintro ⟨earlier, event, later, rfl, before, done⟩
      exact ⟨_ :: earlier, event, later, rfl, .on does before, done⟩
    · exact .inr ⟨[], _, events, rfl, .done m, done⟩

/-- A folder counts as merged because of a merge. -/
theorem mem_merged (course : Course setup rules m events last) {id : EntityId}
    (merged : id ∈ last.merged) :
    id ∈ m.merged ∨ ∃ event ∈ events, ∃ target, event.deed = .merge id target := by
  induction course with
  | done _ => exact .inl merged
  | @on m between last deed events does _ ih =>
    rcases ih merged with here | ⟨event, member, target, same⟩
    · rcases does.merged_cases with kept | ⟨source, target, rfl, longer⟩
      · exact .inl (kept ▸ here)
      · rw [longer] at here
        rcases List.mem_append.mp here with early | now
        · exact .inl early
        · exact .inr ⟨_, List.mem_cons_self, target, by rw [List.mem_singleton.mp now]⟩
    · exact .inr ⟨event, List.mem_cons_of_mem _ member, target, same⟩

theorem merged_subset (course : Course setup rules m events last) : m.merged ⊆ last.merged := by
  induction course with
  | done _ => exact List.Subset.refl _
  | on does _ ih =>
    refine fun id member => ih ?_
    rcases does.merged_cases with kept | ⟨_, _, _, longer⟩
    · exact kept ▸ member
    · exact longer ▸ List.mem_append_left _ member

end Course

/-! ## Files -/

/-- The file is still there, and some folder lists it if one did. -/
def File.SparedIn (file : File) (c : Contents) : Prop :=
  ∃ later, c.file? file.id = some later ∧ later.name = file.name ∧ later.content = file.content ∧
    ((∃ folder, folder ∈ file.parents) → ∃ folder, folder ∈ later.parents)

namespace File.SparedIn

variable {file later : File} {c c' : Contents} {s : MemoryStore}

theorem of_file? (stored : c.file? file.id = some file) : file.SparedIn c :=
  ⟨file, stored, rfl, rfl, fun listed => listed⟩

theorem trans (stored : c.file? file.id = some later) (name : later.name = file.name)
    (content : later.content = file.content)
    (listed : (∃ folder, folder ∈ file.parents) → ∃ folder, folder ∈ later.parents)
    (spared : later.SparedIn c') : file.SparedIn c' := by
  obtain ⟨last, stored', name', content', listed'⟩ := spared
  have sameId : later.id = file.id := Contents.id_of_file? stored
  exact ⟨last, sameId ▸ stored', name'.trans name, content'.trans content, fun h => listed' (listed h)⟩

/-- Going to another folder spares a file and every other one. -/
theorem relist {moved : File} (stored : s.contents.file? file.id = some file)
    (storedMoved : s.contents.file? moved.id = some moved) (source : Option EntityId)
    (target : EntityId) :
    file.SparedIn (s.save (.file (moved.reparent source target).1)).contents := by
  have saved : (moved.reparent source target).1.id = moved.id := rfl
  unfold SparedIn MemoryStore.save
  rw [Contents.file?_insert_file, saved]
  split
  next same =>
    rw [same, stored] at storedMoved
    cases storedMoved
    refine ⟨_, rfl, rfl, rfl, fun _ => ⟨target, ?_⟩⟩
    exact File.mem_parents_reparent.mpr (.inl rfl)
  next => exact of_file? stored

/-- Leaving a folder spares a file that another folder lists, and every other file. -/
theorem takeOut {ousted : File} (stored : s.contents.file? file.id = some file)
    (storedOusted : s.contents.file? ousted.id = some ousted) (parent : EntityId)
    (saved : ousted.id ≠ file.id ∨ ousted.isElsewhere parent = true) :
    file.SparedIn (s.takeOut ousted parent).contents := by
  unfold SparedIn
  rw [MemoryStore.file?_takeOut]
  split
  next same =>
    have elsewhere : ousted.isElsewhere parent = true := saved.resolve_left fun differs => differs same
    rw [same, stored] at storedOusted
    cases storedOusted
    obtain ⟨other, listed, apart⟩ := File.isElsewhere_iff.mp elsewhere
    rw [if_pos elsewhere]
    exact ⟨_, rfl, rfl, rfl, fun _ => ⟨other, IdSet.mem_erase.mpr ⟨apart, listed⟩⟩⟩
  next => exact of_file? stored

end File.SparedIn

/-- The file that was overwritten goes for good: the folder was the only one that listed it. -/
structure Event.Destroys (event : Event τ) (id taker target : EntityId) : Prop where
  deed : event.deed = .overwrite taker id target
  accepted : Accepted event.before.heard ⟨taker, id⟩
  only : ∃ file, event.before.store.contents.file? id = some file ∧
    ∀ folder, folder ∈ file.parents ↔ folder = target
  permitted : event.before.store.allows .delete id = true
  gone : event.after.store.contents.file? id = none

/-- What it means for any file that one gives way to another: it is spared, or it is the one that
gives way and has nowhere else to be. -/
theorem Displaces.spares_or {rules : Rules} {store : MemoryStore} {taker existing file : File}
    {target : EntityId} (displaces : Displaces rules store taker existing target)
    (stored : store.contents.file? file.id = some file) :
    file.SparedIn (store.takeOut existing target).contents ∨
      existing.id = file.id ∧ (∀ folder, folder ∈ existing.parents ↔ folder = target) ∧
        store.allows .delete existing.id = true ∧
        (store.takeOut existing target).contents.file? existing.id = none := by
  by_cases saved : existing.id ≠ file.id ∨ existing.isElsewhere target = true
  · exact .inl (.takeOut stored displaces.storedExisting target saved)
  · obtain ⟨same, only⟩ : existing.id = file.id ∧ existing.isElsewhere target = false := by
      simpa using saved
    refine .inr ⟨same, fun folder => ⟨File.isElsewhere_eq_false_iff.mp only folder, ?_⟩, ?_, ?_⟩
    · rintro rfl
      exact displaces.listed
    · simpa [File.removalPermission, only] using displaces.permitted
    · simp [MemoryStore.file?_takeOut, only]

namespace Deed.Does

variable {setup : Setup τ} {rules : Rules} {deed : Deed} {m between : Moment τ}

theorem spares_or_destroys (does : deed.Does setup rules m between) {file : File}
    (stored : m.store.contents.file? file.id = some file) :
    file.SparedIn between.store.contents ∨
      ∃ taker target, Event.Destroys ⟨m, deed, between⟩ file.id taker target := by
  cases does with
  | relist relists _ => exact .inl (.relist stored relists.stored _ _)
  -- These leave alone what is stored.
  | call _ => exact .inl (.of_file? stored)
  | turn _ => exact .inl (.of_file? stored)
  | ask _ => exact .inl (.of_file? stored)
  | merge _ _ => exact .inl (.of_file? stored)
  | @overwrite _ taker existing source target displaces accepted relists =>
    rcases displaces.spares_or stored with spared | ⟨same, only, permitted, gone⟩
    -- What is left after the other file has gone is spared once more when this one arrives.
    · have there : (m.store.takeOut existing target).contents.file? taker.id = some taker := by
        rw [MemoryStore.file?_takeOut, if_neg displaces.differs]
        exact displaces.stored
      obtain ⟨left, stored', name, content, listed⟩ := spared
      have sameId : left.id = file.id := Contents.id_of_file? stored'
      exact .inl (.trans stored' name content listed (.relist (sameId ▸ stored') there _ _))
    -- The file that arrives is another one, so the one that went is not saved again.
    · have apart : ¬ (taker.reparent source target).1.id = existing.id :=
        fun here => displaces.differs here.symm
      rw [← same]
      refine .inr ⟨taker.id, target, rfl, accepted, ⟨existing, displaces.storedExisting, only⟩,
        permitted, ?_⟩
      simpa [MemoryStore.save, apart] using gone
  | @oust _ taker existing target displaces accepted already =>
    rcases displaces.spares_or stored with spared | ⟨same, only, permitted, gone⟩
    · exact .inl spared
    · rw [← same]
      exact .inr ⟨taker.id, target, rfl, accepted, ⟨existing, displaces.storedExisting, only⟩,
        permitted, gone⟩
  -- What is reparented or dissolved is a folder, so no file is stored there.
  | @reparent _ folder target reparents _ =>
    have apart : ¬ folder.id = file.id := by
      intro same
      have noFile := Contents.file?_eq_none_of_folder? reparents.stored
      simp [same, stored] at noFile
    refine .inl ⟨file, ?_, rfl, rfl, fun listed => listed⟩
    simpa [MemoryStore.save, apart] using stored
  | @dissolve _ id dissolves _ =>
    have apart : ¬ id = file.id := by
      rintro rfl
      obtain ⟨folder, found⟩ := dissolves.stored
      simp [Contents.file?_eq_none_of_folder? found] at stored
    refine .inl ⟨file, ?_, rfl, rfl, fun listed => listed⟩
    simpa [MemoryStore.discard, apart] using stored

/-- What is permitted stays permitted, and nothing else is. -/
theorem allows (does : deed.Does setup rules m between) :
    between.store.allows = m.store.allows := by
  cases does with
  | overwrite _ _ _ => exact MemoryStore.allows_takeOut _ _ _
  | oust _ _ _ => exact MemoryStore.allows_takeOut _ _ _
  | call _ => rfl
  | turn _ => rfl
  | ask _ => rfl
  | relist _ _ => rfl
  | reparent _ _ => rfl
  | merge _ _ => rfl
  | dissolve _ _ => rfl

theorem heard_eq {record : τ → List Answered} (does : deed.Does setup rules m between)
    (records : setup.Records record) (same : record m.around = m.heard) :
    record between.around = between.heard := by
  cases does with
  | call drift => exact (records.drift drift).trans same
  | turn turns => exact (records.turn turns).trans same
  | @ask _ question answer around told =>
    have asked := records.ask question m.around
    rw [told, same] at asked
    exact asked
  | relist _ _ => exact same
  | overwrite _ _ _ => exact same
  | oust _ _ _ => exact same
  | reparent _ _ => exact same
  | merge _ _ => exact same
  | dissolve _ _ => exact same

/-- The file that takes another one's place is listed there afterwards. -/
theorem listed_of_overwrite {taker loser target : EntityId}
    (does : (Deed.overwrite taker loser target).Does setup rules m between) :
    ∃ file, between.store.contents.file? taker = some file ∧ target ∈ file.parents := by
  cases does with
  | @overwrite _ file existing source target displaces _ relists =>
    refine ⟨(file.reparent source target).1, ?_, File.mem_parents_reparent.mpr (.inl rfl)⟩
    have saved : (file.reparent source target).1.id = file.id := rfl
    simp [MemoryStore.save, saved]
  | @oust _ file existing target displaces _ already =>
    refine ⟨file, ?_, already⟩
    rw [MemoryStore.file?_takeOut, if_neg displaces.differs]
    exact displaces.stored

/-- Where nobody is asked, nothing is overwritten. -/
theorem asked_of_overwrite {taker loser target : EntityId}
    (does : (Deed.overwrite taker loser target).Does setup rules m between) :
    rules.interactive = true := by
  cases does with
  | overwrite displaces _ _ => exact displaces.asked
  | oust displaces _ _ => exact displaces.asked

end Deed.Does

/-! ## Folders -/

/-- The folder is still there under its name. -/
def Folder.SparedIn (folder : Folder) (c : Contents) : Prop :=
  ∃ later, c.folder? folder.id = some later ∧ later.name = folder.name

/-- The folder goes, and nothing is in it. -/
structure Event.Empties (event : Event τ) (id : EntityId) : Prop where
  deed : event.deed = .dissolve id
  merged : id ∈ event.before.merged
  vacant : event.before.store.contents.Vacant id
  permitted : event.before.store.allows .delete id = true
  gone : event.after.store.contents.folder? id = none

theorem Deed.Does.spares_or_empties {setup : Setup τ} {rules : Rules} {deed : Deed}
    {m between : Moment τ} (does : deed.Does setup rules m between) {folder : Folder}
    (stored : m.store.contents.folder? folder.id = some folder) :
    folder.SparedIn between.store.contents ∨ Event.Empties ⟨m, deed, between⟩ folder.id := by
  -- Whatever has the identifier of a file is not this folder.
  have besides {file : File} (found : m.store.contents.file? file.id = some file) :
      ¬ file.id = folder.id := by
    intro same
    simp [same, Contents.file?_eq_none_of_folder? stored] at found
  cases does with
  | call _ => exact .inl ⟨folder, stored, rfl⟩
  | turn _ => exact .inl ⟨folder, stored, rfl⟩
  | ask _ => exact .inl ⟨folder, stored, rfl⟩
  | merge _ _ => exact .inl ⟨folder, stored, rfl⟩
  | @relist _ file source target relists _ =>
    have noFolder := besides relists.stored
    have apart : ¬ (file.reparent source target).1.id = folder.id := noFolder
    refine .inl ⟨folder, ?_, rfl⟩
    simpa [MemoryStore.save, apart] using stored
  | @overwrite _ taker existing source target displaces _ relists =>
    have noFolder := besides relists.stored
    have apart : ¬ (taker.reparent source target).1.id = folder.id := noFolder
    refine .inl ⟨folder, ?_, rfl⟩
    simpa [MemoryStore.save, apart, MemoryStore.folder?_takeOut displaces.storedExisting] using stored
  | oust displaces _ _ =>
    refine .inl ⟨folder, ?_, rfl⟩
    rw [MemoryStore.folder?_takeOut displaces.storedExisting, stored]
  | @reparent _ other target reparents _ =>
    -- A folder that is put elsewhere keeps its name.
    by_cases same : other.id = folder.id
    · have here := reparents.stored
      rw [same, stored] at here
      cases here
      exact .inl ⟨{ folder with parent := some target }, by simp [MemoryStore.save], rfl⟩
    · exact .inl ⟨folder, by simpa [MemoryStore.save, same] using stored, rfl⟩
  | @dissolve _ id dissolves merged =>
    by_cases same : id = folder.id
    · subst same
      exact .inr ⟨rfl, merged, dissolves.vacant, dissolves.permitted, by simp [MemoryStore.discard]⟩
    · exact .inl ⟨folder, by simpa [MemoryStore.discard, same] using stored, rfl⟩

/-! ## The whole course -/

namespace Course

variable {setup : Setup τ} {rules : Rules} {m last : Moment τ} {events : List (Event τ)}

theorem file_spared (course : Course setup rules m events last) {file : File}
    (stored : m.store.contents.file? file.id = some file) :
    file.SparedIn last.store.contents ∨
      ∃ event ∈ events, ∃ taker target, event.Destroys file.id taker target := by
  have through := course.kept_or (P := fun m => file.SparedIn m.store.contents)
    (Q := fun event => ∃ taker target, event.Destroys file.id taker target) ?_ (.of_file? stored)
  · refine through.imp_right ?_
    rintro ⟨earlier, event, later, rfl, _, destroys⟩
    exact ⟨event, by simp, destroys⟩
  -- By now it may be listed elsewhere, so each deed is about the file as it is at that moment.
  · rintro m deed between does ⟨current, stored, name, content, listed⟩
    have sameId : current.id = file.id := Contents.id_of_file? stored
    rw [← sameId] at stored ⊢
    refine (does.spares_or_destroys stored).imp_left fun spared => ?_
    exact .trans (sameId ▸ stored) name content listed spared

theorem folder_spared (course : Course setup rules m events last) (fresh : m.merged = [])
    {folder : Folder} (stored : m.store.contents.folder? folder.id = some folder) :
    folder.SparedIn last.store.contents ∨
      ∃ earlier event later, events = earlier ++ event :: later ∧ event.Empties folder.id ∧
        ∃ merge ∈ earlier, ∃ target, merge.deed = .merge folder.id target := by
  -- As no folder counted as merged at first, the one that goes was merged in an earlier event.
  have through := course.kept_or (P := fun m => folder.SparedIn m.store.contents)
    (Q := fun event => event.Empties folder.id) ?_ ⟨folder, stored, rfl⟩
  · refine through.imp_right ?_
    rintro ⟨earlier, event, later, split, before, empties⟩
    refine ⟨earlier, event, later, split, empties, ?_⟩
    exact (before.mem_merged empties.merged).resolve_left (by simp [fresh])
  · rintro m deed between does ⟨current, stored, name⟩
    have sameId : current.id = folder.id := Contents.id_of_folder? stored
    rw [← sameId] at stored ⊢
    refine (does.spares_or_empties stored).imp_left ?_
    rintro ⟨later, stored', name'⟩
    exact ⟨later, sameId ▸ stored', name'.trans name⟩

theorem allows (course : Course setup rules m events last) {event : Event τ}
    (member : event ∈ events) : event.before.store.allows = m.store.allows := by
  induction course with
  | done _ => cases member
  | on does _ ih =>
    rcases List.mem_cons.mp member with rfl | later
    · rfl
    · exact (ih later).trans does.allows

/-- The report counts every overwrite, and nothing else as one. -/
theorem filesOverwritten (course : Course setup rules m events last) :
    last.tally.filesOverwritten =
      m.tally.filesOverwritten + events.countP (·.deed.isOverwrite) := by
  induction course with
  | done _ => rfl
  | on does _ ih =>
    rw [ih, List.countP_cons]
    cases does with
    | overwrite _ _ _ =>
      simp only [Deed.isOverwrite, if_true]
      omega
    | oust _ _ _ =>
      simp only [Deed.isOverwrite, if_true]
      omega
    | call _ => rfl
    | turn _ => rfl
    | ask _ => rfl
    | relist _ _ => rfl
    | reparent _ _ => rfl
    | merge _ _ => rfl
    | dissolve _ _ => rfl

/-- What surroundings that keep a record have on it is what was heard. -/
theorem heard_eq {record : τ → List Answered} (course : Course setup rules m events last)
    (records : setup.Records record) (same : record m.around = m.heard) :
    record last.around = last.heard ∧
      ∀ event ∈ events, record event.before.around = event.before.heard := by
  induction course with
  | done _ => exact ⟨same, by simp⟩
  | on does _ ih =>
    obtain ⟨ended, through⟩ := ih (does.heard_eq records same)
    refine ⟨ended, fun event member => ?_⟩
    rcases List.mem_cons.mp member with rfl | later
    · exact same
    · exact through event later

/-- What became of everything that was stored at the first moment. -/
structure Spares (first : Moment τ) (events : List (Event τ)) (last : Moment τ) : Prop where
  files : ∀ file, first.store.contents.file? file.id = some file →
    file.SparedIn last.store.contents ∨
      ∃ event ∈ events, ∃ taker target, event.Destroys file.id taker target
  /-- In every overwrite the other file gets to where it was to go. -/
  takers : ∀ event ∈ events, ∀ taker loser target, event.deed = .overwrite taker loser target →
    ∃ file, event.after.store.contents.file? taker = some file ∧ target ∈ file.parents
  folders : ∀ folder, first.store.contents.folder? folder.id = some folder →
    folder.SparedIn last.store.contents ∨
      ∃ earlier event later, events = earlier ++ event :: later ∧ event.Empties folder.id ∧
        ∃ merge ∈ earlier, ∃ target, merge.deed = .merge folder.id target
  /-- Nothing is permitted or denied in between that was not at first. -/
  permissions : ∀ event ∈ events, event.before.store.allows = first.store.allows

theorem spares (course : Course setup rules m events last) (fresh : m.merged = []) :
    Spares m events last where
  files _ stored := course.file_spared stored
  takers event member taker loser target deed := by
    have does := course.does_of_mem member
    rw [deed] at does
    exact does.listed_of_overwrite
  folders _ stored := course.folder_spared fresh stored
  permissions _ member := course.allows member

end Course

end Filing
