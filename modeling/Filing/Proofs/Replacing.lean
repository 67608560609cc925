import Filing.Proofs.Asking

/-!
# What takes the place of an overwritten file

The file in the way of a copy is taken out before there is an identifier for the copy. So the copy gets
the place (`Collision.Replaced`) exactly if an identifier is free by then and may be used. Otherwise the
copy fails, and the overwritten file has left for nothing (`Collision.Follows`).

## Main results

- `Action.replaces_copyFile`: what one file's copy does to the other files.
- `Request.copy_replaces`: in a whole copy, an overwritten file is replaced unless its replacement
  got no identifier, and no other file is touched.
-/
namespace Filing

variable {τ : Type}

/-- What is stored once the existing file has left. -/
def Collision.vacated (collision : Collision) (s : MemoryStore) : MemoryStore :=
  s.takeOut collision.existing collision.target

/-- The copy that goes where the existing file was. -/
def Collision.copy (collision : Collision) (id : EntityId) : File :=
  collision.file.copyTo id collision.file.name (some collision.target)

/-- The folder lists a new file, which has the name of the existing one and the content of the file that
was copied. Everything else is stored as it was when the existing file had left. -/
structure Collision.Replaced (collision : Collision) (before after : MemoryStore) (copy : File) :
    Prop where
  fresh : (collision.vacated before).has copy.id = false
  stored : after.contents.file? copy.id = some copy
  listed : ∃ listing, after.contents.listing? collision.target = some listing ∧
    copy.id ∈ listing.childFiles
  sameName : copy.name = collision.existing.name
  sameContent : copy.content = collision.file.content
  others : ∀ id, id ≠ copy.id → after.contents.find? id = (collision.vacated before).contents.find? id

/-- What follows in a copy when the existing file has left. -/
inductive Collision.Follows (suffixing : Suffixing) (collision : Collision) (before : MemoryStore) :
    Except RequestError Unit → MemoryStore → Prop
  | replaced {copy after}
      (given : (collision.vacated before).freeId suffixing collision.target.drive.text
        collision.file.id.name.text = .ok copy.id)
      (permitted : before.allows .edit copy.id = true)
      (replaced : collision.Replaced before after copy) :
      Follows suffixing collision before (.ok ()) after
  /-- There is no identifier for the copy, and the existing file does not come back. -/
  | unnamed {error}
      (unnamed : Unnamed (collision.vacated before) suffixing collision.target.drive.text
        collision.file.id.name.text error) :
      Follows suffixing collision before (.error error) (collision.vacated before)

/-- What there is when it is clear whether a file may go on its way. -/
inductive Desk.Clears (before : Desk (Cabinet τ)) (met : Option Collision)
    (result : Except RequestError Bool) (after : Desk (Cabinet τ)) : Prop
  | stays (store : after.world.store = before.world.store)
      (tally : after.report.tally = before.report.tally)
  | vacates {collision} (met : met = some collision) (free : result = .ok true)
      (store : after.world.store = collision.vacated before.world.store)
      (tally : after.report.tally = { before.report.tally with
        filesOverwritten := before.report.tally.filesOverwritten + 1 })

/-- What comes of copying one file with a store that does what is asked of it. -/
inductive Desk.Copies (suffixing : Suffixing) (before : Desk (Cabinet τ)) (met : Option Collision)
    (result : Except RequestError Unit) (after : Desk (Cabinet τ)) : Prop
  | keeps (keeps : ∀ id entity, before.world.store.contents.find? id = some entity →
        after.world.store.contents.find? id = some entity)
      (count : after.report.tally.filesOverwritten = before.report.tally.filesOverwritten)
  | overwrites {collision} (met : met = some collision)
      (follows : collision.Follows suffixing before.world.store result after.world.store)
      (count : after.report.tally.filesOverwritten = before.report.tally.filesOverwritten + 1)

/-- One file was copied. Unless it was ruled that another file goes, everything that was stored stays as
it is. If it was, the copy either has its place or fails for want of an identifier. -/
structure Scene.Copies (setup : Setup τ) (scene : Scene τ) : Prop where
  errand : ∃ id target, scene.errand = .copy id target
  keeps : (∀ ruling, scene.ruling = some ruling → ruling.verdict ≠ .overwrite) → ∀ id entity,
    scene.before.world.store.contents.find? id = some entity →
      scene.after.world.store.contents.find? id = some entity
  follows : ∀ ruling, scene.ruling = some ruling → ruling.verdict = .overwrite →
    ruling.collision.In scene.before.world.store ∧ ruling.collision.file.id = scene.errand.file ∧
    ruling.collision.target = scene.errand.target ∧
    ∃ result, scene.errand.run setup.host scene.before = some (result, scene.after) ∧
      ruling.collision.Follows setup.suffixing scene.before.world.store result scene.after.world.store

namespace Collision

variable {collision : Collision} {s : MemoryStore}

theorem In.folder?_vacated (holds : collision.In s) (id : EntityId) :
    (collision.vacated s).contents.folder? id = s.contents.folder? id :=
  MemoryStore.folder?_takeOut holds.storedExisting collision.target id

theorem allows_vacated (collision : Collision) (s : MemoryStore) :
    (collision.vacated s).allows = s.allows :=
  s.allows_takeOut collision.existing collision.target

/-- A copy that is saved under an identifier of its own is in place. -/
theorem In.replaced (holds : collision.In s) {id : EntityId}
    (creates : Creates (collision.vacated s) id (some collision.target)) :
    collision.Replaced s ((collision.vacated s).save (.file (collision.copy id)))
      (collision.copy id) := by
  obtain ⟨folder, there⟩ := creates.destination _ rfl
  have noFolder : (collision.vacated s).contents.folder? (collision.copy id).id = none :=
    Contents.folder?_eq_none_of_unused creates.unused
  have folderStays := (Contents.folder?_insert_file_of_noFolder noFolder _).trans there
  have stored : ((collision.vacated s).save (.file (collision.copy id))).contents.file?
      (collision.copy id).id = some (collision.copy id) := by simp [MemoryStore.save]
  refine ⟨creates.unused, stored, ?_, holds.sameName.symm, rfl, fun x differs => ?_⟩
  · refine ⟨⟨folder, _, _⟩, Contents.listing?_eq_some_iff.mpr ⟨folderStays, rfl, rfl⟩, ?_⟩
    exact Contents.mem_childFiles.mpr ⟨_, stored, File.mem_parents_copyTo.mpr rfl⟩
  · have other : ¬ Entity.id (.file (collision.copy id)) = x := differs.symm
    simp [MemoryStore.save, other]

end Collision

namespace Action

variable {setup : Setup τ} {first desk : Desk (Cabinet τ)} {extra : List Entry}

theorem clears_makeRoom (reliable : setup.Reliable) (glanced : first.Glanced setup.faults desk extra)
    {file : File} {target : EntityId} {destination : Listing} {except : Option EntityId}
    (found : first.world.store.contents.listing? target = some destination) :
    (makeRoom setup.host file destination target except).Meets desk
      (first.Clears (first.world.store.collision? file target except)) := by
  refine (admits_makeRoom reliable glanced found).mono ?_
  rintro result after ⟨ruling, admits⟩
  have met := admits.rules.met
  cases admits with
  | free glanced _ => exact .stays glanced.store glanced.kept.tally
  | denied glanced _ _ => exact .stays glanced.store glanced.kept.tally
  | spared _ _ _ _ _ store report =>
    obtain ⟨_, report⟩ := report
    exact .stays store (by rw [report])
  | evicted _ _ about _ _ store report =>
    obtain ⟨_, report⟩ := report
    rw [Option.map_some, about] at met
    exact .vacates met.symm rfl store (by rw [report])

/-- The copy is made where the way is clear. -/
theorem copies_createFile (reliable : setup.Reliable) {file : File} {target : EntityId}
    {met : Option Collision} {free : Bool} {roomed : Desk (Cabinet τ)}
    (clears : desk.Clears met (.ok free) roomed)
    (about : ∀ collision, met = some collision →
      collision.In desk.world.store ∧ collision.file = file ∧ collision.target = target)
    {folder : Folder} (there : desk.world.store.contents.folder? target = some folder) :
    (createFile setup.host file target.drive.text file.id.name.text file.name (some target)).Meets
      roomed (desk.Copies setup.suffixing met) := by
  cases clears with
  | stays store tally =>
    have destination (parent : EntityId) (here : some target = some parent) :
        ∃ above, roomed.world.store.contents.folder? parent = some above := by
      cases here
      exact ⟨folder, by rw [store, there]⟩
    refine (meets_createFile (.refl roomed) file _ _ _ _ destination).mono fun result after ended => ?_
    cases result with
    | error error =>
      obtain ⟨_, kept, _⟩ := ended
      exact .keeps (fun _ _ stored => by rwa [kept.store, store]) (by rw [kept.tally, tally])
    | ok _ =>
      obtain ⟨copy, _, creates, changed⟩ := ended
      refine .keeps (fun x entity stored => ?_) (by rw [changed.tally, tally])
      rw [changed.store_eq]
      rw [← store] at stored
      exact Contents.find?_insert_of_unused creates.unused stored
  | @vacates collision same _ store tally =>
    obtain ⟨holds, rfl, rfl⟩ := about collision same
    have destination (parent : EntityId) (here : some collision.target = some parent) :
        ∃ above, roomed.world.store.contents.folder? parent = some above := by
      cases here
      exact ⟨folder, by rw [store, holds.folder?_vacated, there]⟩
    refine (meets_createFile (.refl roomed) collision.file _ _ _ _ destination).mono
      fun result after ended => ?_
    cases result with
    | error error =>
      -- The store does not fail, so it was the identifier.
      have unnamed : Unnamed _ _ _ _ error := ended.reason_of_reliable reliable
      obtain ⟨_, kept, _⟩ := ended
      rw [store] at unnamed
      refine .overwrites same ?_ (by rw [kept.tally, tally])
      rw [kept.store, store]
      exact .unnamed unnamed
    | ok _ =>
      obtain ⟨copy, given, creates, changed⟩ := ended
      rw [store] at given creates
      refine .overwrites same ?_ (by rw [changed.tally, tally])
      rw [changed.store_eq, store]
      have permitted := creates.permitted
      rw [collision.allows_vacated] at permitted
      exact .replaced given permitted (holds.replaced creates)

theorem replaces_copyFile (reliable : setup.Reliable) (id target : EntityId) :
    (copyFile setup.host id target).Meets desk
      (desk.Copies setup.suffixing ((Errand.copy id target).collision? desk.world.store)) := by
  -- Up to the point where a file leaves, nothing that is stored has changed.
  have untouched {result : Except RequestError Unit} {after : Desk (Cabinet τ)} (met : Option Collision)
      (store : after.world.store = desk.world.store)
      (tally : after.report.tally = desk.report.tally) :
      desk.Copies setup.suffixing met result after :=
    .keeps (fun _ _ stored => by rwa [store]) (by rw [tally])
  refine .copyFile ?_ ?_ ?_
  · exact fun after extra glanced _ => untouched _ glanced.store glanced.kept.tally
  · rintro error after ⟨extra, glanced, _⟩
    exact untouched _ glanced.store glanced.kept.tally
  · rintro file destination between extra stored rfl absent opened glanced
    have there := (Contents.listing?_eq_some_iff.mp opened).1
    rw [Errand.collision?_copy stored absent there]
    refine (clears_makeRoom reliable glanced opened).bind ?_ ?_
    · intro free roomed clears
      cases free with
      | false =>
        cases clears with
        | stays store tally => exact .pure (untouched _ store tally)
        | vacates _ free _ _ => cases free
      | true =>
        rw [if_pos rfl]
        refine copies_createFile reliable clears (fun collision met => ?_) there
        exact MemoryStore.in_of_collision? met stored (.inr ⟨rfl, absent⟩) (by simp [there])
    · intro error after clears
      cases clears with
      | stays store tally => exact untouched _ store tally
      | vacates _ free _ _ => cases free

end Action

/-- What a scene counts tells which of the two has come of it. -/
theorem Scene.Plays.copies {setup : Setup τ} {scene : Scene τ} (plays : scene.Plays setup)
    (reliable : setup.Reliable) {id target : EntityId} (errand : scene.errand = .copy id target) :
    scene.Copies setup := by
  obtain ⟨result, ran⟩ := plays.ran
  have met := plays.rules.met
  have count := plays.rules.ruled.filesOverwritten
  have copied := ran
  rw [errand] at met copied
  cases Action.replaces_copyFile reliable id target _ _ copied with
  | keeps keeps same =>
    refine ⟨⟨id, target, errand⟩, fun _ => keeps, fun ruling ruled overwrite => ?_⟩
    simp [ruled, overwrite, same] at count
  | @overwrites collision found follows more =>
    refine ⟨⟨id, target, errand⟩, fun none => ?_, fun ruling ruled _ => ?_⟩
    · cases ruled : scene.ruling with
      | none => simp [ruled, more] at count
      | some ruling => simp [ruled, more, none ruling ruled] at count
    · rw [ruled, found] at met
      cases Option.some.inj met
      obtain ⟨holds, file, there⟩ := Errand.in_of_collision? found
      exact ⟨holds, by rw [errand, file], by rw [errand, there], result, ran, follows⟩

/-- Whenever a file is overwritten in the course of a copy, the folder lists a new file with its name
and with the content of the file that is copied as soon as that one has had its turn, provided that
there is an identifier for the copy when the overwritten file has left. Without one, that file is gone
and nothing has come in its place. -/
theorem Request.copy_replaces {setup : Setup τ} (reliable : setup.Reliable) {request : Request}
    {depth : Nat} {cabinet after : Cabinet τ} {result : Except RequestError Report}
    (ran : request.copy setup.host depth cabinet = some (result, after)) :
    ∃ mode report scenes ended, result = .ok report ∧
      (request.desk .copy mode cabinet).Unfolds setup scenes ended ∧
      ended.report = report ∧ ended.world = after ∧
      report.tally.filesOverwritten =
        (scenes.filterMap Scene.ruling).countP (·.verdict = .overwrite) ∧
      ∀ scene ∈ scenes, scene.Copies setup := by
  obtain ⟨mode, scenes, ended, reported, unfolds, rfl, same⟩ :=
    unfolds_classified reliable (by decide) ran
  refine ⟨mode, ended.report, scenes, ended, reported, unfolds, rfl, rfl, ?_, fun scene member => ?_⟩
  · simpa [Request.desk] using unfolds.ruled.filesOverwritten
  · have copying := same scene member
    cases errand : scene.errand with
    | move _ _ _ => simp [errand, Errand.operation] at copying
    | copy id target => exact (unfolds.plays scene member).copies reliable errand

namespace Sample

/-- The identifier that a copy of the new file gets. -/
def newCopy : EntityId := ⟨drive, ⟨"new-1", by decide⟩⟩

/-- The old file is in the way of the new one. -/
def contested : Collision :=
  ⟨⟨new, "memo", [1], .ofList [note]⟩, ⟨old, "memo", [], .ofList [inside]⟩, inside⟩

/-- Nobody may edit what has the identifier of the copy. -/
def sealed : MemoryStore := { rivals with editDenied := .ofList [newCopy] }

theorem contested_sealed : contested.In sealed :=
  ⟨by decide, by decide, by decide, rfl, by decide, by decide,
    MemoryStore.allows_removal_iff.mp (by decide)⟩

end Sample

open Sample in
theorem Request.copy_replaces_rivals : ∃ report after, ∃ scenes : List (Scene (List Answered)),
    unite.copy agreeing.host 9 ⟨rivals, [], []⟩ = some (.ok report, after) ∧
    (∃ scene ∈ scenes, ∃ ruling, scene.ruling = some ruling ∧ ruling.verdict = .overwrite ∧
      scene.Copies agreeing) ∧
    after.store.contents.file? newCopy = some (contested.copy newCopy) := by
  have went : ((unite.copy agreeing.host 9 ⟨rivals, [], []⟩).map fun outcome =>
      (outcome.2.store.contents.file? newCopy, outcome.1.toOption.map fun report =>
        report.tally.filesOverwritten)) = some (some (contested.copy newCopy), some 1) := by
    decide +kernel
  obtain ⟨⟨result, after⟩, ran, found⟩ := Option.map_eq_some_iff.mp went
  obtain ⟨mode, report, scenes, ended, rfl, _, _, _, counted, copies⟩ :=
    copy_replaces agreeing_reliable ran
  obtain ⟨inPlace, overwritten⟩ := Prod.mk.inj found
  have once : report.tally.filesOverwritten = 1 := Option.some.inj overwritten
  rw [counted] at once
  obtain ⟨ruling, member, overwrites⟩ := List.countP_pos_iff.mp (once ▸ Nat.one_pos)
  obtain ⟨scene, played, ruled⟩ := List.mem_filterMap.mp member
  exact ⟨report, after, scenes, ran,
    ⟨scene, played, ruling, ruled, by simpa using overwrites, copies scene played⟩, inPlace⟩

open Sample in
/-- The copy is refused the only identifier it could have had, and the old file is gone all the same: the
folder lists no file afterwards. -/
theorem Request.not_copy_replaces_sealed : contested.In sealed ∧ ∃ report after listing,
    unite.copy agreeing.host 9 ⟨sealed, [], []⟩ = some (.ok report, after) ∧
    report.tally.filesOverwritten = 1 ∧ report.failures = [.permissionDenied .edit newCopy] ∧
    after.store.contents.listing? contested.target = some listing ∧ listing.childFiles = [] := by
  have went : ((unite.copy agreeing.host 9 ⟨sealed, [], []⟩).map fun outcome =>
      ((outcome.2.store.contents.listing? contested.target).map (·.childFiles),
        outcome.1.toOption.map fun report => (report.tally.filesOverwritten, report.failures))) =
      some (some [], some (1, [.permissionDenied .edit newCopy])) := by decide +kernel
  obtain ⟨⟨result, after⟩, ran, found⟩ := Option.map_eq_some_iff.mp went
  obtain ⟨bare, told⟩ := Prod.mk.inj found
  obtain ⟨listing, opened, empty⟩ := Option.map_eq_some_iff.mp bare
  cases result with
  | error _ => cases told
  | ok report =>
    obtain ⟨overwritten, failures⟩ := Prod.mk.inj (Option.some.inj told)
    exact ⟨contested_sealed, report, after, listing, ran, overwritten, failures, opened, empty⟩

end Filing
