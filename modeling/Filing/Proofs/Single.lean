import Filing.Proofs.Deleting
import Filing.Proofs.Following
import Filing.Proofs.Naming

/-!
# One item with a name of its own

A move of one path to a place and an identifier of its own ends in one of a few ways, which are the same
for a folder and for a file (`ItemRename`). The item is put where it should be first and gets its
identifier afterwards, so the one may happen without the other.

## Main results

- `Request.fails_once`: a failure is the only one, and it leaves everything as it was unless there is no
  identifier for the item in its new place.
- `Request.renames_exactly`: without failures, what is stored is what was stored, with the new identifier
  in place of the old one and the item in its place.
-/
namespace Filing

variable {τ : Type}

/-- The item got to its place, or it has been there. -/
inductive Stage.Places (before after : Stage) (item placed : Entity) : Prop
  | stays (same : after = before) (there : placed = item)
  | moved (permitted : before.store.allows .edit item.id = true)
      (saved : after = ⟨before.store.save placed, item.countMove before.tally⟩)

/-- What comes of renaming and relocating the item that `path` names. -/
inductive ItemRename (suffixing : Suffixing) (before : Stage) (path : Path) (target : Option EntityId)
    (desired : EntityId) : Except RequestError Unit → Stage → Prop
  | missing (missing : ∀ item, ¬ path.Names before.store.contents item) :
      ItemRename suffixing before path target desired (.ok ()) before
  | hindered {error} : ItemRename suffixing before path target desired (.error error) before
  | stays {item after} (names : path.Names before.store.contents item) (same : desired = item.id)
      (places : before.Places after item (item.relocate path.folder target)) :
      ItemRename suffixing before path target desired (.ok ()) after
  /-- The item is in its place, but there is no identifier for it. -/
  | unnamed {item after error} (names : path.Names before.store.contents item)
      (places : before.Places after item (item.relocate path.folder target))
      (unnamed : Unnamed before.store suffixing desired.drive.text desired.name.text error) :
      ItemRename suffixing before path target desired (.error error) after
  | renamed {item between new store tally} (names : path.Names before.store.contents item)
      (places : before.Places between item (item.relocate path.folder target))
      (differs : desired ≠ item.id) (removable : before.store.allows .delete item.id = true)
      (given : before.store.freeId suffixing desired.drive.text desired.name.text = .ok new)
      (permitted : before.store.allows .edit new = true)
      (renames : before.store.contents.LoopFree → before.store.contents.Renames store.contents item.id
        ((item.relocate path.folder target).relabel desired new) (item.trail new)) :
      ItemRename suffixing before path target desired (.ok ()) ⟨store, tally⟩

variable {setup : Setup τ} {desk after : Desk (Cabinet τ)} {result : Except RequestError Unit}
  {source target : Option EntityId} {desired : EntityId}

namespace Stage.Places

variable {before after : Stage} {item placed : Entity}

/-- The item is stored under the same identifier as before. -/
theorem has (places : before.Places after item placed) (sameId : placed.id = item.id)
    (stored : before.store.contents.find? item.id = some item) (id : EntityId) :
    after.store.has id = before.store.has id := by
  cases places with
  | stays same _ => rw [same]
  | moved _ saved =>
    rw [saved]
    simp only [MemoryStore.save, MemoryStore.has, Catalogue.has, Catalogue.find?_insert, sameId]
    split
    next here => simp [← here, stored]
    next => rfl

/-- Nothing but the item is touched. -/
theorem find?_of_ne (places : before.Places after item placed) (sameId : placed.id = item.id)
    {x : EntityId} (differs : x ≠ item.id) :
    after.store.contents.find? x = before.store.contents.find? x := by
  cases places with
  | stays same _ => rw [same]
  | moved _ saved =>
    rw [saved]
    simp [MemoryStore.save, sameId, Ne.symm differs]

theorem allows (places : before.Places after item placed) :
    after.store.allows = before.store.allows := by
  cases places with
  | stays same _ => rw [same]
  | moved _ saved =>
    rw [saved]
    rfl

end Stage.Places

/-- Putting the item in its place is no more than a renaming that leaves it its identifier. -/
theorem Stage.Places.renames {before after : Stage} {item placed : Entity}
    (places : before.Places after item placed) (sameId : placed.id = item.id)
    (stored : before.store.contents.find? item.id = some item) :
    before.store.contents.Renames after.store.contents item.id placed (.repoint item.id item.id) := by
  intro x
  have nothing : Entity.repoint item.id item.id = id := funext (Entity.repoint_self item.id)
  rw [sameId, nothing, Option.map_id]
  by_cases here : x = item.id
  · rw [if_pos here, here]
    cases places with
    | stays same there => rw [same, there, stored]
    | moved _ saved =>
      rw [saved]
      simp [MemoryStore.save, sameId]
  · rw [if_neg here, if_neg here, places.find?_of_ne sameId here]
    rfl

/-- Whether there is an identifier for the item does not depend on where the item is. -/
theorem Unnamed.congr {store store' : MemoryStore} {suffixing : Suffixing} {drive desired : String}
    {error : RequestError} (unnamed : Unnamed store' suffixing drive desired error)
    (has : ∀ id, store'.has id = store.has id) (allows : store'.allows = store.allows) :
    Unnamed store suffixing drive desired error := by
  have same : store'.freeId suffixing drive desired = store.freeId suffixing drive desired :=
    MemoryStore.freeId_congr has
  cases unnamed with
  | unavailable failed none => exact .unavailable (same ▸ failed) none
  | denied given denied => exact .denied (same ▸ given) (allows ▸ denied)

/-- A folder that gets to its place differs from what it was in nothing but its parent. -/
theorem Desk.Relocated.places {old folder : Folder} (relocated : desk.Relocated after folder)
    (found : desk.world.store.contents.folder? old.id = some old) (sameId : folder.id = old.id)
    (place : folder.parent = (target <|> old.parent)) :
    folder = { old with parent := target <|> old.parent } ∧
      desk.stage.Places after.stage (.folder old) (.folder folder) ∧
      after.report.failures = desk.report.failures := by
  cases relocated with
  | stays kept stored =>
    rw [sameId] at stored
    cases stored.symm.trans found
    refine ⟨?_, .stays kept.stage rfl, kept.failures⟩
    rw [← place]
  | @moved before goal into reparents changed =>
    subst into
    have stored := reparents.stored
    have sameOld : before.id = old.id := sameId
    rw [sameOld] at stored
    cases stored.symm.trans found
    refine ⟨?_, .moved reparents.permitted ?_, changed.failures⟩
    · rw [← place]
      rfl
    · simp only [Desk.stage, changed.store_eq, changed.tally]
      rfl

theorem Desk.Refiled.places {file : File} (refiled : desk.Refiled after file source target) :
    desk.stage.Places after.stage (.file file) ((Entity.file file).relocate source target) ∧
      after.report.failures = desk.report.failures := by
  have relocated : Entity.file (file.relocate source target) =
      (Entity.file file).relocate source target := by
    rw [File.relocate_eq]
    rfl
  rw [← relocated]
  cases refiled with
  | stays kept _ same => exact ⟨.stays kept.stage (by rw [same]), kept.failures⟩
  | @moved goal place relists changed =>
    refine ⟨.moved relists.permitted ?_, changed.failures⟩
    simp only [Desk.stage, changed.store_eq, changed.tally, File.relocate, place]
    rfl

theorem FolderRename.item {id : EntityId} (reliable : setup.Reliable)
    (ended : FolderRename setup desk id target desired result after) :
    ItemRename setup.suffixing desk.stage (.ofFolder id) target desired result after.stage ∧
      after.report.failures = desk.report.failures := by
  cases ended with
  | kept kept idle =>
    rw [kept.stage]
    refine ⟨?_, kept.failures⟩
    cases found : desk.world.store.contents.folder? id with
    | none =>
      apply ItemRename.missing
      rintro item (⟨found'⟩ | _)
      simp [Desk.stage, found] at found'
    | some folder =>
      obtain ⟨same, stays⟩ := idle folder found
      cases Contents.id_of_folder? found
      apply ItemRename.stays (.folder found) same (.stays rfl _)
      simp [Entity.relocate, stays]
  | failed failed =>
    obtain ⟨_, kept, _⟩ := failed
    exact ⟨kept.stage ▸ .hindered, kept.failures⟩
  | @placed between _ listing folder _ listed sameId place free relocated ended removable =>
    have found := (Contents.listing?_eq_some_iff.mp listed).1
    cases Contents.id_of_folder? found
    obtain ⟨rfl, places, failures⟩ := relocated.places found sameId place
    have names : Path.Names desk.stage.store.contents (.ofFolder listing.id) (.folder listing.toFolder) :=
      .folder found
    have has := places.has rfl (Contents.find?_of_names names)
    cases ended with
    | stays same => exact ⟨.stays names same places, failures⟩
    | failed failed =>
      obtain ⟨_, kept, unnamed | faulted⟩ := failed
      · refine ⟨kept.stage ▸ .unnamed names places (unnamed.congr has places.allows), ?_⟩
        exact kept.failures.trans failures
      · exact absurd faulted.canFail reliable
    | @renamed named new contents unused permitted relabelled rewrote differs given =>
      have givenBefore : desk.stage.store.freeId setup.suffixing desired.drive.text
          desired.name.text = .ok new := (MemoryStore.freeId_congr has).symm.trans given
      refine ⟨.renamed names places differs removable givenBefore (places.allows ▸ permitted) ?_, ?_⟩
      -- In a loop, what was relocated might be one of its own children.
      · intro loopFree
        obtain ⟨apart, children⟩ := relocated.children loopFree listed
        have contentsAfter : named.world.store.contents = contents := by rw [rewrote.store]
        have others (x : EntityId) (differs : x ≠ listing.id) :
            between.world.store.contents.folder? x = desk.world.store.contents.folder? x := by
          have same := places.find?_of_ne rfl differs
          simp only [Desk.stage] at same
          simp only [Contents.folder?, same]
        change desk.world.store.contents.Renames named.world.store.contents _ _ _
        rw [contentsAfter]
        exact .of_relabelled relocated.stored others relocated.file? (relabelled apart children)
      · exact rewrote.failures.trans failures
    | broke _ _ broke => exact absurd broke.canFail reliable

theorem FileRename.item {id : EntityId} (reliable : setup.Reliable)
    (ended : FileRename setup desk id source target desired result after) :
    ItemRename setup.suffixing desk.stage ⟨source, some id⟩ target desired result after.stage ∧
      after.report.failures = desk.report.failures := by
  cases ended with
  | kept kept idle =>
    rw [kept.stage]
    refine ⟨?_, kept.failures⟩
    cases found : desk.world.store.contents.file? id with
    | none =>
      apply ItemRename.missing
      rintro item (_ | ⟨found'⟩)
      simp [Desk.stage, found] at found'
    | some file =>
      obtain ⟨same, stays⟩ := idle file found
      cases Contents.id_of_file? found
      apply ItemRename.stays (.file found) same (.stays rfl _)
      have there : file.relocate source target = file := by simp [File.relocate, stays]
      simp only [Entity.relocate, ← File.relocate_eq, there]
  | failed failed =>
    obtain ⟨_, kept, _⟩ := failed
    exact ⟨kept.stage ▸ .hindered, kept.failures⟩
  | @placed between _ file _ found free refiled ended removable =>
    cases Contents.id_of_file? found
    obtain ⟨places, failures⟩ := refiled.places
    have names : Path.Names desk.stage.store.contents ⟨source, some file.id⟩ (.file file) := .file found
    -- The file is in its place by now. The same identifiers are in use as before, so the same one is
    -- free.
    have has := places.has (Entity.id_relocate _ _ _) (Contents.find?_of_names names)
    rw [File.relocate_eq] at ended
    cases ended with
    | stays same => exact ⟨.stays names same places, failures⟩
    | failed failed =>
      obtain ⟨_, kept, unnamed | faulted⟩ := failed
      · refine ⟨kept.stage ▸ .unnamed names places (unnamed.congr has places.allows), ?_⟩
        exact kept.failures.trans failures
      · exact absurd faulted.canFail reliable
    | @renamed labelled _ new labels changed differs given =>
      have givenBefore : desk.stage.store.freeId setup.suffixing desired.drive.text
          desired.name.text = .ok new := (MemoryStore.freeId_congr has).symm.trans given
      refine ⟨.renamed names places differs removable givenBefore
        (places.allows ▸ labels.permitted) ?_, ?_⟩
      · intro _
        rw [changed.store_eq, labels.changed.store_eq]
        exact .of_labelled fun x => places.find?_of_ne (Entity.id_relocate _ _ _)
      · rw [changed.failures, labels.changed.failures, failures]
    | stuck _ failed =>
      obtain ⟨_, _, ended⟩ := failed
      exact absurd (ended.resolve_left id).canFail reliable

/-- Renaming is the same for all that a path may name. -/
theorem Action.meets_renamePath (reliable : setup.Reliable) (depth : Nat) (path : Path) :
    (renamePath setup.host depth target desired path).Meets desk fun result after =>
      ItemRename setup.suffixing desk.stage path target desired result after.stage ∧
        after.report.failures = desk.report.failures := by
  obtain ⟨folder, leaf⟩ := path
  cases leaf with
  | some file => exact (meets_renameFile file folder target desired).mono fun _ _ ended => ended.item reliable
  | none =>
    cases folder with
    | some folder =>
      exact (meets_renameFolder depth folder target desired).mono fun _ _ ended => ended.item reliable
    | none =>
      refine .pure ⟨.missing ?_, rfl⟩
      rintro item ⟨⟩

/-- The identifier an item is to have: its own if that is desired, or else a free one. -/
def MemoryStore.idFor (s : MemoryStore) (suffixing : Suffixing) (id desired : EntityId) :
    Except StoreError EntityId :=
  if desired = id then .ok id else s.freeId suffixing desired.drive.text desired.name.text

theorem MemoryStore.unused_of_idFor {s : MemoryStore} {suffixing : Suffixing} {id desired new : EntityId}
    (given : s.idFor suffixing id desired = .ok new) (differs : new ≠ id) : s.has new = false := by
  unfold idFor at given
  split at given
  · cases given
    exact absurd rfl differs
  · exact unused_of_freeId given

/-! ## Requests -/

namespace Request

variable {depth : Nat} {request : Request} {cabinet after : Cabinet τ}
  {result : Except RequestError Report}

/-- How a request for a single item ends: it is cancelled before anything has happened, or it comes to
what renaming the item comes to. -/
inductive SingleEnds (request : Request) (suffixing : Suffixing) (store : MemoryStore) (report : Report)
    (final : MemoryStore) : Prop
  | cancelled (same : final = store) (cancelled : report.cancelled = true)
      (unfailing : report.failures = [])
  | worked {path desired outcome stage} (only : request.paths = [path])
      (leaf : request.destination.leaf = some desired)
      (item : ItemRename suffixing ⟨store, {}⟩ path request.destination.folder desired outcome stage)
      (reached : stage = ⟨final, report.tally⟩)
      (failures : report.failures = match outcome with
        | .ok _ => []
        | .error error => [error])

theorem plan_single (reliable : setup.Reliable) (single : request.modeIn cabinet.store.contents = .single)
    (ran : request.plan setup.host depth cabinet = some (result, after)) :
    ∃ report, result = .ok report ∧ request.SingleEnds setup.suffixing cabinet.store report after.store := by
  obtain ⟨between, _, desk, store, worked, rfl, rfl⟩ := work_of_reliable reliable ran
  rw [single] at worked
  rw [← store]
  obtain ⟨named, path, only⟩ := paths_of_modeIn single
  obtain ⟨desired, leaf⟩ := Option.isSome_iff_exists.mp named
  have meets : (workAll setup.host depth .move .single request).Meets
      (request.desk .move .single between) fun _ after =>
        request.SingleEnds setup.suffixing between.store after.report after.world.store := by
    refine meets_workAll_only only ?_ ?_
    · intro after store report
      rw [report, store]
      exact .cancelled rfl rfl rfl
    · intro begun looked
      -- When the only path is begun, nothing has been counted and nothing has failed.
      have started : begun.stage = ⟨between.store, {}⟩ := looked.kept.stage
      have unfailing : begun.report.failures = [] := by
        rw [looked.report]
        rfl
      unfold workOn
      rw [show request.destination = ⟨request.destination.folder, some desired⟩ by rw [← leaf]]
      refine (Action.meets_renamePath reliable depth path).mono ?_
      rintro outcome ended ⟨item, failures⟩ after store report
      rw [started] at item
      rw [unfailing] at failures
      rw [report, store]
      cases outcome with
      | ok _ => exact .worked only leaf item rfl failures
      | error error => exact .worked only leaf item rfl (by simp [reportAfter, failures])
  exact ⟨desk.report, rfl, meets _ _ worked⟩

/-- How a request for a single item fails: everything is as it was, or else the item has been relocated
and there is no identifier for it. -/
inductive SingleFails (request : Request) (suffixing : Suffixing) (store : MemoryStore) (report : Report)
    (final : Contents) (error : RequestError) : Prop
  | untouched (same : final = store.contents) (unchanged : report.changed = false)
  | relocated {path item desired} (only : request.paths = [path])
      (leaf : request.destination.leaf = some desired) (names : path.Names store.contents item)
      (moved : final = store.contents.insert (item.relocate path.folder request.destination.folder))
      (counted : report.tally = item.countMove {})
      (unnamed : Unnamed store suffixing desired.drive.text desired.name.text error)

/-- The error says that the item itself cannot go where it should, or that it must not be touched. -/
def OwnError (item : EntityId) : RequestError → Prop
  | .cycle _ | .destinationMissing _ | .nameCollision _ _ => True
  | .permissionDenied _ id => id = item
  | _ => False

theorem fails_once {report : Report} (reliable : setup.Reliable)
    (single : request.modeIn cabinet.store.contents = .single)
    (ran : request.plan setup.host depth cabinet = some (.ok report, after))
    (failed : report.failures ≠ []) :
    ∃ error, report.failures = [error] ∧ report.tally.itemsRenamed = 0 ∧
      request.SingleFails setup.suffixing cabinet.store report after.store.contents error ∧
      ∀ {path item}, request.paths = [path] → path.Names cabinet.store.contents item →
        OwnError item.id error → after.store.contents = cabinet.store.contents := by
  obtain ⟨_, ⟨⟩, ends⟩ := plan_single reliable single ran
  cases ends with
  | cancelled _ _ unfailing => exact absurd unfailing failed
  | @worked path desired outcome stage only leaf item reached failures =>
    cases item with
    | missing _ => exact absurd failures failed
    | stays _ _ _ => exact absurd failures failed
    | renamed _ _ _ _ _ _ _ => exact absurd failures failed
    | @hindered error =>
      obtain ⟨store, tally⟩ := Stage.mk.inj reached
      have same : after.store.contents = cabinet.store.contents := by rw [store]
      refine ⟨error, failures, by rw [← tally], .untouched same ?_, fun _ _ _ => same⟩
      simp [Report.changed, ← tally, Tally.total]
    | @unnamed item _ error names places unnamed =>
      cases places with
      | stays here _ =>
        -- The item was in its place already, so there was nothing to do before the failure.
        obtain ⟨store, tally⟩ := Stage.mk.inj (here.symm.trans reached)
        have same : after.store.contents = cabinet.store.contents := by rw [store]
        refine ⟨error, failures, by rw [← tally], .untouched same ?_, fun _ _ _ => same⟩
        simp [Report.changed, ← tally, Tally.total]
      | moved _ saved =>
        obtain ⟨store, tally⟩ := Stage.mk.inj (saved.symm.trans reached)
        have moved : after.store.contents = cabinet.store.contents.insert
            (item.relocate path.folder request.destination.folder) := by
          rw [← store]
          rfl
        refine ⟨error, failures, ?_, .relocated only leaf names moved tally.symm unnamed, ?_⟩
        · rw [← tally]
          cases item <;> rfl
        · intro path' item' only' names' own
          cases List.singleton_inj.mp (only.symm.trans only')
          cases Contents.names_unique names names'
          -- The identifier that may not be used is free, and that of the item is in use.
          cases unnamed with
          | unavailable _ _ => exact own.elim
          | denied given _ =>
            subst own
            have unused := MemoryStore.unused_of_freeId given
            simp [MemoryStore.has, Catalogue.has, Contents.find?_of_names names] at unused

open Sample in
/-- The folder is displaced, but nobody may use the identifier that it should have there. -/
theorem fails_once_guarded : ∃ report after error,
    plan Setup.quiet.host 9 renamed ⟨guarded, (), []⟩ = some (.ok report, after) ∧
    report.failures = [error] ∧
    renamed.SingleFails Setup.quiet.suffixing guarded report after.store.contents error := by
  have refused : ((plan Setup.quiet.host 9 renamed ⟨guarded, (), []⟩).map fun outcome =>
      outcome.1.toOption.map (·.failures)) = some (some [.permissionDenied .edit fresh]) := by
    decide +kernel
  obtain ⟨⟨result, after⟩, ran, told⟩ := Option.map_eq_some_iff.mp refused
  cases result with
  | error _ => cases told
  | ok report =>
    have failed : report.failures = [.permissionDenied .edit fresh] := Option.some.inj told
    obtain ⟨error, only, _, fails, _⟩ :=
      fails_once Setup.quiet_reliable (by decide) ran (by simp [failed])
    exact ⟨report, after, error, ran, only, fails⟩

/-- Without a failure the item has the place and the identifier that were asked for, what lay in it has
followed, and nothing else has changed. -/
theorem renames_exactly {report : Report} {path : Path} {item : Entity} {desired : EntityId}
    (reliable : setup.Reliable) (wf : cabinet.store.contents.WellFormed)
    (only : request.paths = [path]) (leaf : request.destination.leaf = some desired)
    (names : path.Names cabinet.store.contents item)
    (ran : request.plan setup.host depth cabinet = some (.ok report, after))
    (unfailing : report.failures = []) (finished : report.cancelled = false) :
    ∃ new, cabinet.store.idFor setup.suffixing item.id desired = .ok new ∧
      cabinet.store.contents.Renames after.store.contents item.id
        ((item.relocate path.folder request.destination.folder).relabel desired new)
        (.repoint item.id new) ∧
      ∀ {x entity}, cabinet.store.contents.find? x = some entity → x ≠ item.id →
        ∃ later, after.store.contents.find? x = some later ∧ ∀ parent, later.IsIn parent ↔
          ∃ before, entity.IsIn before ∧
            parent = Contents.Relabelled.follow item.id new before := by
  have single := modeIn_of_leaf (by simp [leaf]) only cabinet.store.contents
  have stored := Contents.find?_of_names names
  -- What has followed is found under the identifier that it had, as nothing else takes that.
  have followed {new : EntityId} (given : cabinet.store.idFor setup.suffixing item.id desired = .ok new)
      (renames : cabinet.store.contents.Renames after.store.contents item.id
        ((item.relocate path.folder request.destination.folder).relabel desired new)
        (.repoint item.id new)) {x : EntityId} {entity : Entity}
      (found : cabinet.store.contents.find? x = some entity) (differs : x ≠ item.id) :
      ∃ later, after.store.contents.find? x = some later ∧ ∀ parent, later.IsIn parent ↔
        ∃ before, entity.IsIn before ∧
          parent = Contents.Relabelled.follow item.id new before := by
    have elsewhere : x ≠ new := by
      rintro rfl
      have unused := MemoryStore.unused_of_idFor given differs
      simp [MemoryStore.has, Catalogue.has, found] at unused
    have isIn := Contents.Renames.isIn (by rwa [Entity.id_relabel]) found differs
      (by rwa [Entity.id_relabel])
    rwa [Entity.id_relabel] at isIn
  obtain ⟨_, ⟨⟩, ends⟩ := plan_single reliable single ran
  cases ends with
  | cancelled _ cancelled _ => simp [cancelled] at finished
  | @worked path' desired' outcome stage only' leaf' ended reached failures =>
    cases List.singleton_inj.mp (only.symm.trans only')
    cases leaf.symm.trans leaf'
    cases ended with
    | missing missing => exact absurd names (missing item)
    | hindered => simp [unfailing] at failures
    | unnamed _ _ _ => simp [unfailing] at failures
    | @stays other _ names' same places =>
      cases Contents.names_unique names names'
      subst same
      subst reached
      -- The item was to keep its identifier, so there was nothing to do but to relocate it.
      have given : cabinet.store.idFor setup.suffixing item.id item.id = .ok item.id := if_pos rfl
      have renames := places.renames (Entity.id_relocate _ _ _) stored
      have here := Entity.relabel_self (item.relocate path.folder request.destination.folder)
      rw [Entity.id_relocate] at here
      rw [← here] at renames
      exact ⟨item.id, given, renames, followed given renames⟩
    | @renamed other _ new store _ names' _ differs _ given _ renames =>
      cases Contents.names_unique names names'
      obtain ⟨rfl, -⟩ := Stage.mk.inj reached
      have given : cabinet.store.idFor setup.suffixing item.id desired = .ok new :=
        (if_neg differs).trans given
      have renames := (renames wf.loopFree).congr fun found => wf.trail_eq_repoint names new found
      exact ⟨new, given, renames, followed given renames⟩

open Sample in
/-- A folder gets another identifier, and the file that is listed in it follows. -/
theorem renames_exactly_shelf : ∃ report after new,
    plan Setup.quiet.host 9 (taking note ⟨none, some fresh⟩) ⟨shelf, (), []⟩ =
      some (.ok report, after) ∧
    (after.store.contents.file? page).map (·.parents) = some (.ofList [docs, fresh]) ∧
    shelf.contents.Renames after.store.contents note (.folder ⟨new, "fresh", some docs⟩)
      (.repoint note new) := by
  have renamed : ((plan Setup.quiet.host 9 (taking note ⟨none, some fresh⟩) ⟨shelf, (), []⟩).map
      fun outcome => (outcome.1.toOption.map fun report => (report.failures, report.cancelled),
        (outcome.2.store.contents.file? page).map (·.parents))) =
      some (some ([], false), some (.ofList [docs, fresh])) := by decide +kernel
  obtain ⟨⟨result, after⟩, ran, told⟩ := Option.map_eq_some_iff.mp renamed
  obtain ⟨ended, listed⟩ := Prod.mk.inj told
  cases result with
  | error _ => cases ended
  | ok report =>
    obtain ⟨unfailing, finished⟩ := Prod.mk.inj (Option.some.inj ended)
    have names : Path.Names shelf.contents (.ofFolder note) (.folder ⟨note, "note", some docs⟩) :=
      .folder (by decide)
    obtain ⟨new, _, renames, _⟩ := renames_exactly Setup.quiet_reliable shelf_wellFormed rfl rfl names
      ran unfailing finished
    exact ⟨report, after, new, ran, listed, renames⟩

end Request

end Filing
