import Filing.Proofs.Single

/-!
# What is denied stays

An identifier that may not be edited gets nothing new stored under it, and one that may not be deleted is
not taken away. Every step of a request asks before it saves or deletes (`Step.heeds`), except where an
item gets an identifier of its own: then the item is asked about first, and only what lies in it follows.

## Main results

- `Order.heeds_denials`: whatever is requested, answered and cancelled, what is denied has not happened.
-/
namespace Filing

variable {τ : Type}

/-- What there is to see of an entity: its name, and its content if it is a file. -/
def Entity.face : Entity → String × Option (List UInt8)
  | .folder f => (f.name, none)
  | .file f => (f.name, some f.content)

theorem Entity.face_repoint (id renamed : EntityId) (entity : Entity) :
    (entity.repoint id renamed).face = entity.face := by
  cases entity with
  | folder f =>
    simp only [repoint, Folder.repoint]
    split <;> rfl
  | file f =>
    simp only [repoint, File.repoint]
    split <;> rfl

theorem Entity.face_relocate (source target : Option EntityId) (item : Entity) :
    (item.relocate source target).face = item.face := by
  cases item <;> rfl

theorem Entity.face_trail (item other : Entity) (renamed : EntityId) :
    (item.trail renamed other).face = other.face := by
  cases item with
  | folder f => exact face_repoint f.id renamed other
  | file _ => rfl

/-- What happened to the contents of the store is allowed, and nothing but whole entities came or went:
under an identifier that may not be edited there is what there was, or nothing. -/
structure Heeded (store : MemoryStore) (final : Contents) : Prop where
  unedited : ∀ {id}, store.allows .edit id = false →
    final.find? id = store.contents.find? id ∨ final.find? id = none
  undeleted : ∀ {id entity}, store.allows .delete id = false → store.contents.find? id = some entity →
    ∃ later, final.find? id = some later ∧ later.face = entity.face

namespace Heeded

variable {store between : MemoryStore} {final : Contents} {entity : Entity}

theorem refl (store : MemoryStore) : Heeded store store.contents where
  unedited _ := .inl rfl
  undeleted {_ entity} _ found := ⟨entity, found, rfl⟩

theorem trans (heeded : Heeded store between.contents) (allows : between.allows = store.allows)
    (heeded' : Heeded between final) : Heeded store final where
  unedited {id} denied := by
    rcases heeded'.unedited (allows ▸ denied) with same | gone
    · rw [same]
      exact heeded.unedited denied
    · exact .inr gone
  undeleted {id entity} denied found := by
    obtain ⟨middle, found', face⟩ := heeded.undeleted denied found
    obtain ⟨later, found'', face'⟩ := heeded'.undeleted (allows ▸ denied) found'
    exact ⟨later, found'', face'.trans face⟩

/-- Something is saved under an identifier that may be edited, and it looks as before. -/
theorem save (permitted : store.allows .edit entity.id = true)
    (face : ∀ {old}, store.contents.find? entity.id = some old → entity.face = old.face) :
    Heeded store (store.save entity).contents where
  unedited {id} denied := by
    have differs : entity.id ≠ id := by
      rintro rfl
      simp [permitted] at denied
    simp [MemoryStore.save, differs]
  undeleted {id old} denied found := by
    by_cases here : entity.id = id
    · subst here
      exact ⟨entity, by simp [MemoryStore.save], face found⟩
    · exact ⟨old, by simp [MemoryStore.save, here, found], rfl⟩

theorem discard {id : EntityId} (permitted : store.allows .delete id = true) :
    Heeded store (store.discard id).contents where
  unedited {x} denied := by
    by_cases here : id = x
    · simp [MemoryStore.discard, here]
    · simp [MemoryStore.discard, here]
  undeleted {x entity} denied found := by
    have differs : id ≠ x := by
      rintro rfl
      simp [permitted] at denied
    exact ⟨entity, by simp [MemoryStore.discard, differs, found], rfl⟩

/-- A file that leaves a folder is edited, or deleted if nothing else lists it. -/
theorem takeOut {file : File} {parent : EntityId}
    (stored : store.contents.file? file.id = some file)
    (permitted : store.allows (file.removalPermission parent) file.id = true) :
    Heeded store (store.takeOut file parent).contents := by
  unfold File.removalPermission at permitted
  unfold MemoryStore.takeOut
  split
  next elsewhere =>
    rw [if_pos elsewhere] at permitted
    apply save permitted
    intro old found
    cases (Contents.file?_eq_some_iff.mp stored).symm.trans found
    rfl
  next only =>
    rw [if_neg only] at permitted
    exact discard permitted

theorem relist {file : File} (stored : store.contents.file? file.id = some file)
    (permitted : store.allows .edit file.id = true) (source : Option EntityId) (target : EntityId) :
    Heeded store (store.save (.file (file.reparent source target).1)).contents := by
  apply save permitted
  intro old found
  cases (Contents.file?_eq_some_iff.mp stored).symm.trans found
  rfl

theorem reparent {folder : Folder} {target : EntityId} (reparents : Reparents store folder target) :
    Heeded store (store.save (.folder { folder with parent := some target })).contents := by
  apply save reparents.permitted
  intro old found
  cases (Contents.folder?_eq_some_iff.mp reparents.stored).symm.trans found
  rfl

theorem create {parent : Option EntityId} (creates : Creates store entity.id parent) :
    Heeded store (store.save entity).contents := by
  apply save creates.permitted
  intro old found
  have unused := creates.unused
  simp [MemoryStore.has, Catalogue.has, found] at unused

end Heeded

/-- Every step asks for what it does, unless it gives an item an identifier of its own. -/
theorem Step.heeds {rules : Rules} {before after : Stage} (step : Step rules before after)
    (plain : rules.operation = .move → rules.mode ≠ .single) :
    Heeded before.store after.store.contents := by
  cases step with
  | evict _ displaces => exact .takeOut displaces.storedExisting displaces.permitted
  | relist _ _ relists _ => exact .relist relists.stored relists.permitted _ _
  | @displace store _ file existing source target _ _ displaces relists =>
    have left : Heeded store (store.takeOut existing target).contents :=
      .takeOut displaces.storedExisting displaces.permitted
    have allows := store.allows_takeOut existing target
    -- The file that comes is another one than the file that left.
    have stored : (store.takeOut existing target).contents.file? file.id = some file := by
      rw [MemoryStore.file?_takeOut, if_neg displaces.differs, relists.stored]
    have permitted : (store.takeOut existing target).allows .edit file.id = true := by
      rw [allows, relists.permitted]
    exact left.trans allows (.relist stored permitted source target)
  | reparent _ _ reparents _ => exact .reparent reparents
  | merge _ => exact .refl _
  | dissolve _ _ dissolves => exact .discard dissolves.permitted
  | createFolder _ creates _ => exact .create creates
  | createFile _ _ creates _ => exact .create creates
  | @replace store _ _ existing _ target _ displaces creates =>
    have left : Heeded store (store.takeOut existing target).contents :=
      .takeOut displaces.storedExisting displaces.permitted
    exact left.trans (store.allows_takeOut existing target) (.create creates)
  | deleteFolder _ dissolves => exact .discard dissolves.permitted
  | takeOut _ stored _ permitted => exact .takeOut stored permitted
  | deleteFile _ _ permitted => exact .discard permitted
  | relocateFolder move single _ => exact absurd single (plain move)
  | relocateFile move single _ => exact absurd single (plain move)
  | relabelFile move single _ _ _ => exact absurd single (plain move)
  | retitleFile move single _ => exact absurd single (plain move)

theorem Steps.heeds {rules : Rules} {before after : Stage} (steps : Steps rules before after)
    (plain : rules.operation = .move → rules.mode ≠ .single) :
    Heeded before.store after.store.contents := by
  induction steps with
  | refl => exact .refl _
  | tail steps step ih => exact ih.trans (Steps.allows steps) (step.heeds plain)

/-! ## Requests -/

namespace Order

variable {setup : Setup τ} {depth : Nat} {order : Order} {cabinet after : Cabinet τ}
  {result : Except RequestError Report}

/-- The request was to rename the folder `old`, which is now stored under an identifier nobody had. -/
structure Relabels (order : Order) (c c' : Contents) (old new : EntityId) : Prop where
  asked : ∃ request, order = .plan request ∧ request.paths = [.ofFolder old] ∧
    request.destination.leaf.isSome = true
  before : c.has new = false ∧ ∃ folder, c.folder? old = some folder
  after : c'.has old = false ∧ ∃ folder, c'.folder? new = some folder

/-- What may not be deleted is there as before, what may not be edited is what it was if it is there, and
nothing has come where nothing may be edited. A child of a folder that got a new identifier follows it
nevertheless. -/
structure Heeds (order : Order) (store : MemoryStore) (final : Contents) : Prop where
  undeleted : ∀ {id entity}, id ∈ store.deleteDenied → store.contents.find? id = some entity →
    ∃ later, final.find? id = some later ∧ later.face = entity.face
  unedited : ∀ {id entity later}, id ∈ store.editDenied →
    store.contents.find? id = some entity → final.find? id = some later →
    later = entity ∨ ∃ old new, order.Relabels store.contents final old new ∧ entity.IsIn old ∧
      later = entity.repoint old new
  unclaimed : ∀ {id}, id ∈ store.editDenied → store.contents.find? id = none →
    final.find? id = none

theorem Heeds.of_heeded {store : MemoryStore} {final : Contents} (heeded : Heeded store final) :
    order.Heeds store final where
  undeleted denied := heeded.undeleted (MemoryStore.allows_delete_eq_false_iff.mpr denied)
  unedited {id entity later} denied found found' := by
    rcases heeded.unedited (MemoryStore.allows_edit_eq_false_iff.mpr denied) with same | gone
    · rw [same, found] at found'
      exact .inl (Option.some.inj found').symm
    · simp [gone] at found'
  unclaimed {id} denied missing := by
    rcases heeded.unedited (MemoryStore.allows_edit_eq_false_iff.mpr denied) with same | gone
    · rw [same, missing]
    · exact gone

end Order

theorem Stage.Places.heeded {before after : Stage} {item : Entity} {source target : Option EntityId}
    (places : before.Places after item (item.relocate source target))
    (stored : before.store.contents.find? item.id = some item) :
    Heeded before.store after.store.contents := by
  cases places with
  | stays same _ =>
    rw [same]
    exact .refl _
  | moved permitted saved =>
    rw [saved]
    apply Heeded.save
    · rw [Entity.id_relocate]
      exact permitted
    · intro old found
      rw [Entity.id_relocate, stored] at found
      cases found
      exact item.face_relocate source target

/-- The item may be taken from where it was, and its new identifier is free to use. Nothing but its
children is touched besides. -/
theorem ItemRename.heeds {request : Request} {suffixing : Suffixing} {store : MemoryStore} {tally : Tally}
    {path : Path} {desired : EntityId} {outcome : Except RequestError Unit} {after : Stage}
    (ended : ItemRename suffixing ⟨store, tally⟩ path request.destination.folder desired outcome after)
    (loopFree : store.contents.LoopFree) (only : request.paths = [path])
    (leaf : request.destination.leaf = some desired) :
    (Order.plan request).Heeds store after.store.contents := by
  cases ended with
  | missing _ => exact .of_heeded (.refl _)
  | hindered => exact .of_heeded (.refl _)
  | stays names _ places => exact .of_heeded (places.heeded (Contents.find?_of_names names))
  | unnamed names places _ => exact .of_heeded (places.heeded (Contents.find?_of_names names))
  | @renamed item between new final tally names places differs removable given permitted renames =>
    have unused := MemoryStore.unused_of_freeId given
    have renames := renames loopFree
    -- The new identifier was not in use and may be edited, so nothing that is denied is under it.
    have taken {x : EntityId} {entity : Entity} (found : store.contents.find? x = some entity) :
        x ≠ new := by
      rintro rfl
      simp [MemoryStore.has, Catalogue.has, found] at unused
    have claimed {x : EntityId} (denied : x ∈ store.editDenied) : x ≠ new := by
      rintro rfl
      cases permitted.symm.trans (MemoryStore.allows_edit_eq_false_iff.mpr denied)
    have arrived := renames.arrived
    have gone (differs : item.id ≠ new) : final.contents.find? item.id = none :=
      renames.gone (by rwa [Entity.id_relabel])
    have follows {x : EntityId} (elsewhere : x ≠ new) (other : x ≠ item.id) :
        final.contents.find? x = (store.contents.find? x).map (item.trail new) :=
      renames.others (by rwa [Entity.id_relabel]) other
    rw [Entity.id_relabel] at arrived
    constructor
    · intro id entity denied found
      have other : id ≠ item.id := by
        rintro rfl
        cases removable.symm.trans (MemoryStore.allows_delete_eq_false_iff.mpr denied)
      exact ⟨_, by rw [follows (taken found) other, found]; rfl, item.face_trail entity new⟩
    · intro id entity later denied found found'
      have other : id ≠ item.id := by
        rintro rfl
        simp [gone (taken found)] at found'
      rw [follows (taken found) other, found] at found'
      cases found'
      cases names with
      | file _ => exact .inl rfl
      | @folder old folder stored =>
        cases Contents.id_of_folder? stored
        by_cases inside : entity.IsIn folder.id
        · have left : final.contents.find? folder.id = none :=
            gone (taken (Contents.folder?_eq_some_iff.mp stored))
          have asked : request.destination.leaf.isSome = true := by simp [leaf]
          exact .inr ⟨folder.id, new, ⟨⟨request, rfl, only, asked⟩, ⟨unused, folder, stored⟩,
            ⟨by simp [Catalogue.has, left], _, Contents.folder?_eq_some_iff.mpr arrived⟩⟩, inside, rfl⟩
        · exact .inl (Entity.repoint_of_not_isIn inside new)
    · intro id denied missing
      by_cases here : id = item.id
      · exact here ▸ gone (here ▸ claimed denied)
      · rw [follows (claimed denied) here, missing]
        rfl

namespace Order

variable {setup : Setup τ} {depth : Nat} {order : Order} {cabinet after : Cabinet τ}
  {result : Except RequestError Report}

/-- Steps lead to what is stored in the end, unless an item gets a name of its own. -/
theorem steps_of_run (ran : order.run setup.host depth cabinet = some (result, after))
    (plain : (order.rules cabinet.store.contents).operation = .move →
      (order.rules cabinet.store.contents).mode ≠ .single) :
    ∃ tally tally', Steps (order.rules cabinet.store.contents) ⟨cabinet.store, tally⟩
      ⟨after.store, tally'⟩ := by
  cases result with
  | ok report => exact ⟨{}, report.tally, steps_of_report ran plain⟩
  | error error =>
    have unsorted {operation : Operation} {request : Request}
        (ran : request.classifyAndRun setup.host depth operation cabinet = some (.error error, after)) :
        after.store = cabinet.store := by
      rcases Request.classifyAndRun_cases ran with ⟨_, _, _, _, store, _⟩ | ⟨_, _, _, ⟨⟩, _⟩
      exact store
    have same : after.store = cabinet.store := by
      cases order with
      | plan request => exact unsorted ran
      | copy request => exact unsorted ran
      | delete paths =>
        obtain ⟨_, _, ⟨⟩⟩ := Option.bind_eq_some_iff.mp ran
    exact ⟨{}, {}, by rw [same]⟩

/-- Whatever is requested, answered and cancelled, nothing is done that is denied. -/
theorem heeds_denials (reliable : setup.Reliable)
    (ran : order.run setup.host depth cabinet = some (result, after))
    (loopFree : cabinet.store.contents.LoopFree) :
    order.Heeds cabinet.store after.store.contents := by
  -- Unless an item gets a name of its own, the end is reached by steps, and each of them is permitted.
  have stepwise (plain : (order.rules cabinet.store.contents).operation = .move →
      (order.rules cabinet.store.contents).mode ≠ .single) :
      order.Heeds cabinet.store after.store.contents := by
    obtain ⟨_, _, steps⟩ := steps_of_run ran plain
    exact .of_heeded (Steps.heeds steps plain)
  cases order with
  | copy request => exact stepwise (by rintro ⟨⟩)
  | delete paths => exact stepwise (by rintro ⟨⟩)
  | plan request =>
    by_cases single : request.modeIn cabinet.store.contents = .single
    · obtain ⟨report, _, ends⟩ := Request.plan_single reliable single ran
      cases ends with
      | cancelled same _ _ =>
        rw [same]
        exact .of_heeded (.refl _)
      | worked only leaf item reached _ =>
        subst reached
        exact item.heeds loopFree only leaf
    · exact stepwise fun _ => single

end Order

namespace Sample

/-- The file that is listed in both folders may not be touched. -/
def locked : MemoryStore :=
  { shelf with editDenied := .ofList [page], deleteDenied := .ofList [page] }

/-- One of the folders is to get another identifier. -/
def renameNote : Order := .plan (.taking note ⟨none, some fresh⟩)

end Sample

open Sample in
theorem Order.heeds_denials_locked : ∃ result after,
    renameNote.run Setup.quiet.host 9 ⟨locked, (), []⟩ = some (result, after) ∧
    (after.store.contents.file? page).map (·.parents) = some (.ofList [docs, fresh]) ∧
    renameNote.Heeds locked after.store.contents := by
  have followed : ((renameNote.run Setup.quiet.host 9 ⟨locked, (), []⟩).map fun outcome =>
      (outcome.2.store.contents.file? page).map (·.parents)) =
      some (some (.ofList [docs, fresh])) := by decide +kernel
  obtain ⟨⟨result, after⟩, ran, listed⟩ := Option.map_eq_some_iff.mp followed
  exact ⟨result, after, ran, listed,
    heeds_denials Setup.quiet_reliable ran shelf_wellFormed.loopFree⟩

end Filing
