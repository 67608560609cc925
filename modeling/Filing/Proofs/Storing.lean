import Mathlib.Logic.Function.Basic
import Filing.Proofs.Keeping

/-!
# What a store in memory has been told

Beside a store in memory one can keep a record of what is stored under each identifier. A record knows
nothing of order, of child lists or of how an entity is found. Whatever calls are made, the store holds
what the record says (`MemoryStore.Holds.after`), so every answer can be read off the record.

## Main results

- `MemoryStore.lawful_calls`: the answers of a store after any calls.
-/
namespace Filing

/-- What is stored under each identifier. -/
abbrev Record := EntityId → Option Entity

/-- A call to a store. -/
inductive StoreCall where
  | has (id : EntityId)
  | folder (id : EntityId)
  | file (id : EntityId)
  | save (draft : Draft)
  | delete (id : EntityId)
  | rename (source target : EntityId)
  | canEdit (id : EntityId)
  | canDelete (id : EntityId)

namespace Record

def save (m : Record) (draft : Draft) : Record := Function.update m draft.bare.id (some draft.bare)

def delete (m : Record) (id : EntityId) : Record := Function.update m id none

/-- The entity goes under another identifier, and is otherwise as it was. -/
def move (m : Record) (source target : EntityId) (entity : Entity) : Record :=
  Function.update (m.delete source) target (some (entity.withId target))

def ofDrafts (drafts : List Draft) : Record := drafts.foldl save fun _ => none

/-- The record after a call. -/
def after (m : Record) : StoreCall → Record
  | .save draft => m.save draft
  | .delete id => m.delete id
  | .rename source target =>
    match m target, m source with
    | none, some entity => m.move source target entity
    | _, _ => m
  | _ => m

theorem delete_of_missing {m : Record} {id : EntityId} (missing : m id = none) : m.delete id = m := by
  rw [delete, ← missing, Function.update_eq_self]

/-- A listing has the children that the record says, in identifier order. -/
structure Lists (m : Record) (listing : Listing) : Prop where
  childFolders : ∀ {x}, x ∈ listing.childFolders ↔
    ∃ child, m x = some (.folder child) ∧ child.parent = some listing.id
  childFiles : ∀ {x}, x ∈ listing.childFiles ↔
    ∃ child, m x = some (.file child) ∧ listing.id ∈ child.parents
  sortedFolders : listing.childFolders.Pairwise (· < ·)
  sortedFiles : listing.childFiles.Pairwise (· < ·)

end Record

namespace MemoryStore

/-- The store after a call. -/
def after (s : MemoryStore) : StoreCall → MemoryStore
  | .has id => ((asStore.has id).run s).2
  | .folder id => ((asStore.folder id).run s).2
  | .file id => ((asStore.file id).run s).2
  | .save draft => ((asStore.save draft.bare).run s).2
  | .delete id => ((asStore.delete id).run s).2
  | .rename source target => ((asStore.rename source target).run s).2
  | .canEdit id => ((asStore.canEdit id).run s).2
  | .canDelete id => ((asStore.canDelete id).run s).2

/-- What is stored is what the record says. -/
def Holds (s : MemoryStore) (m : Record) : Prop := ∀ id, s.contents.find? id = m id

/-- The store answers as the record says, and changes what is stored as the record does. -/
structure Lawful (s : MemoryStore) (m : Record) : Prop where
  entries : ∀ {entity}, entity ∈ s.contents.toList ↔ m entity.id = some entity
  keyed : ∀ {id entity}, m id = some entity → entity.id = id
  has : ∀ id, (asStore.has id).run s = (.ok (m id).isSome, s)
  file : ∀ id, ∃ found, (asStore.file id).run s = (.ok found, s) ∧
    ∀ file, found = some file ↔ m id = some (.file file)
  folder : ∀ id, ∃ found, (asStore.folder id).run s = (.ok found, s) ∧
    (∀ folder, found.map Listing.toFolder = some folder ↔ m id = some (.folder folder)) ∧
    ∀ listing, found = some listing → m.Lists listing
  save : ∀ draft, ∃ s', (asStore.save draft.bare).run s = (.ok (), s') ∧ s'.Holds (m.save draft)
  delete : ∀ id, ∃ result s', (asStore.delete id).run s = (result, s') ∧
    (result = .ok () ∧ m id ≠ none ∧ s'.Holds (m.delete id) ∨
      result = .error (.notFound id) ∧ m id = none ∧ s' = s)
  rename : ∀ source target, ∃ result s', (asStore.rename source target).run s = (result, s') ∧
    ((∃ entity, result = .ok () ∧ m source = some entity ∧ m target = none ∧
        s'.Holds (m.move source target entity)) ∨
      result = .error (.alreadyExists target) ∧ m target ≠ none ∧ s' = s ∨
      result = .error (.notFound source) ∧ m target = none ∧ m source = none ∧ s' = s)

variable {s : MemoryStore} {m : Record}

/-! ## Single calls -/

namespace Holds

theorem has_eq (holds : s.Holds m) (id : EntityId) : s.has id = (m id).isSome := by
  rw [← holds id]
  rfl

theorem folder? (holds : s.Holds m) {id : EntityId} {folder : Folder} :
    s.contents.folder? id = some folder ↔ m id = some (.folder folder) := by
  rw [← holds id, Contents.folder?_eq_some_iff]

theorem file? (holds : s.Holds m) {id : EntityId} {file : File} :
    s.contents.file? id = some file ↔ m id = some (.file file) := by
  rw [← holds id, Contents.file?_eq_some_iff]

theorem save (holds : s.Holds m) (draft : Draft) : (s.save draft.bare).Holds (m.save draft) := by
  intro x
  simp only [MemoryStore.save, Catalogue.find?_insert, Record.save, Function.update_apply, holds x,
    eq_comm]

theorem discard (holds : s.Holds m) (id : EntityId) : (s.discard id).Holds (m.delete id) := by
  intro x
  simp only [MemoryStore.discard, Catalogue.find?_erase, Record.delete, Function.update_apply, holds x,
    eq_comm]

/-- A listing is worked out from what is stored. -/
theorem lists (holds : s.Holds m) {id : EntityId} {listing : Listing}
    (found : s.contents.listing? id = some listing) : m.Lists listing := by
  cases Contents.id_of_listing? found
  obtain ⟨_, folders, files⟩ := Contents.listing?_eq_some_iff.mp found
  refine ⟨?_, ?_, ?_, ?_⟩
  · intro x
    rw [folders, Contents.mem_childFolders]
    simp only [holds.folder?]
  · intro x
    rw [files, Contents.mem_childFiles]
    simp only [holds.file?]
  · rw [folders]
    exact s.contents.sorted_childFolders _
  · rw [files]
    exact s.contents.sorted_childFiles _

theorem delete (holds : s.Holds m) (id : EntityId) :
    ∃ result s', (asStore.delete id).run s = (result, s') ∧
      (result = .ok () ∧ m id ≠ none ∧ s'.Holds (m.delete id) ∨
        result = .error (.notFound id) ∧ m id = none ∧ s' = s) := by
  have ran : (asStore.delete id).run s = _ := Call.run_change (MemoryStore.delete · id) s
  rw [ran, MemoryStore.delete, holds.has_eq]
  cases stored : m id with
  | none => exact ⟨_, _, rfl, .inr ⟨rfl, rfl, rfl⟩⟩
  | some entity => exact ⟨_, _, rfl, .inl ⟨rfl, by simp, holds.discard id⟩⟩

theorem rename (holds : s.Holds m) (source target : EntityId) :
    ∃ result s', (asStore.rename source target).run s = (result, s') ∧
      ((∃ entity, result = .ok () ∧ m source = some entity ∧ m target = none ∧
          s'.Holds (m.move source target entity)) ∨
        result = .error (.alreadyExists target) ∧ m target ≠ none ∧ s' = s ∨
        result = .error (.notFound source) ∧ m target = none ∧ m source = none ∧ s' = s) := by
  have ran : (asStore.rename source target).run s = _ :=
    Call.run_change (MemoryStore.rename · source target) s
  rw [ran, MemoryStore.rename, holds.has_eq, holds source]
  cases taken : m target with
  | some _ => exact ⟨_, _, rfl, .inr (.inl ⟨rfl, by simp, rfl⟩)⟩
  | none =>
    cases stored : m source with
    | none => exact ⟨_, _, rfl, .inr (.inr ⟨rfl, rfl, rfl, rfl⟩)⟩
    | some entity =>
      refine ⟨_, _, rfl, .inl ⟨entity, rfl, rfl, rfl, fun x => ?_⟩⟩
      have renamed : (entity.withId target).id = target := by cases entity <;> rfl
      simp only [MemoryStore.save, Catalogue.find?_insert, renamed, Record.move, Function.update_apply,
        holds.discard source x, eq_comm]

end Holds

/-! ## Any calls -/

/-- Each call changes what is stored as it changes the record. -/
theorem Holds.after (holds : s.Holds m) (call : StoreCall) : (s.after call).Holds (m.after call) := by
  cases call with
  | has _ | folder _ | file _ | canEdit _ | canDelete _ => exact holds
  | save draft => exact holds.save draft
  | delete id =>
    obtain ⟨result, s', ran, ended⟩ := holds.delete id
    simp only [MemoryStore.after, Record.after, ran]
    rcases ended with ⟨_, _, holds'⟩ | ⟨_, missing, rfl⟩
    · exact holds'
    · rwa [Record.delete_of_missing missing]
  | rename source target =>
    obtain ⟨result, s', ran, ended⟩ := holds.rename source target
    simp only [MemoryStore.after, Record.after, ran]
    rcases ended with ⟨entity, _, stored, free, holds'⟩ | ⟨_, taken, rfl⟩ | ⟨_, free, missing, rfl⟩
    · rw [stored, free]
      exact holds'
    · obtain ⟨other, taken⟩ := Option.ne_none_iff_exists'.mp taken
      rw [taken]
      exact holds
    · rw [free, missing]
      exact holds

theorem Holds.calls (holds : s.Holds m) (calls : List StoreCall) :
    (calls.foldl MemoryStore.after s).Holds (calls.foldl Record.after m) := by
  induction calls generalizing s m with
  | nil => exact holds
  | cons call later ih => exact ih (holds.after call)

theorem holds_ofDrafts (drafts : List Draft) : (ofDrafts drafts).Holds (.ofDrafts drafts) := by
  -- By induction on the drafts, whatever is stored before.
  have go (s : MemoryStore) (m : Record) (holds : s.Holds m) :
      Holds { s with contents := (drafts.map Draft.bare).foldl Catalogue.insert s.contents }
        (drafts.foldl Record.save m) := by
    induction drafts generalizing s m with
    | nil => exact holds
    | cons draft later ih => exact ih (s.save draft.bare) (m.save draft) (holds.save draft)
  exact go (ofEntities []) (fun _ => none) fun _ => rfl

theorem Holds.lawful (holds : s.Holds m) : s.Lawful m where
  entries {entity} := by
    rw [← holds entity.id, Catalogue.find?_eq_some_iff]
    simp
  keyed {id entity} stored := Catalogue.key_of_find? ((holds id).trans stored)
  has id := by
    rw [← holds.has_eq id]
    rfl
  file id := ⟨s.contents.file? id, rfl, fun _ => holds.file?⟩
  folder id := by
    refine ⟨s.contents.listing? id, rfl, fun folder => ?_, fun _ found => holds.lists found⟩
    rw [← holds.folder?, Contents.listing?, Option.map_map]
    simp [Function.comp_def]
  save draft := ⟨_, rfl, holds.save draft⟩
  delete := holds.delete
  rename := holds.rename

/-- Whatever a store begins with and whatever calls are made to it, each entity is stored under its own
identifier, a folder that is looked up has the children that point at it, in order and whatever
children it was saved with, and a call that fails changes nothing. -/
theorem lawful_calls (drafts : List Draft) (name : String) (editDenied deleteDenied : IdSet)
    (calls : List StoreCall) :
    (calls.foldl after { ofDrafts drafts with name, editDenied, deleteDenied }).Lawful
      (calls.foldl Record.after (.ofDrafts drafts)) := by
  have begun : Holds { ofDrafts drafts with name, editDenied, deleteDenied } (.ofDrafts drafts) :=
    holds_ofDrafts drafts
  exact (begun.calls calls).lawful

end MemoryStore

end Filing
