import Filing.Proofs.Hierarchy
import Filing.Proofs.Looking

/-!
# What the looks answer

Every question an action asks about the hierarchy is answered by what is stored: permissions, what
lies above a folder (`looks_isDescendantOrSelf`), which child has a display name, and which
identifier is free (`looks_uniquifier`).
-/
namespace Filing

def MemoryStore.allows (s : MemoryStore) : Permission → EntityId → Bool
  | .edit, id => s.canEdit id
  | .delete, id => s.canDelete id

theorem MemoryStore.allows_edit_eq_false_iff {s : MemoryStore} {id : EntityId} :
    s.allows .edit id = false ↔ id ∈ s.editDenied := by
  simp [allows, canEdit]

theorem MemoryStore.allows_delete_eq_false_iff {s : MemoryStore} {id : EntityId} :
    s.allows .delete id = false ↔ id ∈ s.deleteDenied := by
  simp [allows, canDelete]

namespace Contents

/-- Whether `id` is a folder with the display name. -/
def isFolderNamed (c : Contents) (name : String) (id : EntityId) : Bool :=
  (c.folder? id).any (·.name = name)

/-- The file under `id`, if it has the display name. -/
def fileNamed? (c : Contents) (name : String) (id : EntityId) : Option File :=
  (c.file? id).filter (·.name = name)

variable {c : Contents} {name : String} {id : EntityId}

theorem isFolderNamed_iff :
    c.isFolderNamed name id = true ↔ ∃ folder, c.folder? id = some folder ∧ folder.name = name := by
  simp [isFolderNamed, Option.any_eq_true]

theorem fileNamed?_eq_some_iff {file : File} :
    c.fileNamed? name id = some file ↔ c.file? id = some file ∧ file.name = name := by
  simp [fileNamed?, Option.filter_eq_some_iff]

/-- A set of folders that leads up into itself or to `current` leads nowhere else from there. -/
theorem mem_of_below {seen : List EntityId} {current a : EntityId} (member : current ∈ seen)
    (closed : ∀ s ∈ seen, ∃ parent, c.Inside s parent ∧ (parent ∈ seen ∨ parent = current))
    (below : c.Below current a) : a ∈ seen := by
  induction below with
  | refl => exact member
  | tail _ up ih =>
    obtain ⟨parent, inside, leads⟩ := closed _ ih
    rw [inside_unique up inside]
    rcases leads with inSeen | rfl
    · exact inSeen
    · exact member

end Contents

namespace MemoryStore

variable (s : MemoryStore) (suffixing : Suffixing)

/-- What the search through the numbers comes to with these contents. -/
def firstFreeId (taken : EntityId) (desired : String) (number attempts : Nat) :
    Except StoreError EntityId :=
  ((suffixing.firstFree asStore.has taken desired number attempts).run s).1

/-- The identifier that is given out with these contents, or why there is none. -/
def freeId (drive desired : String) : Except StoreError EntityId :=
  ((suffixing.generate asStore.has drive desired).run s).1

/-- A candidate that is in use sends the search on. -/
theorem run_unless_used (candidate : EntityId) (next : Call MemoryStore EntityId) :
    (do if ← asStore.has candidate then next else return candidate :
        Call MemoryStore EntityId).run s =
      if s.has candidate then next.run s else (.ok candidate, s) := by
  change (if s.has candidate then next else pure candidate).run s = _
  split
  · rfl
  · rfl

theorem firstFreeId_succ (taken : EntityId) (desired : String) (number attempts : Nat) :
    s.firstFreeId suffixing taken desired number (attempts + 1) =
      match taken.sibling (suffixing.suffixed taken.name.text number) with
      | .error cause => .error cause
      | .ok candidate =>
        if s.has candidate then s.firstFreeId suffixing taken desired (number + 1) attempts
        else .ok candidate := by
  unfold firstFreeId
  rw [Suffixing.firstFree, Call.run_bind]
  cases taken.sibling (suffixing.suffixed taken.name.text number) with
  | error cause => rfl
  | ok candidate =>
    have told := run_unless_used s candidate
      (suffixing.firstFree asStore.has taken desired (number + 1) attempts)
    exact (congrArg Prod.fst told).trans (apply_ite Prod.fst _ _ _)

theorem freeId_eq (drive desired : String) :
    s.freeId suffixing drive desired =
      match EntityId.ofTexts drive desired with
      | .error cause => .error cause
      | .ok candidate =>
        if s.has candidate then
          s.firstFreeId suffixing candidate desired suffixing.start suffixing.attempts
        else .ok candidate := by
  unfold freeId
  rw [Suffixing.generate, Call.run_bind]
  cases EntityId.ofTexts drive desired with
  | error cause => rfl
  | ok candidate =>
    have told := run_unless_used s candidate
      (suffixing.firstFree asStore.has candidate desired suffixing.start suffixing.attempts)
    exact (congrArg Prod.fst told).trans (apply_ite Prod.fst _ _ _)

variable {s suffixing} {s' : MemoryStore} {taken id : EntityId} {drive desired : String}
  {number attempts : Nat} {cause : StoreError}

/-- What a search for a free identifier can fail with. -/
inductive NoneFree : StoreError → Prop
  | invalidId (segment : String) : NoneFree (.invalidId segment)
  | exhausted (desired : String) : NoneFree (.exhausted desired)

/-- Where the texts give no identifier, it is one of them that is no segment. -/
theorem invalidId_of_ofTexts {name : String} (unread : EntityId.ofTexts drive name = .error cause) :
    ∃ segment, cause = .invalidId segment := by
  have segment {text : String} (unread : Segment.ofText text = .error cause) :
      ∃ segment, cause = .invalidId segment := by
    unfold Segment.ofText at unread
    split at unread
    · cases unread
    · cases unread
      exact ⟨text, rfl⟩
  unfold EntityId.ofTexts at unread
  split at unread
  next refused =>
    cases unread
    exact segment refused
  next =>
    split at unread
    next refused =>
      cases unread
      exact segment refused
    next => cases unread

theorem noneFree_of_ofTexts {name : String} (unread : EntityId.ofTexts drive name = .error cause) :
    NoneFree cause := by
  obtain ⟨segment, rfl⟩ := invalidId_of_ofTexts unread
  exact .invalidId segment

/-- The search gives an identifier that is not in use, or it says that there is none. -/
theorem firstFreeId_spec :
    match s.firstFreeId suffixing taken desired number attempts with
    | .ok id => s.has id = false
    | .error cause => NoneFree cause := by
  induction attempts generalizing number with
  | zero => exact .exhausted desired
  | succ attempts ih =>
    rw [firstFreeId_succ]
    cases read : taken.sibling (suffixing.suffixed taken.name.text number) with
    | error cause => exact noneFree_of_ofTexts read
    | ok candidate =>
      dsimp only
      by_cases used : s.has candidate = true
      · rw [if_pos used]
        exact ih
      · rw [if_neg used]
        simpa using used

theorem freeId_spec (s : MemoryStore) (suffixing : Suffixing) (drive desired : String) :
    match s.freeId suffixing drive desired with
    | .ok id => s.has id = false
    | .error cause => NoneFree cause := by
  rw [freeId_eq]
  cases read : EntityId.ofTexts drive desired with
  | error cause => exact noneFree_of_ofTexts read
  | ok candidate =>
    dsimp only
    by_cases used : s.has candidate = true
    · rw [if_pos used]
      exact firstFreeId_spec
    · rw [if_neg used]
      simpa using used

theorem unused_of_freeId (given : s.freeId suffixing drive desired = .ok id) : s.has id = false := by
  have spec := freeId_spec s suffixing drive desired
  rwa [given] at spec

theorem noneFree_of_freeId (failed : s.freeId suffixing drive desired = .error cause) :
    NoneFree cause := by
  have spec := freeId_spec s suffixing drive desired
  rwa [failed] at spec

/-- Which identifier is free depends on nothing but which ones are in use. -/
theorem freeId_congr (same : ∀ id, s'.has id = s.has id) :
    s'.freeId suffixing drive desired = s.freeId suffixing drive desired := by
  have first (taken : EntityId) (number attempts : Nat) :
      s'.firstFreeId suffixing taken desired number attempts =
        s.firstFreeId suffixing taken desired number attempts := by
    induction attempts generalizing number with
    | zero => rfl
    | succ attempts ih => simp only [firstFreeId_succ, same, ih]
  simp only [freeId_eq, same, first]

end MemoryStore

namespace Action

variable {τ : Type} (setup : Setup τ) (store : MemoryStore)

theorem looks_folder (id : EntityId) :
    Looks setup.faults store (call (setup.host.store.folder id))
      (· = .ok (store.contents.listing? id)) :=
  Looks.call_read .folder id fun s => s.contents.listing? id

theorem looks_file (id : EntityId) :
    Looks setup.faults store (call (setup.host.store.file id))
      (· = .ok (store.contents.file? id)) :=
  Looks.call_read .file id fun s => s.contents.file? id

theorem looks_require (permission : Permission) (id : EntityId) :
    Looks setup.faults store (require setup.host permission id)
      (· = if store.allows permission id then .ok ()
        else .error (.permissionDenied permission id)) := by
  have decided (allowed : Bool) : Looks setup.faults store
      (if allowed = true then pure () else throw (.permissionDenied permission id))
      (· = if allowed then .ok () else .error (.permissionDenied permission id)) := by
    cases allowed with
    | true => exact .pure rfl
    | false => exact .throw rfl
  cases permission with
  | edit => exact .bind_ok (Looks.call_read .canEdit id (·.canEdit id)) (decided _)
  | delete => exact .bind_ok (Looks.call_read .canDelete id (·.canDelete id)) (decided _)

theorem looks_climbs (ancestor : EntityId) (depth : Nat) (seen : List EntityId)
    (current : EntityId) (missed : ancestor ∉ seen)
    (closed : ∀ s ∈ seen, ∃ parent, store.contents.Inside s parent ∧
      (parent ∈ seen ∨ parent = current)) :
    Looks setup.faults store (climbs setup.host ancestor seen current depth) fun result =>
      ∃ found, result = .ok found ∧ (found = true ↔ store.contents.Below current ancestor) := by
  -- From what was seen before, going up leads to what was seen or to where the search is now.
  induction depth generalizing seen current with
  | zero => exact .tooDeep
  | succ depth ih =>
    unfold climbs
    split
    next here => exact .pure ⟨true, rfl, by simp [here, Contents.below_refl]⟩
    next elsewhere =>
      split
      next met =>
        -- The way up goes round in a circle without the ancestor.
        have nowhere : ¬ store.contents.Below current ancestor :=
          fun below => missed (Contents.mem_of_below met closed below)
        exact .pure ⟨false, rfl, by simpa using nowhere⟩
      next fresh =>
        refine .bind_ok (looks_folder setup store current) ?_
        have nowhere (top : store.contents.parentOf current = none) :
            ¬ store.contents.Below current ancestor := by
          intro below
          rcases Contents.below_iff.mp below with same | ⟨parent, inside, _⟩
          · exact elsewhere same
          · exact absurd (top.symm.trans inside) (by simp)
        cases stored : store.contents.folder? current with
        | none =>
          simp only [Contents.listing?, stored, Option.map_none]
          exact .pure ⟨false, rfl, by simpa using nowhere (by simp [Contents.parentOf, stored])⟩
        | some folder =>
          obtain ⟨_, _, up⟩ := folder
          simp only [Contents.listing?, stored, Option.map_some]
          cases up with
          | none =>
            exact .pure ⟨false, rfl, by simpa using nowhere (by simp [Contents.parentOf, stored])⟩
          | some parent =>
            have inside : store.contents.Inside current parent :=
              Contents.inside_iff.mpr ⟨_, stored, rfl⟩
            refine (ih (current :: seen) parent ?_ ?_).mono ?_
            · simp [Ne.symm elsewhere, missed]
            · intro s member
              rcases List.mem_cons.mp member with rfl | inSeen
              · exact ⟨parent, inside, .inr rfl⟩
              · obtain ⟨up, insideUp, leads⟩ := closed s inSeen
                refine ⟨up, insideUp, .inl ?_⟩
                rcases leads with leads | rfl
                · exact List.mem_cons_of_mem _ leads
                · exact List.mem_cons_self
            · rintro _ ⟨found, rfl, exact⟩
              refine ⟨found, rfl, exact.trans ⟨inside.trans_below, fun below => ?_⟩⟩
              exact below.parent_of_ne elsewhere inside

theorem looks_isDescendantOrSelf (depth : Nat) (candidate ancestor : EntityId) :
    Looks setup.faults store (isDescendantOrSelf setup.host depth candidate ancestor) fun result =>
      ∃ found, result = .ok found ∧ (found = true ↔ store.contents.Below candidate ancestor) :=
  looks_climbs setup store ancestor depth [] candidate (by simp) (by simp)

theorem looks_folderNamed (name : String) (ids : List EntityId) :
    Looks setup.faults store (folderNamed setup.host name ids)
      (· = .ok (ids.find? (store.contents.isFolderNamed name))) := by
  induction ids with
  | nil => exact .pure rfl
  | cons id later ih =>
    refine .bind_ok (looks_folder setup store id) ?_
    split
    next sibling found =>
      have stored := (Contents.listing?_eq_some_iff.mp found).1
      split
      next same =>
        refine .pure ?_
        simp [Contents.isFolderNamed, stored, same, Contents.id_of_folder? stored]
      next differs =>
        refine ih.mono fun result told => ?_
        simpa [Contents.isFolderNamed, stored, differs] using told
    next missing =>
      -- Whatever is not stored is passed over.
      have absent := Contents.listing?_eq_none_iff.mp missing
      refine ih.mono fun result told => ?_
      simpa [Contents.isFolderNamed, absent] using told

theorem looks_fileNamed (name : String) (ids : List EntityId) :
    Looks setup.faults store (fileNamed setup.host name ids)
      (· = .ok (ids.findSome? (store.contents.fileNamed? name))) := by
  induction ids with
  | nil => exact .pure rfl
  | cons id later ih =>
    refine .bind_ok (looks_file setup store id) ?_
    split
    next sibling found =>
      split
      next same => exact .pure (by simp [Contents.fileNamed?, found, same, Option.filter])
      next differs =>
        refine ih.mono fun result told => ?_
        simpa [Contents.fileNamed?, found, differs] using told
    next missing =>
      refine ih.mono fun result told => ?_
      simpa [Contents.fileNamed?, missing] using told

/-! ## Free identifiers -/

theorem peeks_has (id : EntityId) :
    Call.Peeks setup.faults store ((Cabinet.asStore setup.faults).has id)
      (· = .ok (store.has id)) := by
  change Call.Peeks _ _ (Cabinet.attempt setup.faults .has id (Call.read (·.has id))) _
  exact .read rfl

theorem peeks_folder (id : EntityId) :
    Call.Peeks setup.faults store ((Cabinet.asStore setup.faults).folder id)
      (· = .ok (store.contents.listing? id)) := by
  change Call.Peeks _ _ (Cabinet.attempt setup.faults .folder id
    (Call.read (·.contents.listing? id))) _
  exact .read rfl

theorem peeks_firstFree (taken : EntityId) (desired : String) (attempts : Nat) (number : Nat) :
    Call.Peeks setup.faults store
      (setup.suffixing.firstFree (Cabinet.asStore setup.faults).has taken desired number attempts)
      (· = store.firstFreeId setup.suffixing taken desired number attempts) := by
  induction attempts generalizing number with
  | zero => exact .throw rfl
  | succ attempts ih =>
    rw [MemoryStore.firstFreeId_succ]
    refine (Call.Peeks.ofExcept_eq _).bind ?_ ?_
    · intro candidate read
      rw [← read]
      refine .bind (peeks_has setup store candidate) ?_ (by simp)
      rintro used ⟨⟩
      dsimp only
      split
      · exact ih (number + 1)
      · exact .pure rfl
    · intro cause read
      rw [← read]

theorem peeks_uniquifier (drive desired : String) :
    Call.Peeks setup.faults store (setup.host.uniquifier drive desired)
      (· = store.freeId setup.suffixing drive desired) := by
  rw [MemoryStore.freeId_eq]
  refine (Call.Peeks.ofExcept_eq _).bind ?_ ?_
  · intro candidate read
    rw [← read]
    refine .bind (peeks_has setup store candidate) ?_ (by simp)
    rintro used ⟨⟩
    dsimp only
    split
    · exact peeks_firstFree setup store candidate desired _ _
    · exact .pure rfl
  · intro cause read
    rw [← read]

/-- The identifier that is given out is the free one, if there is one. -/
theorem looks_uniquifier (drive desired : String) :
    Looks setup.faults store (call (setup.host.uniquifier drive desired)) fun result =>
      (∃ id, result = .ok id ∧ store.freeId setup.suffixing drive desired = .ok id) ∨
      ∃ cause, result = .error (.storage (some cause)) ∧
        store.freeId setup.suffixing drive desired = .error cause :=
  .call (peeks_uniquifier setup store drive desired)
    (fun id given => .inl ⟨id, rfl, given.symm⟩) fun cause given => .inr ⟨cause, rfl, given.symm⟩

end Action

end Filing
