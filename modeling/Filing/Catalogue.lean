import Filing.EntityId

/-!
Finite collections that hold at most one item per identifier and list their items in identifier
order. `key` says which identifier an item goes under.

Two catalogues that find the same items are equal (`Catalogue.ext_find?`), and each operation is
known by what it does to `find?`.
-/
namespace Filing

structure Catalogue {α : Type} (key : α → EntityId) where
  toList : List α
  sorted : toList.Pairwise fun a b => key a < key b
  deriving DecidableEq

namespace Catalogue

variable {α : Type} {key : α → EntityId}

def empty : Catalogue key := ⟨[], .nil⟩

def find? (c : Catalogue key) (id : EntityId) : Option α :=
  c.toList.find? fun item => key item = id

def has (c : Catalogue key) (id : EntityId) : Bool := (c.find? id).isSome

def size (c : Catalogue key) : Nat := c.toList.length

/-- Puts `item` in its place, instead of the item that had its identifier. -/
def place (key : α → EntityId) (item : α) : List α → List α
  | [] => [item]
  | first :: rest =>
    if key item < key first then item :: first :: rest
    else if key item = key first then item :: rest
    else first :: place key item rest

theorem mem_place {item x : α} {items : List α} (member : x ∈ place key item items) :
    x = item ∨ x ∈ items := by
  induction items with
  | nil => simpa [place] using member
  | cons first rest ih =>
    unfold place at member
    split at member
    · simpa using member
    · split at member
      · simp only [List.mem_cons] at member ⊢
        exact member.imp_right .inr
      · simp only [List.mem_cons] at member ⊢
        rcases member with same | inRest
        · exact .inr (.inl same)
        · exact (ih inRest).imp_right .inr

theorem place_sorted {item : α} {items : List α}
    (sorted : items.Pairwise fun a b => key a < key b) :
    (place key item items).Pairwise fun a b => key a < key b := by
  induction items with
  | nil => simp [place]
  | cons first rest ih =>
    have ⟨below, sortedRest⟩ := List.pairwise_cons.mp sorted
    unfold place
    split
    next less =>
      refine List.pairwise_cons.mpr ⟨?_, sorted⟩
      intro x member
      rcases List.mem_cons.mp member with rfl | inRest
      · exact less
      · exact EntityId.lt_trans less (below x inRest)
    next notLess =>
      split
      next same =>
        exact List.pairwise_cons.mpr ⟨fun x member => same ▸ below x member, sortedRest⟩
      next differs =>
        refine List.pairwise_cons.mpr ⟨?_, ih sortedRest⟩
        intro x member
        rcases mem_place member with rfl | inRest
        · rcases EntityId.lt_trichotomy (key x) (key first) with less | same | greater
          · exact absurd less notLess
          · exact absurd same differs
          · exact greater
        · exact below x inRest

def insert (c : Catalogue key) (item : α) : Catalogue key :=
  ⟨place key item c.toList, place_sorted c.sorted⟩

def erase (c : Catalogue key) (id : EntityId) : Catalogue key :=
  ⟨c.toList.filter fun item => key item ≠ id, c.sorted.filter _⟩

/-- Of several items with one identifier the last stays. -/
def ofList (items : List α) : Catalogue key := items.foldl insert empty

/-! ## Finding -/

theorem find?_eq_some_iff {c : Catalogue key} {id : EntityId} {item : α} :
    c.find? id = some item ↔ item ∈ c.toList ∧ key item = id := by
  obtain ⟨items, sorted⟩ := c
  simp only [find?]
  induction items with
  | nil => simp
  | cons first rest ih =>
    have ⟨below, sortedRest⟩ := List.pairwise_cons.mp sorted
    by_cases here : key first = id
    · simp only [here, decide_true, List.find?_cons_of_pos, Option.some.injEq, List.mem_cons]
      constructor
      · rintro rfl
        exact ⟨.inl rfl, here⟩
      · rintro ⟨rfl | inRest, found⟩
        · rfl
        · exact absurd (here.trans found.symm) (EntityId.ne_of_lt (below item inRest))
    · simp only [here, decide_false, Bool.false_eq_true, not_false_eq_true,
        List.find?_cons_of_neg, ih sortedRest, List.mem_cons]
      constructor
      · rintro ⟨inRest, found⟩
        exact ⟨.inr inRest, found⟩
      · rintro ⟨rfl | inRest, found⟩
        · exact absurd found here
        · exact ⟨inRest, found⟩

theorem key_of_find? {c : Catalogue key} {id : EntityId} {item : α}
    (found : c.find? id = some item) : key item = id :=
  (find?_eq_some_iff.mp found).2

theorem find?_place (item : α) (items : List α) (id : EntityId) :
    (place key item items).find? (fun x => key x = id) =
      if key item = id then some item else items.find? fun x => key x = id := by
  induction items with
  | nil => by_cases here : key item = id <;> simp [place, here]
  | cons first rest ih =>
    unfold place
    split
    · by_cases here : key item = id <;> simp [here]
    · split
      next same => by_cases here : key item = id <;> simp [here, same ▸ here]
      next differs =>
        by_cases here : key first = id
        · have elsewhere : key item ≠ id := fun h => differs (h.trans here.symm)
          simp [here, elsewhere]
        · simp [here, ih]

@[simp] theorem find?_insert (c : Catalogue key) (item : α) (id : EntityId) :
    (c.insert item).find? id = if key item = id then some item else c.find? id :=
  find?_place item c.toList id

@[simp] theorem find?_erase (c : Catalogue key) (id other : EntityId) :
    (c.erase id).find? other = if id = other then none else c.find? other := by
  simp only [find?, erase, List.find?_filter]
  by_cases same : id = other
  · subst same
    simp
  · simp only [same, ↓reduceIte]
    congr 1
    funext item
    by_cases here : key item = other
    · simp [here, Ne.symm same]
    · simp [here]

theorem has_eq_true_iff {c : Catalogue key} {id : EntityId} :
    c.has id = true ↔ ∃ item ∈ c.toList, key item = id := by
  simp only [has, Option.isSome_iff_exists, find?_eq_some_iff]

/-! ## Equality -/

theorem nodup (c : Catalogue key) : c.toList.Nodup := by
  refine c.sorted.imp ?_
  rintro x _ less rfl
  exact EntityId.lt_irrefl (key x) less

theorem ext_mem {a b : Catalogue key} (same : ∀ x, x ∈ a.toList ↔ x ∈ b.toList) : a = b := by
  have perm : a.toList.Perm b.toList := (List.perm_ext_iff_of_nodup a.nodup b.nodup).mpr same
  have lists : a.toList = b.toList := by
    refine perm.eq_of_pairwise (fun x y _ _ less greater => ?_) a.sorted b.sorted
    exact absurd greater (EntityId.lt_asymm less)
  cases a
  cases b
  cases lists
  rfl

theorem ext_find? {a b : Catalogue key} (same : ∀ id, a.find? id = b.find? id) : a = b := by
  refine ext_mem fun x => ?_
  have viaFind (c : Catalogue key) : x ∈ c.toList ↔ c.find? (key x) = some x := by
    simp [find?_eq_some_iff]
  rw [viaFind, viaFind, same]

end Catalogue

/-! ## Sets of identifiers -/

/-- A set of identifiers, listed in order. -/
abbrev IdSet := Catalogue (α := EntityId) id

namespace IdSet

instance : Membership EntityId IdSet where
  mem s id := id ∈ s.toList

theorem mem_def {s : IdSet} {id : EntityId} : id ∈ s ↔ id ∈ s.toList := Iff.rfl

instance (s : IdSet) (id : EntityId) : Decidable (id ∈ s) :=
  inferInstanceAs (Decidable (id ∈ s.toList))

theorem mem_iff_find? {s : IdSet} {x : EntityId} : x ∈ s ↔ s.find? x = some x := by
  simp [mem_def, Catalogue.find?_eq_some_iff]

@[simp] theorem mem_insert {s : IdSet} {x y : EntityId} : x ∈ s.insert y ↔ x = y ∨ x ∈ s := by
  rw [mem_iff_find?, Catalogue.find?_insert, mem_iff_find?]
  by_cases same : y = x
  · simp [same]
  · simp [same, Ne.symm same]

@[simp] theorem mem_erase {s : IdSet} {x y : EntityId} : x ∈ s.erase y ↔ x ≠ y ∧ x ∈ s := by
  rw [mem_iff_find?, Catalogue.find?_erase, mem_iff_find?]
  by_cases same : y = x
  · simp [same]
  · simp [same, Ne.symm same]

theorem ext {s t : IdSet} (same : ∀ x, x ∈ s ↔ x ∈ t) : s = t := Catalogue.ext_mem same

end IdSet

end Filing
