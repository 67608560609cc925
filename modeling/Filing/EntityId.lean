import Filing.Text.Blank
import Filing.Text.Quoted

/-!
Identifiers of folders and files: a drive and a name inside it.

Both parts are segments: trimmed, not empty, free of the separator and of NUL. A segment carries
the proof of that, so the display of an identifier splits back into its parts at the first
separator. Identifiers are ordered by drive, then by name, each by code points.
-/
namespace Filing

/-- Stands between the drive and the name in a displayed identifier. -/
def separator : Char := '/'

/-- Neither the separator nor NUL may occur in a segment. -/
def isForbidden (c : Char) : Bool := c == separator || c == '\x00'

def IsSegment (text : String) : Prop :=
  text ≠ "" ∧ Text.trim text = text ∧ ∀ c ∈ text.toList, isForbidden c = false

instance (text : String) : Decidable (IsSegment text) :=
  -- Only the characters of the text are looked at, not all there are.
  letI : Decidable (∀ c ∈ text.toList, isForbidden c = false) := List.decidableBAll _ _
  inferInstanceAs (Decidable (_ ∧ _ ∧ _))

structure Segment where
  text : String
  valid : IsSegment text
  deriving DecidableEq

namespace Segment

/-- The segment that `text` stands for once trimmed, if there is one. -/
def ofText? (text : String) : Option Segment :=
  if valid : IsSegment (Text.trim text) then some ⟨Text.trim text, valid⟩ else none

theorem ext {a b : Segment} (same : a.text = b.text) : a = b := by
  cases a
  cases b
  cases same
  rfl

@[simp] theorem ofText?_text (s : Segment) : ofText? s.text = some s := by
  have trimmed : Text.trim s.text = s.text := s.valid.2.1
  have valid : IsSegment (Text.trim s.text) := trimmed.symm ▸ s.valid
  simp only [ofText?, valid, ↓reduceDIte, Option.some.injEq]
  exact ext trimmed

theorem ofText?_eq_some_iff {text : String} {s : Segment} :
    ofText? text = some s ↔ Text.trim text = s.text := by
  constructor
  · intro read
    unfold ofText? at read
    split at read
    · cases read
      rfl
    · cases read
  · intro same
    have valid : IsSegment (Text.trim text) := same.symm ▸ s.valid
    simp only [ofText?, valid, ↓reduceDIte, Option.some.injEq]
    exact ext same

end Segment

structure EntityId where
  drive : Segment
  name : Segment
  deriving DecidableEq

namespace EntityId

def display (id : EntityId) : String :=
  id.drive.text ++ String.singleton separator ++ id.name.text

instance : LT EntityId where
  lt a b := a.drive.text < b.drive.text ∨ a.drive = b.drive ∧ a.name.text < b.name.text

instance (a b : EntityId) : Decidable (a < b) :=
  inferInstanceAs (Decidable (_ ∨ _ ∧ _))

theorem lt_def {a b : EntityId} :
    a < b ↔ a.drive.text < b.drive.text ∨ a.drive = b.drive ∧ a.name.text < b.name.text :=
  Iff.rfl

protected theorem lt_irrefl (a : EntityId) : ¬ a < a := by
  rintro (less | ⟨_, less⟩)
  · exact String.lt_irrefl _ less
  · exact String.lt_irrefl _ less

protected theorem lt_trans {a b c : EntityId} (first : a < b) (second : b < c) : a < c := by
  rw [lt_def] at *
  rcases first with drive | ⟨drive, name⟩ <;> rcases second with drive' | ⟨drive', name'⟩
  · exact .inl (String.lt_trans drive drive')
  · exact .inl (drive' ▸ drive)
  · exact .inl (drive ▸ drive')
  · exact .inr ⟨drive.trans drive', String.lt_trans name name'⟩

protected theorem lt_asymm {a b : EntityId} (less : a < b) : ¬ b < a :=
  fun greater => EntityId.lt_irrefl a (EntityId.lt_trans less greater)

protected theorem ne_of_lt {a b : EntityId} (less : a < b) : a ≠ b := by
  rintro rfl
  exact EntityId.lt_irrefl a less

/-- Of two identifiers that are not equal one comes first. -/
protected theorem lt_trichotomy (a b : EntityId) : a < b ∨ a = b ∨ b < a := by
  have text_trichotomy (s t : String) : s < t ∨ s = t ∨ t < s :=
    Std.Trichotomous.rel_or_eq_or_rel_swap
  rcases text_trichotomy a.drive.text b.drive.text with less | same | greater
  · exact .inl (.inl less)
  · rcases text_trichotomy a.name.text b.name.text with less | sameName | greater
    · exact .inl (.inr ⟨Segment.ext same, less⟩)
    · refine .inr (.inl ?_)
      cases a
      cases b
      cases Segment.ext same
      cases Segment.ext sameName
      rfl
    · exact .inr (.inr (.inr ⟨(Segment.ext same).symm, greater⟩))
  · exact .inr (.inr (.inl greater))

/-- Identifiers in order; one that comes twice stays twice. -/
def inOrder (ids : List EntityId) : List EntityId := ids.mergeSort fun a b => !decide (b < a)

end EntityId

end Filing
