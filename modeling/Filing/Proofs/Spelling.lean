import Mathlib.Data.List.DropRight
import Filing.Identify

/-!
# Identifiers and the texts for them

A text has exactly one part that white space surrounds and that neither begins nor ends with white
space (`Text.Trims`), and trimming finds it. That part is all that reading an identifier goes by
(`Segment.StandsFor`), so an identifier reads back from its own two parts. No separator is left in the
first of them, so it also reads back from its display.

## Main results

- `EntityId.reads_exactly`: which texts identifiers are read from, and what is read.
-/
namespace Filing

/-! ## Trimming -/

namespace Text

/-- What is left of `text` when the white space at both its ends is taken off is `part`. -/
structure Trims (text part : String) : Prop where
  around : ∃ before after : String, text = before ++ part ++ after ∧
    (∀ c ∈ before.toList, isBlank c = true) ∧ ∀ c ∈ after.toList, isBlank c = true
  first : ∀ c, part.toList.head? = some c → isBlank c = false
  last : ∀ c, part.toList.getLast? = some c → isBlank c = false

theorem trimEnd_eq_self_iff {cs : List Char} :
    trimEnd cs = cs ↔ ∀ c, cs.getLast? = some c → isBlank c = false := by
  have mirrored : trimEnd cs = cs ↔ trimStart cs.reverse = cs.reverse := List.reverse_eq_iff
  rw [mirrored, trimStart_eq_self_iff, List.head?_reverse]

theorem trimChars_eq_self {cs : List Char} (first : ∀ c, cs.head? = some c → isBlank c = false)
    (last : ∀ c, cs.getLast? = some c → isBlank c = false) : trimChars cs = cs := by
  rw [trimChars, trimStart_eq_self_iff.mpr first, trimEnd_eq_self_iff.mpr last]

theorem trimStart_append_blanks {before cs : List Char} (blank : ∀ c ∈ before, isBlank c = true) :
    trimStart (before ++ cs) = trimStart cs :=
  List.dropWhile_append_of_pos blank

theorem trimEnd_append_blanks {cs after : List Char} (blank : ∀ c ∈ after, isBlank c = true) :
    trimEnd (cs ++ after) = trimEnd cs := by
  have blank' : ∀ c ∈ after.reverse, isBlank c = true := by simpa using blank
  rw [trimEnd, List.reverse_append, trimStart_append_blanks blank', trimEnd]

/-- White space around a part that needs no trimming is taken off, and nothing else. -/
theorem trimChars_surrounded {before part after : List Char}
    (blankBefore : ∀ c ∈ before, isBlank c = true) (blankAfter : ∀ c ∈ after, isBlank c = true)
    (first : ∀ c, part.head? = some c → isBlank c = false)
    (last : ∀ c, part.getLast? = some c → isBlank c = false) :
    trimChars (before ++ part ++ after) = part := by
  rw [trimChars, List.append_assoc, trimStart_append_blanks blankBefore]
  cases part with
  | nil =>
    -- All of it is white space, and the start of it reaches to the end.
    have nothing : trimStart after = [] := List.dropWhile_eq_nil_iff.mpr blankAfter
    rw [List.nil_append, nothing]
    rfl
  | cons c rest =>
    -- Trimming at the start ends where the part begins, so what comes after the part is still there.
    have front : trimStart (c :: rest ++ after) = c :: rest ++ after :=
      trimStart_eq_self_iff.mpr fun d here => first d here
    rw [front, trimEnd_append_blanks blankAfter, trimEnd_eq_self_iff.mpr last]

/-- Trimming takes white space off both ends, and nothing else. -/
theorem exists_surrounding (cs : List Char) : ∃ before after, cs = before ++ trimChars cs ++ after ∧
    (∀ c ∈ before, isBlank c = true) ∧ ∀ c ∈ after, isBlank c = true := by
  refine ⟨cs.takeWhile isBlank, (trimStart cs).rtakeWhile isBlank, ?_,
    fun _ => List.mem_takeWhile_imp, fun _ => List.mem_rtakeWhile_imp⟩
  have back : trimChars cs ++ (trimStart cs).rtakeWhile isBlank = trimStart cs :=
    List.rdropWhile_append_rtakeWhile
  rw [List.append_assoc, back]
  exact List.takeWhile_append_dropWhile.symm

theorem trims_trim (text : String) : Trims text (trim text) where
  around := by
    obtain ⟨before, after, whole, blankBefore, blankAfter⟩ := exists_surrounding text.toList
    refine ⟨String.ofList before, String.ofList after, ?_, by simpa using blankBefore,
      by simpa using blankAfter⟩
    rw [trim, ← String.ofList_append, ← String.ofList_append, ← whole, String.ofList_toList]
  first := by
    rw [toList_trim]
    exact trimStart_eq_self_iff.mp (trimStart_trimEnd_of_trimStart (trimStart_trimStart _))
  last := by
    rw [toList_trim]
    exact trimEnd_eq_self_iff.mp (trimEnd_trimEnd _)

/-- Trimming finds the one part there is. -/
theorem trims_iff {text part : String} : Trims text part ↔ trim text = part := by
  constructor
  · rintro ⟨⟨before, after, rfl, blankBefore, blankAfter⟩, first, last⟩
    have trimmed := trimChars_surrounded blankBefore blankAfter first last
    rw [trim, String.toList_append, String.toList_append, trimmed, String.ofList_toList]
  · rintro rfl
    exact trims_trim text

theorem existsUnique_trims (text : String) : ∃! part, Trims text part :=
  ⟨trim text, trims_trim text, fun _ trims => (trims_iff.mp trims).symm⟩

end Text

/-! ## Reading -/

/-- A text that is trimmed to `part`, and `part` may be the drive or the name of an identifier. -/
structure Segment.StandsFor (text part : String) : Prop extends Text.Trims text part where
  filled : part ≠ ""
  noSlash : '/' ∉ part.toList
  noNul : '\x00' ∉ part.toList

namespace Segment

variable {text part : String} {s : Segment}

theorem noForbidden_iff {cs : List Char} :
    (∀ c ∈ cs, isForbidden c = false) ↔ separator ∉ cs ∧ '\x00' ∉ cs := by
  constructor
  · intro clean
    refine ⟨fun slash => ?_, fun nul => ?_⟩
    · cases clean _ slash
    · cases clean _ nul
  · rintro ⟨noSlash, noNul⟩ c member
    have notSlash : c ≠ separator := by
      rintro rfl
      exact noSlash member
    have notNul : c ≠ '\x00' := by
      rintro rfl
      exact noNul member
    simp [isForbidden, notSlash, notNul]

/-- Trimming twice is trimming once, so nothing more can be asked of what was trimmed. -/
theorem standsFor_iff : StandsFor text part ↔ Text.trim text = part ∧ IsSegment part := by
  constructor
  · rintro ⟨trims, filled, noSlash, noNul⟩
    have trimmed := Text.trims_iff.mp trims
    refine ⟨trimmed, filled, ?_, noForbidden_iff.mpr ⟨noSlash, noNul⟩⟩
    -- That a segment needs no trimming is not asked of the part; it is due to how the part came about.
    rw [← trimmed, Text.trim_trim]
  · rintro ⟨trimmed, filled, _, clean⟩
    obtain ⟨noSlash, noNul⟩ := noForbidden_iff.mp clean
    exact ⟨Text.trims_iff.mpr trimmed, filled, noSlash, noNul⟩

theorem ofText?_iff_standsFor : ofText? text = some s ↔ StandsFor text s.text := by
  rw [ofText?_eq_some_iff, standsFor_iff, and_iff_left s.valid]

theorem ofText_eq_ok_iff : ofText text = .ok s ↔ StandsFor text s.text := by
  rw [← ofText?_iff_standsFor, ofText]
  cases ofText? text <;> simp

/-- A segment stands for itself alone. -/
theorem standsFor_text_iff : StandsFor s.text part ↔ s.text = part := by
  rw [standsFor_iff, s.valid.2.1]
  exact and_iff_left_of_imp fun same => same ▸ s.valid

/-- Any part that a text stands for is a segment. -/
theorem StandsFor.exists_segment (stands : StandsFor text part) : ∃ s : Segment, s.text = part :=
  ⟨⟨part, (standsFor_iff.mp stands).2⟩, rfl⟩

end Segment

namespace EntityId

variable {drive name : String} {id other : EntityId}

theorem ofTexts_eq_ok_iff : ofTexts drive name = .ok id ↔
    Segment.StandsFor drive id.drive.text ∧ Segment.StandsFor name id.name.text := by
  rw [← Segment.ofText_eq_ok_iff, ← Segment.ofText_eq_ok_iff]
  unfold ofTexts
  cases id
  cases Segment.ofText drive <;> cases Segment.ofText name <;> simp

theorem exists_ofTexts_iff : (∃ id, ofTexts drive name = .ok id) ↔
    (∃ part, Segment.StandsFor drive part) ∧ ∃ part, Segment.StandsFor name part := by
  constructor
  · rintro ⟨id, read⟩
    obtain ⟨forDrive, forName⟩ := ofTexts_eq_ok_iff.mp read
    exact ⟨⟨_, forDrive⟩, _, forName⟩
  · rintro ⟨⟨_, forDrive⟩, _, forName⟩
    obtain ⟨driveSegment, rfl⟩ := forDrive.exists_segment
    obtain ⟨nameSegment, rfl⟩ := forName.exists_segment
    exact ⟨⟨driveSegment, nameSegment⟩, ofTexts_eq_ok_iff.mpr ⟨forDrive, forName⟩⟩

theorem sibling_eq_ok_iff : id.sibling name = .ok other ↔
    other.drive = id.drive ∧ Segment.StandsFor name other.name.text := by
  rw [sibling, ofTexts_eq_ok_iff, Segment.standsFor_text_iff]
  refine and_congr_left fun _ => ⟨fun same => Segment.ext same.symm, fun same => ?_⟩
  rw [same]

/-! ## Displays -/

/-- A text is split at its first separator, so there is none in the piece before it. -/
theorem splitDisplay_eq_some_iff {text : String} : splitDisplay text = some (drive, name) ↔
    text = drive ++ "/" ++ name ∧ '/' ∉ drive.toList := by
  constructor
  · intro split
    have whole := List.takeWhile_append_dropWhile (p := (· ≠ separator)) (l := text.toList)
    have first := List.head?_dropWhile_not (· ≠ separator) (l := text.toList)
    unfold splitDisplay at split
    cases rest : text.toList.dropWhile (· ≠ separator) with
    | nil =>
      rw [rest] at split
      cases split
    | cons c after =>
      -- The second piece begins behind the character that ended the first one.
      rw [rest] at split whole first
      cases split
      have isSeparator : c = separator := by simpa using first
      refine ⟨?_, fun slash => ?_⟩
      · rw [← String.toList_inj]
        refine whole.symm.trans ?_
        simp [isSeparator, separator]
      · rw [String.toList_ofList] at slash
        have passed := List.mem_takeWhile_imp slash
        cases passed
  · rintro ⟨rfl, noSlash⟩
    have passed : ∀ c ∈ drive.toList, decide (c ≠ separator) = true := by
      intro c member
      have differs : c ≠ separator := by
        rintro rfl
        exact noSlash member
      simpa using differs
    have whole : (drive ++ "/" ++ name).toList = drive.toList ++ separator :: name.toList := by
      simp [separator]
    rw [splitDisplay, whole, List.dropWhile_append_of_pos passed, List.takeWhile_append_of_pos passed]
    simp

theorem splitDisplay_display (id : EntityId) :
    splitDisplay id.display = some (id.drive.text, id.name.text) :=
  splitDisplay_eq_some_iff.mpr ⟨rfl, (Segment.noForbidden_iff.mp id.drive.valid.2.2).1⟩

theorem display_injective : Function.Injective display := by
  intro a b same
  have parts : (a.drive.text, a.name.text) = (b.drive.text, b.name.text) := by
    rw [← Option.some_inj, ← splitDisplay_display, ← splitDisplay_display, same]
  obtain ⟨sameDrive, sameName⟩ := Prod.mk.inj parts
  have read : ofTexts a.drive.text a.name.text = .ok b := by
    rw [sameDrive, sameName, ofTexts_texts]
  rw [ofTexts_texts] at read
  exact Except.ok.inj read

/-- An identifier is read if both texts, when the white space at their ends is taken off, are neither
empty nor contain a slash or NUL, and it holds what is left of them then. It reads back from its parts
and from the pieces of its display, so no two have one display. A sibling stays in the drive. -/
theorem reads_exactly :
    (∀ text, ∃! part, Text.Trims text part) ∧
    (∀ drive name, (∃ id, ofTexts drive name = .ok id) ↔
      (∃ part, Segment.StandsFor drive part) ∧ ∃ part, Segment.StandsFor name part) ∧
    (∀ drive name id, ofTexts drive name = .ok id ↔
      Segment.StandsFor drive id.drive.text ∧ Segment.StandsFor name id.name.text) ∧
    (∀ id name other, sibling id name = .ok other ↔
      other.drive = id.drive ∧ Segment.StandsFor name other.name.text) ∧
    (∀ id, ofTexts id.drive.text id.name.text = .ok id) ∧
    (∀ text drive name, splitDisplay text = some (drive, name) ↔
      text = drive ++ "/" ++ name ∧ '/' ∉ drive.toList) ∧
    (∀ id, ∃ drive name, splitDisplay id.display = some (drive, name) ∧
      ofTexts drive name = .ok id) ∧
    Function.Injective display :=
  ⟨Text.existsUnique_trims, fun _ _ => exists_ofTexts_iff, fun _ _ _ => ofTexts_eq_ok_iff,
    fun _ _ _ => sibling_eq_ok_iff, ofTexts_texts, fun _ _ _ => splitDisplay_eq_some_iff,
    fun id => ⟨_, _, splitDisplay_display id, ofTexts_texts id⟩, display_injective⟩

example : ofTexts "\u2003d " "\tmy docs\u00a0" = .ok ⟨⟨"d", by decide⟩, ⟨"my docs", by decide⟩⟩ := by
  rfl

end EntityId

end Filing
