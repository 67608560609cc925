import Mathlib.Tactic.SplitIfs
import Filing.Proofs.Integrity
import Filing.Proofs.Spelling
import Filing.Settings.Basic

/-!
# Numbers behind a name

A number behind a segment leaves nothing to trim, so what comes of it is a segment if and only if the
separator holds nothing that no segment may hold (`Suffixing.isSegment_suffixed_iff`). With such a
separator the search for a free identifier goes through the numbers in order
(`MemoryStore.firstFreeId_of_clean`), and with any other one it fails at the first of them.

Settings that are accepted have no slash in the separator, but they may have NUL in it.

## Main results

- `Settings.freeId_of_accepted`: what accepted settings make of a wanted name.
-/
namespace Filing

/-! ## Digits -/

namespace Text

theorem isBlank_of_isDigit {c : Char} (digit : c.isDigit = true) : isBlank c = false := by
  simp only [Char.isDigit, Bool.and_eq_true, decide_eq_true_eq] at digit
  have low : 48 ≤ c.toNat := UInt32.le_iff_toNat_le.mp digit.1
  have high : c.toNat ≤ 57 := UInt32.le_iff_toNat_le.mp digit.2
  simp only [isBlank, Ranges.has, blanks, List.any_cons, List.any_nil, Bool.or_false,
    Bool.or_eq_false_iff, Bool.and_eq_false_iff, decide_eq_false_iff_not]
  omega

end Text

theorem isForbidden_of_isDigit {c : Char} (digit : c.isDigit = true) : isForbidden c = false := by
  cases forbidden : isForbidden c with
  | false => rfl
  | true =>
    simp only [isForbidden, Bool.or_eq_true, beq_iff_eq] at forbidden
    rcases forbidden with rfl | rfl
    · cases digit
    · cases digit

theorem Segment.isBlank_head (segment : Segment) {c : Char}
    (first : segment.text.toList.head? = some c) : Text.isBlank c = false :=
  (Text.trims_iff.mpr segment.valid.2.1).first c first

/-! ## Numbered names -/

namespace Suffixing

variable {s : Suffixing} {taken : EntityId} {number : Nat}

/-- The separator holds nothing that no segment may hold. -/
def Clean (s : Suffixing) : Prop := ∀ c ∈ s.separator.toList, isForbidden c = false

theorem clean_iff : s.Clean ↔ Filing.separator ∉ s.separator.toList ∧ '\x00' ∉ s.separator.toList :=
  Segment.noForbidden_iff

theorem toList_suffixed (s : Suffixing) (name : String) (number : Nat) :
    (s.suffixed name number).toList =
      name.toList ++ (s.separator.toList ++ Nat.toDigits 10 number) := by
  simp [suffixed]

/-- The name begins with no blank, and the number ends with a digit. -/
theorem trim_suffixed (s : Suffixing) (name : Segment) (number : Nat) :
    Text.trim (s.suffixed name.text number) = s.suffixed name.text number := by
  have digits {c : Char} (member : c ∈ Nat.toDigits 10 number) : c.isDigit = true :=
    Nat.isDigit_of_mem_toDigits (by decide) (by decide) member
  have filled : name.text.toList ≠ [] := fun empty => name.valid.1 (String.toList_eq_nil_iff.mp empty)
  have trimmed : Text.trimChars (s.suffixed name.text number).toList =
      (s.suffixed name.text number).toList := by
    rw [toList_suffixed]
    refine Text.trimChars_eq_self (fun c first => ?_) fun c last => ?_
    · rw [List.head?_append, List.head?_eq_some_head filled, Option.some_or] at first
      exact name.isBlank_head ((List.head?_eq_some_head filled).trans first)
    · have some : Nat.toDigits 10 number ≠ [] := Nat.toDigits_ne_nil
      have ends := List.getLast?_eq_some_getLast some
      rw [List.getLast?_append, List.getLast?_append, ends, Option.some_or, Option.some_or] at last
      exact Text.isBlank_of_isDigit (digits (List.mem_of_getLast? (ends.trans last)))
  rw [Text.trim, trimmed, String.ofList_toList]

theorem isSegment_suffixed_iff {name : Segment} :
    IsSegment (s.suffixed name.text number) ↔ s.Clean := by
  have digits {c : Char} (member : c ∈ Nat.toDigits 10 number) : isForbidden c = false :=
    isForbidden_of_isDigit (Nat.isDigit_of_mem_toDigits (by decide) (by decide) member)
  have filled : s.suffixed name.text number ≠ "" := by
    intro empty
    have nothing := String.toList_eq_nil_iff.mpr empty
    rw [toList_suffixed, List.append_eq_nil_iff] at nothing
    exact name.valid.1 (String.toList_eq_nil_iff.mp nothing.1)
  constructor
  · intro segment c member
    exact segment.2.2 c (by simp [toList_suffixed, member])
  · intro clean
    refine ⟨filled, s.trim_suffixed name number, fun c member => ?_⟩
    rw [toList_suffixed, List.mem_append, List.mem_append] at member
    rcases member with inName | inSeparator | inNumber
    · exact name.valid.2.2 c inName
    · exact clean c inSeparator
    · exact digits inNumber

/-- The identifier with a number behind its name. -/
def numbered (s : Suffixing) (clean : s.Clean) (taken : EntityId) (number : Nat) : EntityId where
  drive := taken.drive
  name := ⟨s.suffixed taken.name.text number, isSegment_suffixed_iff.mpr clean⟩

theorem sibling_of_clean (clean : s.Clean) :
    taken.sibling (s.suffixed taken.name.text number) = .ok (s.numbered clean taken number) := by
  exact EntityId.ofTexts_texts (s.numbered clean taken number)

theorem sibling_of_unclean (unclean : ¬ s.Clean) :
    taken.sibling (s.suffixed taken.name.text number) =
      .error (.invalidId (s.suffixed taken.name.text number)) := by
  have none : Segment.ofText? (s.suffixed taken.name.text number) = none := by
    rw [Segment.ofText?, dif_neg]
    rwa [trim_suffixed, isSegment_suffixed_iff]
  simp [EntityId.sibling, EntityId.ofTexts, Segment.ofText, none]

end Suffixing

/-! ## The search -/

namespace MemoryStore

variable {store : MemoryStore} {s : Suffixing} {taken : EntityId} {desired : String}

/-- The first number that is free, or all numbers that were tried are in use. -/
theorem firstFreeId_of_clean (clean : s.Clean) (number attempts : Nat) :
    match store.firstFreeId s taken desired number attempts with
    | .ok id => ∃ n, number ≤ n ∧ n < number + attempts ∧ id = s.numbered clean taken n ∧
        store.has id = false ∧
        ∀ k, number ≤ k → k < n → store.has (s.numbered clean taken k) = true
    | .error cause => cause = .exhausted desired ∧
        ∀ k, number ≤ k → k < number + attempts → store.has (s.numbered clean taken k) = true := by
  induction attempts generalizing number with
  | zero => exact ⟨rfl, fun k low high => by omega⟩
  | succ attempts ih =>
    rw [firstFreeId_succ, Suffixing.sibling_of_clean clean]
    dsimp only
    by_cases used : store.has (s.numbered clean taken number) = true
    · rw [if_pos used]
      -- What the search comes to from the next number on, with this one in use.
      have rest := ih (number + 1)
      have extend {high : Nat} (later : ∀ k, number + 1 ≤ k → k < high →
          store.has (s.numbered clean taken k) = true) (k : Nat) (low : number ≤ k) (less : k < high) :
          store.has (s.numbered clean taken k) = true := by
        rcases Nat.eq_or_lt_of_le low with rfl | low
        · exact used
        · exact later k low less
      cases found : store.firstFreeId s taken desired (number + 1) attempts with
      | ok id =>
        rw [found] at rest
        obtain ⟨n, low, high, rfl, unused, earlier⟩ := rest
        exact ⟨n, by omega, by omega, rfl, unused, extend earlier⟩
      | error cause =>
        rw [found] at rest
        obtain ⟨rfl, all⟩ := rest
        exact ⟨rfl, fun k low high => extend all k low (by omega)⟩
    · rw [if_neg used]
      exact ⟨number, Nat.le_refl _, by omega, rfl, by simpa using used, fun k low high => by omega⟩

theorem firstFreeId_of_unclean (unclean : ¬ s.Clean) (number : Nat) {attempts : Nat}
    (some : 0 < attempts) :
    store.firstFreeId s taken desired number attempts =
      .error (.invalidId (s.suffixed taken.name.text number)) := by
  obtain ⟨attempts, rfl⟩ := Nat.exists_eq_add_one_of_ne_zero (Nat.ne_of_gt some)
  rw [firstFreeId_succ, Suffixing.sibling_of_unclean unclean]

/-- Neither the wanted identifier is free nor one with a number behind it that is tried. -/
def Exhausts (store : MemoryStore) (s : Suffixing) (wanted : EntityId) : Prop :=
  store.has wanted = true ∧ ∀ n, s.start ≤ n → n < s.start + s.attempts →
    ∃ id, wanted.sibling (s.suffixed wanted.name.text n) = .ok id ∧ store.has id = true

variable {drive : String} {wanted : EntityId}

theorem freeId_of_unused (named : EntityId.ofTexts drive desired = .ok wanted)
    (unused : store.has wanted = false) : store.freeId s drive desired = .ok wanted := by
  rw [freeId_eq, named]
  simp [unused]

theorem freeId_of_used (named : EntityId.ofTexts drive desired = .ok wanted)
    (used : store.has wanted = true) :
    store.freeId s drive desired = store.firstFreeId s wanted desired s.start s.attempts := by
  rw [freeId_eq, named]
  simp [used]

theorem freeId_of_clean (clean : s.Clean) (named : EntityId.ofTexts drive desired = .ok wanted) :
    (∃ id, store.freeId s drive desired = .ok id ∧ store.has id = false) ∨
      store.freeId s drive desired = .error (.exhausted desired) ∧ store.Exhausts s wanted := by
  cases used : store.has wanted with
  | false => exact .inl ⟨wanted, freeId_of_unused named used, used⟩
  | true =>
    rw [freeId_of_used named used]
    have searched := @firstFreeId_of_clean store s wanted desired clean s.start s.attempts
    cases found : store.firstFreeId s wanted desired s.start s.attempts with
    | ok id =>
      rw [found] at searched
      obtain ⟨_, _, _, _, unused, _⟩ := searched
      exact .inl ⟨id, rfl, unused⟩
    | error cause =>
      rw [found] at searched
      obtain ⟨rfl, all⟩ := searched
      exact .inr ⟨rfl, used, fun n low high => ⟨_, Suffixing.sibling_of_clean clean, all n low high⟩⟩

end MemoryStore

/-! ## Accepted settings -/

namespace Settings

variable {s : Settings}

theorem accepted_iff : s.validate = .ok s ↔
    s.separator ≠ "" ∧ '/' ∉ s.separator.toList ∧ s.maxAttempts ≠ 0 ∧ s.firstSuffix ≠ 0 := by
  unfold validate fault?
  split_ifs with empty slash attempts first
  · simp [empty]
  · simp [slash]
  · simp [attempts]
  · simp [first]
  · simp [empty, slash, attempts, first]

/-- Of what no segment may hold, only NUL is let through. -/
theorem clean_iff_of_accepted (accepted : s.validate = .ok s) :
    s.suffixing.Clean ↔ '\x00' ∉ s.separator.toList := by
  obtain ⟨_, noSlash, _⟩ := accepted_iff.mp accepted
  rw [Suffixing.clean_iff]
  exact ⟨And.right, fun noNul => ⟨noSlash, noNul⟩⟩

theorem attempts_of_accepted (accepted : s.validate = .ok s) : 0 < s.suffixing.attempts := by
  obtain ⟨_, _, attempts, _⟩ := accepted_iff.mp accepted
  have some : s.maxAttempts.toNat ≠ 0 := fun zero => attempts (UInt32.toNat_inj.mp zero)
  have small : s.firstSuffix.toNat < UInt32.size := s.firstSuffix.toNat_lt_size
  have one : 1 < UInt32.size := by decide
  simp only [Suffixing.attempts, Suffixing.start, suffixing]
  omega

/-- Accepted settings give an identifier that is not in use, or all that were tried are in use, unless
the wanted name is taken and there is NUL in the separator: then the first numbered name is refused. -/
theorem freeId_of_accepted (accepted : s.validate = .ok s) (store : MemoryStore) {drive desired : String}
    {wanted : EntityId} (named : EntityId.ofTexts drive desired = .ok wanted) :
    ((∃ id, store.freeId s.suffixing drive desired = .ok id ∧ store.has id = false) ∨
        store.freeId s.suffixing drive desired = .error (.exhausted desired) ∧
          store.Exhausts s.suffixing wanted ↔
      ¬ ('\x00' ∈ s.separator.toList ∧ store.has wanted = true)) ∧
    ('\x00' ∈ s.separator.toList → store.has wanted = true →
      store.freeId s.suffixing drive desired =
        .error (.invalidId (s.suffixing.suffixed wanted.name.text s.suffixing.start))) := by
  have refused (nul : '\x00' ∈ s.separator.toList) (used : store.has wanted = true) :
      store.freeId s.suffixing drive desired =
        .error (.invalidId (s.suffixing.suffixed wanted.name.text s.suffixing.start)) := by
    have unclean : ¬ s.suffixing.Clean := fun clean => (clean_iff_of_accepted accepted).mp clean nul
    rw [MemoryStore.freeId_of_used named used]
    exact MemoryStore.firstFreeId_of_unclean unclean _ (attempts_of_accepted accepted)
  refine ⟨⟨?_, fun harmless => ?_⟩, refused⟩
  · rintro given ⟨nul, used⟩
    rw [refused nul used] at given
    rcases given with ⟨_, ⟨⟩, _⟩ | ⟨⟨⟩, _⟩
  · by_cases nul : '\x00' ∈ s.separator.toList
    · have unused : store.has wanted = false := by
        simpa using fun used => harmless ⟨nul, used⟩
      exact .inl ⟨wanted, MemoryStore.freeId_of_unused named unused, unused⟩
    · exact MemoryStore.freeId_of_clean ((clean_iff_of_accepted accepted).mpr nul) named

open Sample in
theorem freeId_of_accepted_apart :
    (({} : Settings).validate = .ok {} ∧
      ({ separator := "\x00" } : Settings).validate = .ok { separator := "\x00" } ∧
      EntityId.ofTexts "d" "note" = .ok note ∧ apart.has note = true) ∧
    ((∃ id, apart.freeId ({} : Settings).suffixing "d" "note" = .ok id ∧ apart.has id = false) ∨
      apart.freeId ({} : Settings).suffixing "d" "note" = .error (.exhausted "note") ∧
        apart.Exhausts ({} : Settings).suffixing note) ∧
    apart.freeId ({ separator := "\x00" } : Settings).suffixing "d" "note" =
      .error (.invalidId "note\x001") := by
  have named : EntityId.ofTexts "d" "note" = .ok note := EntityId.ofTexts_texts note
  have standard : ({} : Settings).validate = .ok {} := accepted_iff.mpr (by decide)
  have odd : ({ separator := "\x00" } : Settings).validate = .ok { separator := "\x00" } :=
    accepted_iff.mpr (by decide)
  exact ⟨⟨standard, odd, named, by decide⟩,
    (freeId_of_accepted standard apart named).1.mpr (by decide),
    (freeId_of_accepted odd apart named).2 (by decide) (by decide)⟩

open Sample in
/-- The separator NUL is accepted, and with it there is nothing to put behind a name that is taken. -/
theorem not_freeId_of_accepted_nul :
    ({ separator := "\x00" } : Settings).validate = .ok { separator := "\x00" } ∧
    EntityId.ofTexts "d" "note" = .ok note ∧
    ¬ ((∃ id, apart.freeId ({ separator := "\x00" } : Settings).suffixing "d" "note" = .ok id ∧
        apart.has id = false) ∨
      apart.freeId ({ separator := "\x00" } : Settings).suffixing "d" "note" =
        .error (.exhausted "note")) := by
  have named : EntityId.ofTexts "d" "note" = .ok note := EntityId.ofTexts_texts note
  have refused : apart.freeId ({ separator := "\x00" } : Settings).suffixing "d" "note" =
      .error (.invalidId "note\x001") := by
    rw [MemoryStore.freeId_of_used named (by decide)]
    exact MemoryStore.firstFreeId_of_unclean (fun clean => by cases clean '\x00' (by decide)) _ (by decide)
  refine ⟨accepted_iff.mpr (by decide), named, ?_⟩
  rw [refused]
  rintro (⟨_, ⟨⟩, _⟩ | ⟨⟨⟩⟩)

end Settings

end Filing
