import Filing.Text.Ranges

/-!
White space as Unicode defines it (the property White_Space), and trimming by it. Trimming takes
blanks from both ends and nothing else, so trimming twice is trimming once.
-/
namespace Filing.Text

def blanks : Ranges :=
  [(0x9, 0xD), (0x20, 0x20), (0x85, 0x85), (0xA0, 0xA0), (0x1680, 0x1680), (0x2000, 0x200A),
   (0x2028, 0x2029), (0x202F, 0x202F), (0x205F, 0x205F), (0x3000, 0x3000)]

def isBlank (c : Char) : Bool := blanks.has c

def trimStart (cs : List Char) : List Char := cs.dropWhile isBlank

def trimEnd (cs : List Char) : List Char := (trimStart cs.reverse).reverse

def trimChars (cs : List Char) : List Char := trimEnd (trimStart cs)

def trim (s : String) : String := String.ofList (trimChars s.toList)

theorem trimStart_eq_self_iff {cs : List Char} :
    trimStart cs = cs ↔ ∀ c, cs.head? = some c → isBlank c = false := by
  cases cs with
  | nil => simp [trimStart]
  | cons c rest =>
    cases blank : isBlank c with
    | false => simp [trimStart, blank]
    | true =>
      have shorter := (List.dropWhile_suffix isBlank (l := rest)).length_le
      have differs : trimStart (c :: rest) ≠ c :: rest := by
        intro same
        have := congrArg List.length same
        simp only [trimStart, List.dropWhile_cons_of_pos blank, List.length_cons] at this
        omega
      simp [differs, blank]

theorem trimStart_trimStart (cs : List Char) : trimStart (trimStart cs) = trimStart cs := by
  rw [trimStart_eq_self_iff]
  intro c first
  have := List.head?_dropWhile_not isBlank cs
  rw [trimStart] at first
  rw [first] at this
  simpa using this

theorem trimEnd_trimEnd (cs : List Char) : trimEnd (trimEnd cs) = trimEnd cs := by
  simp [trimEnd, trimStart_trimStart]

theorem trimEnd_isPrefix (cs : List Char) : trimEnd cs <+: cs := by
  have := List.dropWhile_suffix isBlank (l := cs.reverse)
  simpa [trimEnd, trimStart] using List.reverse_prefix.mpr this

/-- The two ends do not meet: cutting blanks at the end uncovers none at the start. -/
theorem trimStart_trimEnd_of_trimStart {cs : List Char} (trimmed : trimStart cs = cs) :
    trimStart (trimEnd cs) = trimEnd cs := by
  rw [trimStart_eq_self_iff] at *
  intro c first
  apply trimmed
  obtain ⟨rest, whole⟩ := trimEnd_isPrefix cs
  rw [← whole, List.head?_append, first, Option.some_or]

theorem trimChars_trimChars (cs : List Char) : trimChars (trimChars cs) = trimChars cs := by
  have front := trimStart_trimEnd_of_trimStart (trimStart_trimStart cs)
  simp only [trimChars]
  rw [front, trimEnd_trimEnd]

theorem trim_trim (s : String) : trim (trim s) = trim s := by
  simp [trim, trimChars_trimChars]

theorem toList_trim (s : String) : (trim s).toList = trimChars s.toList := by
  simp [trim]

end Filing.Text
