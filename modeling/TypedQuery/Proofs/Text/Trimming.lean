import Mathlib.Data.List.TakeWhile
import TypedQuery.Text.Alphanumeric
import TypedQuery.Text.Blank

/-!
# `trim` — what trimming leaves

Trimming removes white space at both ends and nothing else: a text is what trimming leaves of it
between two stretches of white space (`exists_trim`), and what has no white space at its own ends comes
out whole (`trim_surrounded`). Letters and numbers are never white space, which their tables show
(`isAlphanumeric_of_isBlank`).
-/

set_option autoImplicit false

namespace TypedQuery.Text

variable {c : Char}

/-! ## White space is no letter and no number -/

/-- No character is in both ranges. -/
def CodeRange.apart (r s : CodeRange) : Bool := r.last < s.first || s.last < r.first

theorem inRanges_of_apart {rs ss : List CodeRange}
    (apart : rs.all (fun r => ss.all r.apart) = true) (mem : inRanges rs c = true) :
    inRanges ss c = false := by
  obtain ⟨r, hr, first, last⟩ := inRanges_iff.1 mem
  apply Bool.eq_false_iff.2
  intro mem'
  obtain ⟨s, hs, first', last'⟩ := inRanges_iff.1 mem'
  have disjoint := List.all_eq_true.1 (List.all_eq_true.1 apart r hr) s hs
  simp only [CodeRange.apart, Bool.or_eq_true, decide_eq_true_eq] at disjoint
  omega

/-- The ASCII digits and letters, and the tables beyond them. -/
def alphanumericRanges : List CodeRange :=
  [⟨0x30, 0x39⟩, ⟨0x41, 0x5A⟩, ⟨0x61, 0x7A⟩] ++ alphabeticRanges ++ numericRanges

theorem inRanges_of_isAlphanumeric (h : isAlphanumeric c = true) :
    inRanges alphanumericRanges c = true := by
  rw [alphanumericRanges, inRanges_append, inRanges_append]
  rcases Bool.or_eq_true_iff.1 h with letter | number
  · rcases Bool.or_eq_true_iff.1 letter with ascii | beyond
    · rcases toNat_of_isAlpha ascii with upper | lower
      · exact Or.inl (Or.inl (inRanges_iff.2 ⟨⟨0x41, 0x5A⟩, by simp, upper⟩))
      · exact Or.inl (Or.inl (inRanges_iff.2 ⟨⟨0x61, 0x7A⟩, by simp, lower⟩))
    · exact Or.inl (Or.inr (Bool.and_eq_true_iff.1 beyond).2)
  · rcases Bool.or_eq_true_iff.1 number with ascii | beyond
    · exact Or.inl (Or.inl (inRanges_iff.2 ⟨⟨0x30, 0x39⟩, by simp, toNat_of_isDigit ascii⟩))
    · exact Or.inr (Bool.and_eq_true_iff.1 beyond).2

theorem isAlphanumeric_of_isBlank (blank : isBlank c = true) : isAlphanumeric c = false := by
  have apart : blankRanges.all (fun r => alphanumericRanges.all r.apart) = true := by
    decide +kernel
  apply Bool.eq_false_iff.2
  intro alphanumeric
  have covered := inRanges_of_isAlphanumeric alphanumeric
  exact absurd covered (by simp [inRanges_of_apart apart blank])

/-! ## Trimming -/

variable {before text after : List Char}

theorem trimLeft_append (blank : ∀ c ∈ before, isBlank c = true) (text : List Char) :
    trimLeft (before ++ text) = trimLeft text := by
  induction before with
  | nil => rfl
  | cons c rest ih =>
    obtain ⟨here, below⟩ := List.forall_mem_cons.1 blank
    have dropped : trimLeft ((c :: rest) ++ text) = trimLeft (rest ++ text) :=
      List.dropWhile_cons_of_pos here
    rw [dropped, ih below]

theorem trimLeft_eq_self (opens : ∀ c ∈ text.head?, isBlank c = false) : trimLeft text = text := by
  cases text with
  | nil => rfl
  | cons c rest => exact List.dropWhile_cons_of_neg (by simp [opens c rfl])

/-- White space around a text that has none at its ends is removed, and nothing more. -/
theorem trim_surrounded (blank : ∀ c ∈ before, isBlank c = true)
    (blank' : ∀ c ∈ after, isBlank c = true) (nonempty : text ≠ [])
    (opens : ∀ c ∈ text.head?, isBlank c = false)
    (closes : ∀ c ∈ text.getLast?, isBlank c = false) : trim (before ++ text ++ after) = text := by
  obtain ⟨c, rest, rfl⟩ := List.exists_cons_of_ne_nil nonempty
  have left : trimLeft (before ++ (c :: rest) ++ after) = (c :: rest) ++ after := by
    rw [List.append_assoc, trimLeft_append blank]
    exact trimLeft_eq_self opens
  rw [trim, left, List.reverse_append, trimLeft_append (by simpa using blank'),
    trimLeft_eq_self (by rwa [List.head?_reverse]), List.reverse_reverse]

theorem exists_trimLeft (text : List Char) :
    ∃ before, text = before ++ trimLeft text ∧ ∀ c ∈ before, isBlank c = true :=
  ⟨text.takeWhile isBlank, List.takeWhile_append_dropWhile.symm,
    fun _ mem => List.mem_takeWhile_imp mem⟩

/-- A text is what trimming leaves of it, between white space. -/
theorem exists_trim (text : List Char) : ∃ before after, text = before ++ trim text ++ after ∧
    (∀ c ∈ before, isBlank c = true) ∧ ∀ c ∈ after, isBlank c = true := by
  obtain ⟨before, left, blank⟩ := exists_trimLeft text
  obtain ⟨after, right, blank'⟩ := exists_trimLeft (trimLeft text).reverse
  refine ⟨before, after.reverse, ?_, blank, fun c mem => blank' c (List.mem_reverse.1 mem)⟩
  have whole : trimLeft text = trim text ++ after.reverse := by
    rw [trim, ← List.reverse_append, ← right, List.reverse_reverse]
  rw [List.append_assoc, ← whole]
  exact left

end TypedQuery.Text
