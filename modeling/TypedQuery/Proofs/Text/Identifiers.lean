import TypedQuery.Proofs.Text.Trimming
import TypedQuery.Text.Identifier

/-!
# The characters of identifiers

An identifier of source text opens and goes on with the characters of two tables. None of them is white
space (`isBlank_of_mem_identifier`), and of ASCII there are only letters, digits and the underscore
among them. So trimming leaves an identifier whole, behind a mark or not, and there is no mark in it.
-/

set_option autoImplicit false

namespace TypedQuery.Text

variable {name mark : List Char} {c : Char}

/-- An ASCII letter or digit, the underscore, or a character of the tables. -/
theorem identifierChar_cases (h : isIdentifierStart c = true ∨ isIdentifierContinue c = true) :
    isAlphanumeric c = true ∨ c = '_' ∨
      inRanges (identifierStartRanges ++ identifierContinueRanges) c = true := by
  rw [inRanges_append]
  simp only [isIdentifierStart, isIdentifierContinue, Char.isAlphanum, Bool.or_eq_true,
    Bool.and_eq_true, beq_iff_eq] at h
  rcases h with ((letter | rfl) | table) | ((letter | digit) | rfl) | table
  · exact Or.inl (isAlphanumeric_of_isAlphabetic (isAlphabetic_of_isAlpha letter))
  · exact Or.inr (Or.inl rfl)
  · exact Or.inr (Or.inr (Or.inl table.2))
  · exact Or.inl (isAlphanumeric_of_isAlphabetic (isAlphabetic_of_isAlpha letter))
  · exact Or.inl (by simp [isAlphanumeric, isNumeric, digit])
  · exact Or.inr (Or.inl rfl)
  · exact Or.inr (Or.inr (Or.inr table.2))

section Identifiers

variable (identifier : isIdentifier name = true)
include identifier

theorem mem_identifier (mem : c ∈ name) : isIdentifierStart c = true ∨ isIdentifierContinue c = true := by
  cases name with
  | nil => exact absurd mem List.not_mem_nil
  | cons d rest =>
    obtain ⟨start, continues⟩ := Bool.and_eq_true_iff.1 identifier
    rcases List.mem_cons.1 mem with rfl | later
    · exact Or.inl start
    · exact Or.inr (List.all_eq_true.1 continues c later)

theorem ne_nil_of_isIdentifier : name ≠ [] := by
  intro empty
  rw [empty] at identifier
  exact absurd identifier Bool.false_ne_true

theorem not_mem_identifier (outside : (isIdentifierStart c || isIdentifierContinue c) = false) :
    c ∉ name := by
  intro mem
  have inside := mem_identifier identifier mem
  rw [← Bool.or_eq_true, outside] at inside
  exact absurd inside Bool.false_ne_true

theorem unmarked_of_isIdentifier : unmarked name = name :=
  unmarked_eq_self (not_mem_identifier identifier (by decide))

theorem isBlank_of_mem_identifier (mem : c ∈ name) : isBlank c = false := by
  have apart : (identifierStartRanges ++ identifierContinueRanges).all
      (fun r => blankRanges.all r.apart) = true := by decide +kernel
  rcases identifierChar_cases (mem_identifier identifier mem) with letter | rfl | table
  · apply Bool.eq_false_iff.2
    intro blank
    exact absurd letter (by simp [isAlphanumeric_of_isBlank blank])
  · decide
  · exact inRanges_of_apart apart table

theorem trim_marked (marked : mark = [] ∨ mark = ['r', '#']) : trim (mark ++ name) = mark ++ name := by
  have notBlank : ∀ c ∈ mark ++ name, isBlank c = false := by
    intro c mem
    rcases List.mem_append.1 mem with here | there
    · rcases marked with rfl | rfl
      · exact absurd here List.not_mem_nil
      · have plain : ['r', '#'].any isBlank = false := by decide
        exact Bool.eq_false_iff.2 (List.any_eq_false.1 plain c here)
    · exact isBlank_of_mem_identifier identifier there
  have whole : trim ([] ++ (mark ++ name) ++ []) = mark ++ name :=
    trim_surrounded nofun nofun (by simp [ne_nil_of_isIdentifier identifier])
      (fun c head => notBlank c (List.mem_of_mem_head? head))
      (fun c last => notBlank c (List.mem_of_mem_getLast? last))
  simpa using whole

theorem unmarked_marked (marked : mark = [] ∨ mark = ['r', '#']) : unmarked (mark ++ name) = name := by
  rcases marked with rfl | rfl
  · exact unmarked_of_isIdentifier identifier
  · rfl

end Identifiers

end TypedQuery.Text
