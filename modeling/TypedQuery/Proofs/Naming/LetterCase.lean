import Mathlib
import TypedQuery.Text.Name

/-!
# Letter case — what changing the case of a letter keeps

Letters and digits stay such, and what may open a name still may. A character is known from its lower
case and whether it is in upper case, and so is a text. The library's lemmas on the case of a `Char`
come with the whole of it only, so it is imported here and nowhere else.
-/

set_option autoImplicit false

namespace TypedQuery.Text

variable {c d : Char} {cs ds : List Char}

theorem isAlphanum_toUpper (h : c.isAlphanum = true) : c.toUpper.isAlphanum = true := by
  by_cases lower : c.isLower = true
  · simp [Char.isAlphanum, Char.isAlpha, lower]
  · rwa [Char.toUpper_eq_of_not_isLower lower]

theorem isAlphanum_toLower (h : c.isAlphanum = true) : c.toLower.isAlphanum = true := by
  by_cases upper : c.isUpper = true
  · simp [Char.isAlphanum, Char.isAlpha, upper]
  · rwa [Char.toLower_eq_of_not_isUpper upper]

theorem isNameStart_toLower (h : isNameStart c = true) : isNameStart c.toLower = true := by
  simp only [isNameStart, Bool.or_eq_true, beq_iff_eq] at h ⊢
  rcases h with rfl | letter
  · exact Or.inl rfl
  · exact Or.inr (by simpa using letter)

/-- A character is known from its lower case and whether it is upper case. -/
theorem eq_of_toLower_eq (letters : c.toLower = d.toLower) (case : c.isUpper = d.isUpper) :
    c = d := by
  by_cases upper : c.isUpper = true
  · have upper' : d.isUpper = true := case ▸ upper
    rw [← Char.toUpper_eq_of_not_isLower (Char.not_isLower_of_isUpper upper),
      ← Char.toUpper_eq_of_not_isLower (Char.not_isLower_of_isUpper upper'),
      ← Char.toUpper_toLower_eq_toUpper c, letters, Char.toUpper_toLower_eq_toUpper]
  · have upper' : ¬ d.isUpper = true := case ▸ upper
    rw [← Char.toLower_eq_of_not_isUpper upper, letters, Char.toLower_eq_of_not_isUpper upper']

theorem eq_of_map_toLower_eq (letters : cs.map Char.toLower = ds.map Char.toLower)
    (case : cs.map Char.isUpper = ds.map Char.isUpper) : cs = ds := by
  induction cs generalizing ds with
  | nil =>
    rw [List.map_nil, eq_comm, List.map_eq_nil_iff] at letters
    exact letters.symm
  | cons c rest ih =>
    cases ds with
    | nil => exact absurd letters (by simp)
    | cons d others =>
      rw [List.map_cons, List.map_cons, List.cons.injEq] at letters case
      rw [eq_of_toLower_eq letters.1 case.1, ih letters.2 case.2]

end TypedQuery.Text
