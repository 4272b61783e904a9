/-!
# `isName` — the names of fields, arguments and enum values

A name is an ASCII letter or underscore followed by ASCII letters, digits and underscores.
-/

set_option autoImplicit false

namespace TypedQuery.Text

/-- May open a name. -/
def isNameStart (c : Char) : Bool := c == '_' || c.isAlpha

/-- May continue a name. -/
def isNameContinue (c : Char) : Bool := c == '_' || c.isAlphanum

/-- The text is one name. -/
def isName : List Char → Bool
  | [] => false
  | c :: rest => isNameStart c && rest.all isNameContinue

theorem isNameContinue_of_isNameStart {c : Char} (h : isNameStart c = true) :
    isNameContinue c = true := by
  simp only [isNameStart, Bool.or_eq_true] at h
  rcases h with h | h
  · simp [isNameContinue, h]
  · simp [isNameContinue, Char.isAlphanum, h]

/-- Every character of a name may continue a name. -/
theorem all_isNameContinue_of_isName {cs : List Char} (h : isName cs = true) :
    cs.all isNameContinue = true := by
  cases cs with
  | nil => simp [isName] at h
  | cons c rest =>
    simp only [isName, Bool.and_eq_true] at h
    rw [List.all_cons, isNameContinue_of_isNameStart h.1, h.2]
    rfl

end TypedQuery.Text
