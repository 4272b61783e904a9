/-!
# `CodeRange` — a character class as a list of code-point ranges

A class of characters is given as the ranges of code points it covers. Every table of this
folder is such a list in ascending order, and membership is asked in one way only.
-/

set_option autoImplicit false

namespace TypedQuery.Text

/-- The code points from `first` to `last`, both included. -/
structure CodeRange where
  first : Nat
  last : Nat

namespace CodeRange

/-- The range covers a character. -/
def contains (r : CodeRange) (c : Char) : Bool :=
  r.first ≤ c.toNat && c.toNat ≤ r.last

theorem contains_iff {r : CodeRange} {c : Char} :
    r.contains c = true ↔ r.first ≤ c.toNat ∧ c.toNat ≤ r.last := by
  simp [contains]

end CodeRange

/-- Some range of the list covers a character. -/
def inRanges (rs : List CodeRange) (c : Char) : Bool :=
  rs.any (·.contains c)

theorem inRanges_iff {rs : List CodeRange} {c : Char} :
    inRanges rs c = true ↔ ∃ r ∈ rs, r.first ≤ c.toNat ∧ c.toNat ≤ r.last := by
  simp [inRanges, CodeRange.contains_iff]

theorem inRanges_append {rs ss : List CodeRange} {c : Char} :
    inRanges (rs ++ ss) c = true ↔ inRanges rs c = true ∨ inRanges ss c = true := by
  simp [inRanges]

/-! ## The ranges of Core's classes -/

variable {c : Char}

theorem toNat_of_between {low high : UInt32} (between : low ≤ c.val ∧ c.val ≤ high) :
    low.toNat ≤ c.toNat ∧ c.toNat ≤ high.toNat :=
  ⟨UInt32.le_iff_toNat_le.1 between.1, UInt32.le_iff_toNat_le.1 between.2⟩

theorem toNat_of_isDigit (digit : c.isDigit = true) : 48 ≤ c.toNat ∧ c.toNat ≤ 57 :=
  Char.isDigit_iff_toNat.1 digit

theorem toNat_of_isUpper (upper : c.isUpper = true) : 65 ≤ c.toNat ∧ c.toNat ≤ 90 :=
  toNat_of_between (of_decide_eq_true upper)

theorem toNat_of_isLower (lower : c.isLower = true) : 97 ≤ c.toNat ∧ c.toNat ≤ 122 := by
  obtain ⟨above, below⟩ := Bool.and_eq_true_iff.1 lower
  exact toNat_of_between ⟨of_decide_eq_true above, of_decide_eq_true below⟩

theorem toNat_of_isAlpha (letter : c.isAlpha = true) :
    (65 ≤ c.toNat ∧ c.toNat ≤ 90) ∨ (97 ≤ c.toNat ∧ c.toNat ≤ 122) :=
  (Bool.or_eq_true_iff.1 letter).imp toNat_of_isUpper toNat_of_isLower

end TypedQuery.Text
