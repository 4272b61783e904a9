import TypedQuery.Binary.Word64

/-!
# `JsonNumber` — the numbers of a JSON document

A number is kept in the narrowest of three forms: a natural number of 64 bits, a negative
integer of 64 bits, or a finite floating-point number.
-/

set_option autoImplicit false

namespace TypedQuery

/-- A number of a JSON document. -/
inductive JsonNumber where
  | natural (n : UInt64)
  | negative (n : Int64) (isNeg : n < 0)
  | float (x : Binary64) (finite : x.isFinite = true)

namespace JsonNumber

/-- The finite float, if it is one. -/
def ofFloat? (x : Binary64) : Option JsonNumber :=
  if h : x.isFinite = true then some (.float x h) else none

/-- Equal forms with equal numbers; floats by their value, so the two zeros are equal. -/
def equals : JsonNumber → JsonNumber → Bool
  | natural m, natural n => m == n
  | negative m _, negative n _ => m == n
  | float x _, float y _ => x.equals y
  | _, _ => false

/-- The numeral of a number. -/
def text : JsonNumber → List Char
  | natural n => Nat.toDigits 10 n.toNat
  | negative n _ => '-' :: Nat.toDigits 10 n.toInt.natAbs
  | float x _ => x.numeral

end JsonNumber

end TypedQuery
