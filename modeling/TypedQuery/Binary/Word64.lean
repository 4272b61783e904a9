import TypedQuery.Decimal.Numeral

/-!
# `Binary64` — floating-point numbers as words

A floating-point number is its word of 64 bits. Equality, finiteness, arithmetic and text are
read off the fields of the word, so that statements about them are statements about integers.
-/

set_option autoImplicit false

namespace TypedQuery

/-- A floating-point number of 64 bits, infinities and NaNs included. -/
structure Binary64 where
  word : UInt64
  deriving DecidableEq

namespace Binary64

open Binary (binary64 binary32)

/-- The word as a natural number. -/
def bits (x : Binary64) : Nat := x.word.toNat

/-- Neither an infinity nor a NaN. -/
def isFinite (x : Binary64) : Bool := binary64.isFinite x.bits

/-- Not a number. -/
def isNaN (x : Binary64) : Bool := binary64.isNaN x.bits

/-- Has its sign bit set, as a negative zero has. -/
def isNegative (x : Binary64) : Bool := binary64.isNegative x.bits

/-- The word of the number without its sign. -/
def magnitude (x : Binary64) : Nat := binary64.magnitude x.bits

/-- Equality of numbers: a NaN equals nothing, and the two zeros are equal. -/
def equals (x y : Binary64) : Bool :=
  !x.isNaN && !y.isNaN && (x.word == y.word || (x.magnitude == 0 && y.magnitude == 0))

/-- Puts a sign on a word without one. -/
def signed (negative : Bool) (magnitude : Nat) : Binary64 :=
  ⟨UInt64.ofNat (if negative then Nat.pow 2 63 + magnitude else magnitude)⟩

/-! ## Rounded values -/

/-- The number nearest to `num / den` with a sign put on it. -/
def nearest (negative : Bool) (num den : Nat) : Binary64 :=
  signed negative (binary64.nearest num den)

/-- The number nearest to a decimal. -/
def ofDecimal (negative : Bool) (d : Decimal) : Binary64 :=
  nearest negative d.ratio.1 d.ratio.2

/-- The size of a finite number as a quotient of naturals. -/
def ratio (x : Binary64) : Nat × Nat :=
  let m := binary64.significand x.bits
  let q := binary64.scale x.bits
  (m * Nat.pow 2 q.toNat, Nat.pow 2 (-q).toNat)

/-- The product of the sizes of two finite numbers, rounded once. -/
def times (x y : Binary64) : Binary64 :=
  nearest false (x.ratio.1 * y.ratio.1) (x.ratio.2 * y.ratio.2)

/-- The quotient of the sizes of two finite numbers, rounded once; the second is not zero. -/
def dividedBy (x y : Binary64) : Binary64 :=
  nearest false (x.ratio.1 * y.ratio.2) (x.ratio.2 * y.ratio.1)

/-- The number with its sign turned. -/
def negate (x : Binary64) : Binary64 := signed (!x.isNegative) x.magnitude

/-- Widens a number of 32 bits through its shortest decimal form, a tie between two forms going
    to the greater, so that a short decimal stays short. Infinities and NaNs stay what they
    are. -/
def ofBinary32 (word : UInt32) : Binary64 :=
  let bits := word.toNat
  let negative := binary32.isNegative bits
  if binary32.isFinite bits then
    if binary32.magnitude bits = 0 then signed negative 0
    else ofDecimal negative (Decimal.ofWord binary32 .up (binary32.magnitude bits))
  else if binary32.isNaN bits then ⟨0x7FF8000000000000⟩
  else signed negative 0x7FF0000000000000

/-! ## Text -/

/-- The shortest decimal that reads back as the size of a finite number. -/
def toDecimal (x : Binary64) : Decimal :=
  if x.magnitude = 0 then ⟨0, 0⟩ else Decimal.ofWord binary64 .even x.magnitude

/-- The numeral of a finite number, with a minus sign on negative numbers and on the negative
    zero. -/
def numeral (x : Binary64) : List Char :=
  if x.isNegative then '-' :: x.toDecimal.numeral else x.toDecimal.numeral

end Binary64

end TypedQuery
