/-!
# `Format` — the fields of a binary floating-point word

A word is a sign, a biased exponent and a fraction. A finite word stands for the number
`significand * 2 ^ scale`; everything here reads those two integers off the word, or finds the
word that is nearest to a given ratio. Nothing computes with machine floats. Powers are written
`Nat.pow`, which means the same term whatever instances of `^` are in scope.
-/

set_option autoImplicit false

namespace TypedQuery.Binary

/-- A binary floating-point format: the widths of the fraction and of the exponent. -/
structure Format where
  fractionBits : Nat
  exponentBits : Nat

/-- The format of 64 bits. -/
def binary64 : Format := ⟨52, 11⟩

/-- The format of 32 bits. -/
def binary32 : Format := ⟨23, 8⟩

namespace Format

/-- The exponent field that marks infinities and NaNs. -/
def topExponent (f : Format) : Nat := Nat.pow 2 f.exponentBits - 1

/-- The scale of the least positive word, as a power of two. -/
def leastScale (f : Format) : Int :=
  2 - (Nat.pow 2 (f.exponentBits - 1) : Int) - (f.fractionBits : Int)

/-! ## The fields of a word -/

/-- The low bits of a word, which follow the leading bit of the significand. -/
def fraction (f : Format) (word : Nat) : Nat := word % Nat.pow 2 f.fractionBits

/-- The biased exponent of a word. -/
def exponent (f : Format) (word : Nat) : Nat :=
  word / Nat.pow 2 f.fractionBits % Nat.pow 2 f.exponentBits

/-- The sign bit of a word is set. -/
def isNegative (f : Format) (word : Nat) : Bool :=
  word / Nat.pow 2 (f.fractionBits + f.exponentBits) % 2 == 1

/-- The word without its sign. -/
def magnitude (f : Format) (word : Nat) : Nat :=
  word % Nat.pow 2 (f.fractionBits + f.exponentBits)

/-- The word stands for a number. -/
def isFinite (f : Format) (word : Nat) : Bool := f.exponent word != f.topExponent

/-- The word stands for no number and for no infinity. -/
def isNaN (f : Format) (word : Nat) : Bool :=
  f.exponent word == f.topExponent && f.fraction word != 0

/-- The integer that a finite word scales. Words of exponent zero have no leading bit of their
    own. -/
def significand (f : Format) (word : Nat) : Nat :=
  if f.exponent word = 0 then f.fraction word
  else Nat.pow 2 f.fractionBits + f.fraction word

/-- The power of two by which a finite word scales its significand. -/
def scale (f : Format) (word : Nat) : Int :=
  f.leastScale + ((f.exponent word - 1 : Nat) : Int)

/-- The neighbour below is half as far away as the neighbour above: the word opens a new power
    of two. -/
def isNarrowBelow (f : Format) (word : Nat) : Bool :=
  f.fraction word == 0 && 1 < f.exponent word

end Format

/-! ## The nearest word -/

/-- A quotient rounded to the nearest integer, a half going to the even neighbour. -/
def roundHalfEven (num den : Nat) : Nat :=
  let q := num / den
  let r := num % den
  if 2 * r < den then q
  else if den < 2 * r then q + 1
  else if q % 2 = 0 then q else q + 1

/-- The binary order of a positive ratio: the exponent of the greatest power of two that is at
    most `num / den`. -/
def binaryOrder (num den : Nat) : Int :=
  let e : Int := (num.log2 : Int) - (den.log2 : Int)
  if num * Nat.pow 2 (-e).toNat < den * Nat.pow 2 e.toNat then e - 1 else e

/-- The non-negative word nearest to `num / den`, a half going to the even significand. The
    significand is rounded at the scale at which it has its full width, or at the least scale,
    and the sum of scale and significand carries into the exponent by itself. What lies beyond
    the greatest finite word is infinite. -/
def Format.nearest (f : Format) (num den : Nat) : Nat :=
  if num = 0 then 0
  else
    let q := max (binaryOrder num den - f.fractionBits) f.leastScale
    let m := roundHalfEven (num * Nat.pow 2 (-q).toNat) (den * Nat.pow 2 q.toNat)
    min ((q - f.leastScale).toNat * Nat.pow 2 f.fractionBits + m)
      (f.topExponent * Nat.pow 2 f.fractionBits)

end TypedQuery.Binary
