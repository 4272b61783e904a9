import TypedQuery.Binary.Format

/-!
# `shortest` — the fewest decimal digits that read back

Every number nearer to a binary word than to its neighbours reads back as that word. Among the
decimals in this interval the shortest are those on the coarsest grid of powers of ten that
meets it, and of two on that grid the nearer is taken. The search tests, grid by grid, the two
grid points next to the word's own value, in exact integer arithmetic.
-/

set_option autoImplicit false

namespace TypedQuery

/-- The number `coefficient * 10 ^ exponent`. -/
structure Decimal where
  coefficient : Nat
  exponent : Int
  deriving DecidableEq

namespace Decimal

/-- Which of two equally near decimals is taken. -/
inductive Tie where
  /-- The one with the even last digit. -/
  | even
  /-- The greater one. -/
  | up

/-- The decimal as a quotient of naturals. -/
def ratio (d : Decimal) : Nat × Nat :=
  (d.coefficient * Nat.pow 10 d.exponent.toNat, Nat.pow 10 (-d.exponent).toNat)

/-- Drops the trailing zeros of the coefficient, at most `fuel` of them. -/
def stripZeros : Nat → Decimal → Decimal
  | 0, d => d
  | fuel + 1, d =>
    if d.coefficient != 0 && d.coefficient % 10 == 0 then
      stripZeros fuel ⟨d.coefficient / 10, d.exponent + 1⟩
    else d

/-- The reals that read back as one positive word, in units of a quarter of the word's scale:
    the word's value and the two ends, which belong to the interval exactly when the
    significand is even. -/
structure Interval where
  low : Nat
  value : Nat
  high : Nat
  closed : Bool
  /-- The unit, as a power of two. -/
  unit : Int

/-- The interval of a finite positive word: halfway to the neighbour on either side. -/
def Interval.ofWord (f : Binary.Format) (word : Nat) : Interval :=
  let m := f.significand word
  { low := 4 * m - (if f.isNarrowBelow word then 1 else 2)
    value := 4 * m
    high := 4 * m + 2
    closed := m % 2 == 0
    unit := f.scale word - 2 }

namespace Interval

/-- `n` units and the decimal, brought to one denominator. -/
def commonTerms (i : Interval) (n : Nat) (d : Decimal) : Nat × Nat :=
  (n * Nat.pow 2 i.unit.toNat * Nat.pow 10 (-d.exponent).toNat,
   d.coefficient * Nat.pow 10 d.exponent.toNat * Nat.pow 2 (-i.unit).toNat)

/-- The decimal lies in the interval. -/
def contains (i : Interval) (d : Decimal) : Bool :=
  let (low, fromLow) := i.commonTerms i.low d
  let (high, fromHigh) := i.commonTerms i.high d
  (low < fromLow && fromHigh < high) || (i.closed && low ≤ fromLow && fromHigh ≤ high)

/-- The word's value as a quotient of naturals. -/
def ratio (i : Interval) : Nat × Nat :=
  (i.value * Nat.pow 2 i.unit.toNat, Nat.pow 2 (-i.unit).toNat)

/-- The decimal order of the value: the exponent of its leading digit. -/
def order (i : Interval) : Int :=
  let (num, den) := i.ratio
  if den ≤ num then ((Nat.toDigits 10 (num / den)).length : Int) - 1
  else -((Nat.toDigits 10 ((den - 1) / num)).length : Int)

/-- The greatest multiple of `10 ^ exponent` that is at most the value. -/
def floorAt (i : Interval) (exponent : Int) : Nat :=
  let (num, den) := i.ratio
  num * Nat.pow 10 (-exponent).toNat / (den * Nat.pow 10 exponent.toNat)

/-- Of the two grid points next to the value, `n` and `n + 1` on the grid of `10 ^ exponent`,
    the nearer one. -/
def nearer (i : Interval) (tie : Tie) (n : Nat) (exponent : Int) : Nat :=
  let (num, den) := i.ratio
  let twice := 2 * num * Nat.pow 10 (-exponent).toNat
  let middle := (2 * n + 1) * den * Nat.pow 10 exponent.toNat
  if twice < middle then n
  else if middle < twice then n + 1
  else match tie with
    | .even => if n % 2 = 0 then n else n + 1
    | .up => n + 1

/-- The decimal taken from one grid, if the grid meets the interval. -/
def onGrid (i : Interval) (tie : Tie) (exponent : Int) : Option Decimal :=
  let n := i.floorAt exponent
  match i.contains ⟨n, exponent⟩, i.contains ⟨n + 1, exponent⟩ with
  | true, true => some ⟨i.nearer tie n exponent, exponent⟩
  | true, false => some ⟨n, exponent⟩
  | false, true => some ⟨n + 1, exponent⟩
  | false, false => none

/-- Tries the grids of `exponent`, `exponent - 1` and so on, `count` of them. -/
def search (i : Interval) (tie : Tie) : Nat → Int → Option Decimal
  | 0, _ => none
  | count + 1, exponent =>
    match i.onGrid tie exponent with
    | some d => some d
    | none => i.search tie count (exponent - 1)

/-- The value itself as a decimal, which always exists: a negative power of two is a power of
    five over a power of ten. -/
def exact (i : Interval) : Decimal :=
  ⟨i.value * Nat.pow 2 i.unit.toNat * Nat.pow 5 (-i.unit).toNat, min i.unit 0⟩

/-- The shortest decimal in the interval and of those the nearest to the value. Twenty grids
    are more than a word of 64 bits ever needs; past them the exact value stands in. -/
def shortest (i : Interval) (tie : Tie) : Decimal :=
  let d := (i.search tie 20 i.order).getD i.exact
  d.stripZeros (Nat.toDigits 10 d.coefficient).length

end Interval

/-- The shortest decimal that reads back as a finite positive word. -/
def ofWord (f : Binary.Format) (tie : Tie) (word : Nat) : Decimal :=
  (Interval.ofWord f word).shortest tie

end Decimal

end TypedQuery
