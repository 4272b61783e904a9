import TypedQuery.Decimal.Shortest

/-!
# `Numeral` — how a decimal is laid out

The digits of a decimal with the point among them, where the exponent of the leading digit is
moderate, and with an exponent of their own elsewhere. A numeral is made of digits, a point, a
sign and the letter `e` only.
-/

set_option autoImplicit false

namespace TypedQuery.Decimal

/-- The digits of the coefficient. -/
def digits (d : Decimal) : List Char := Nat.toDigits 10 d.coefficient

/-- The exponent of the leading digit. -/
def order (d : Decimal) : Int := (d.digits.length : Int) - 1 + d.exponent

/-- The digits with the point among them, and at least one digit on either side of it. `order`
    is the exponent of the leading digit. -/
def plain (digits : List Char) (order : Int) : List Char :=
  if order < 0 then
    '0' :: '.' :: List.replicate (-order - 1).toNat '0' ++ digits
  else if order + 1 < digits.length then
    digits.take (order + 1).toNat ++ '.' :: digits.drop (order + 1).toNat
  else
    digits ++ List.replicate (order + 1 - digits.length).toNat '0' ++ ['.', '0']

/-- The leading digit, the others after a point if there are any, and the exponent with its
    sign. -/
def scientific (digits : List Char) (order : Int) : List Char :=
  (match digits with
    | [] => []
    | [c] => [c]
    | c :: rest => c :: '.' :: rest) ++
  'e' :: (if order < 0 then '-' else '+') :: Nat.toDigits 10 order.natAbs

/-- Exponents of the leading digit from `-5` to `15` are written with the point alone. -/
def isModerate (order : Int) : Bool := -5 ≤ order && order ≤ 15

/-- The numeral of a decimal. -/
def numeral (d : Decimal) : List Char :=
  if isModerate d.order then plain d.digits d.order else scientific d.digits d.order

end TypedQuery.Decimal
