import TypedQuery.Json.Cursor
import TypedQuery.Json.Number

/-!
# `Cursor.readNumber` — the numbers of a JSON text

An integer that fits 64 bits is kept exactly. Any other number is a floating-point number made
in two rounded steps: its leading digits, as many as fit 64 bits, become a floating-point number,
and that number is multiplied or divided by a power of ten.
-/

set_option autoImplicit false

namespace TypedQuery.Json

/-- The greatest natural number of 64 bits. -/
def maxNatural : Nat := 0xFFFFFFFFFFFFFFFF

/-- The greatest exponent that is told apart from infinity. -/
def maxExponent : Nat := 0x7FFFFFFF

/-- The value of a decimal digit. -/
def digitValue? (c : Char) : Option Nat :=
  if c.isDigit then some (c.toNat - '0'.toNat) else none

/-- The floating-point number nearest to `10 ^ k`. -/
def powerOfTen (k : Nat) : Binary64 := .nearest false (Nat.pow 10 k) 1

/-- Divides a floating-point number by `10 ^ k`, in steps of at most `10 ^ 308`. -/
def divideByPower (x : Binary64) (k : Nat) : Binary64 :=
  if k ≤ 308 then x.dividedBy (powerOfTen k)
  else if x.magnitude = 0 then x
  else divideByPower (x.dividedBy (powerOfTen 308)) (k - 308)
termination_by k

/-- The floating-point number of digits and an exponent, unless it is too great. -/
def floatOfParts? (digits : Nat) (exponent : Int) : Option Binary64 :=
  let x := Binary64.nearest false digits 1
  if exponent < 0 then some (divideByPower x exponent.natAbs)
  else if exponent ≤ 308 then
    let y := x.times (powerOfTen exponent.toNat)
    if y.isFinite then some y else none
  else if x.magnitude = 0 then some x
  else none

namespace Cursor

/-- Past decimal digits; their number and the cursor. -/
def skipDigits (c : Cursor) : Nat × Cursor :=
  let n := (c.rest.takeWhile Char.isDigit).length
  (n, c.advanceBy n)

/-- Reads further decimal digits into a natural number, as long as it fits 64 bits. The result
    is the number, the digits read, and the cursor; a digit that no longer fits is left. -/
def readDigits (c : Cursor) (value : Nat) : Nat → Nat × Nat × Cursor
  | 0 => (value, 0, c)
  | fuel + 1 =>
    match c.peek.bind digitValue? with
    | none => (value, 0, c)
    | some d =>
      if maxNatural < value * 10 + d then (value, 0, c)
      else
        let (value, count, c) := readDigits c.advance (value * 10 + d) fuel
        (value, count + 1, c)

/-- The next character is a decimal digit. -/
def atDigit (c : Cursor) : Bool := c.peek.any Char.isDigit

/-- The next character is the mark of an exponent. -/
def atExponent (c : Cursor) : Bool := c.peek.any fun x => x == 'e' || x == 'E'

/-- The floating-point number of parts that were read up to the cursor. -/
def finishFloat (c : Cursor) (negative : Bool) (digits : Nat) (exponent : Int) :
    Except ReadError (Binary64 × Cursor) :=
  match floatOfParts? digits exponent with
  | some x => .ok (if negative then x.negate else x, c)
  | none => c.fail 0 .numberOutOfRange

/-- Reads the digits of an exponent, as long as it is told apart from infinity; none when it no
    longer is. The cursor then stands after the digit that was too much. -/
def readExponentDigits (c : Cursor) (value : Nat) : Nat → Option Nat × Cursor
  | 0 => (some value, c)
  | fuel + 1 =>
    match c.peek.bind digitValue? with
    | none => (some value, c)
    | some d =>
      if maxExponent < value * 10 + d then (none, c.advance)
      else readExponentDigits c.advance (value * 10 + d) fuel

/-- Keeps an exponent within 32 bits. -/
def clampExponent (e : Int) : Int := max (-0x80000000) (min e 0x7FFFFFFF)

/-- Reads an exponent from its mark on. -/
def readExponent (c : Cursor) (negative : Bool) (digits : Nat) (exponent : Int) :
    Except ReadError (Binary64 × Cursor) :=
  let c := c.advance
  let below := c.peek == some '-'
  let c := if below || c.peek == some '+' then c.advance else c
  match c.peek with
  | none => c.fail 0 .endInValue
  | some x =>
    match digitValue? x with
    | none => c.fail 1 .invalidNumber
    | some d =>
      match c.advance.readExponentDigits d c.rest.length with
      | (some e, c) =>
        c.finishFloat negative digits
          (clampExponent (if below then exponent - e else exponent + e))
      | (none, c) =>
        if digits ≠ 0 && !below then c.fail 0 .numberOutOfRange
        else .ok (.signed negative 0, c.skipDigits.2)

/-- Reads a fraction from its point on. Digits beyond 64 bits are passed over. -/
def readFraction (c : Cursor) (negative : Bool) (digits : Nat) (exponent : Int) :
    Except ReadError (Binary64 × Cursor) :=
  let c := c.advance
  let (digits, count, c) := c.readDigits digits c.rest.length
  let exponent := exponent - count
  if !c.atDigit && count = 0 then
    match c.peek with
    | some _ => c.fail 1 .invalidNumber
    | none => c.fail 1 .endInValue
  else
    let c := c.skipDigits.2
    if c.atExponent then c.readExponent negative digits exponent
    else c.finishFloat negative digits exponent

/-- What follows the integer part of a floating-point number. -/
def readFloatTail (c : Cursor) (negative : Bool) (digits : Nat) (exponent : Int) :
    Except ReadError (Binary64 × Cursor) :=
  if c.peek == some '.' then c.readFraction negative digits exponent
  else if c.atExponent then c.readExponent negative digits exponent
  else c.finishFloat negative digits exponent

/-- Makes a number of a floating-point number; what was read is always finite. -/
def asNumber (r : Binary64 × Cursor) : Except ReadError (JsonNumber × Cursor) :=
  match JsonNumber.ofFloat? r.1 with
  | some n => .ok (n, r.2)
  | none => r.2.fail 0 .numberOutOfRange

/-- The number of an integer part that fits 64 bits, or what follows it. A negative zero and a
    negative integer beyond 64 bits are floating-point numbers. -/
def finishInteger (c : Cursor) (negative : Bool) (digits : Nat) :
    Except ReadError (JsonNumber × Cursor) :=
  if c.peek == some '.' || c.atExponent then c.readFloatTail negative digits 0 >>= asNumber
  else if !negative then .ok (.natural (UInt64.ofNat digits), c)
  else
    let n := Int64.ofInt (-digits)
    if h : n < 0 then
      if digits ≤ 0x8000000000000000 then .ok (.negative n h, c)
      else asNumber (.nearest true digits 1, c)
    else asNumber (.nearest true digits 1, c)

/-- Reads a number after its minus sign, if it has one. -/
def readUnsigned (c : Cursor) (negative : Bool) : Except ReadError (JsonNumber × Cursor) :=
  match c.peek with
  | none => c.fail 0 .endInValue
  | some x =>
    match digitValue? x with
    | none => c.fail 1 .invalidNumber
    | some 0 =>
      if c.advance.atDigit then c.advance.fail 1 .invalidNumber
      else c.advance.finishInteger negative 0
    | some d =>
      let (digits, _, c) := c.advance.readDigits d c.rest.length
      if c.atDigit then
        let (dropped, c) := c.skipDigits
        c.readFloatTail negative digits dropped >>= asNumber
      else c.finishInteger negative digits

/-- Reads a number. -/
def readNumber (c : Cursor) : Except ReadError (JsonNumber × Cursor) :=
  if c.peek == some '-' then c.advance.readUnsigned true else c.readUnsigned false

end Cursor

/-- The number of a text that is one number, white space around it allowed. -/
def numberOfText? (text : String) : Option JsonNumber :=
  match (Cursor.start text.toList).skipBlank.readNumber with
  | .ok (n, c) => if c.skipBlank.rest.isEmpty then some n else none
  | .error _ => none

end TypedQuery.Json
