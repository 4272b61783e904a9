import TypedQuery.Calendar.DateTime
import TypedQuery.Entries
import TypedQuery.Json.Number

/-!
# `Value` — the parameter values of a field

A value is a scalar of one of several kinds, a list of values, or an input object. The kinds of
numbers are kept apart: a value written as a signed integer is never equal to one written as an
unsigned integer.
-/

set_option autoImplicit false

namespace TypedQuery

/-- A signed integer of 128 bits. -/
structure Int128 where
  val : Int
  in_range :
    -0x80000000000000000000000000000000 ≤ val ∧ val < 0x80000000000000000000000000000000
  deriving DecidableEq

/-- The integer as one of 128 bits, if it fits. -/
def Int128.ofInt? (n : Int) : Option Int128 :=
  if h : -0x80000000000000000000000000000000 ≤ n ∧ n < 0x80000000000000000000000000000000 then
    some ⟨n, h⟩
  else none

/-- An unsigned integer of 128 bits. -/
structure UInt128 where
  val : Nat
  lt_size : val < 0x100000000000000000000000000000000
  deriving DecidableEq

/-- The natural number as one of 128 bits, if it fits. -/
def UInt128.ofNat? (n : Nat) : Option UInt128 :=
  if h : n < 0x100000000000000000000000000000000 then some ⟨n, h⟩ else none

/-- A parameter value. The entries of an object stand in insertion order under distinct keys. -/
inductive Value where
  | null
  | bool (b : Bool)
  | int (n : Int64)
  | uint (n : UInt64)
  | int128 (n : Int128)
  | uint128 (n : UInt128)
  | float (x : Binary64)
  | number (n : JsonNumber)
  | text (s : String)
  | enum (name : String)
  | date (d : Date)
  | time (t : Time)
  | localDateTime (dt : LocalDateTime)
  | dateTime (dt : DateTime)
  | list (items : List Value)
  | object (entries : List (String × Value))

namespace Value

/-- The object of the given entries, inserted one after the other: a repeated key keeps its
    first place and its last value. -/
def ofEntries (entries : List (String × Value)) : Value :=
  .object (entries.foldl (fun present e => Entries.put e.1 e.2 present) [])

/-- The value of an optional one. -/
def ofOption : Option Value → Value
  | none => .null
  | some v => v

/-- The value is null, which an absent optional value is too. -/
def isNull : Value → Bool
  | .null => true
  | _ => false

/-! ## Equality -/

mutual

/-- Equality of values: of one kind only; floats by their value, so that a NaN is not equal to
    itself; date-times as instants; objects as sets of entries, whatever their order. -/
def equals : Value → Value → Bool
  | .null, .null => true
  | .bool a, .bool b => a == b
  | .int a, .int b => a == b
  | .uint a, .uint b => a == b
  | .int128 a, .int128 b => a == b
  | .uint128 a, .uint128 b => a == b
  | .float a, .float b => a.equals b
  | .number a, .number b => a.equals b
  | .text a, .text b => a == b
  | .enum a, .enum b => a == b
  | .date a, .date b => a == b
  | .time a, .time b => a == b
  | .localDateTime a, .localDateTime b => a == b
  | .dateTime a, .dateTime b => a.sameInstant b
  | .list a, .list b => equalItems a b
  | .object a, .object b => a.length == b.length && matchEntries a b
  | _, _ => false

/-- Item by item, of equally many. -/
def equalItems : List Value → List Value → Bool
  | [], [] => true
  | a :: as, b :: bs => equals a b && equalItems as bs
  | _, _ => false

/-- Every entry of the first list has an equal value under its key in the second. -/
def matchEntries : List (String × Value) → List (String × Value) → Bool
  | [], _ => true
  | (key, a) :: rest, bs =>
    (match bs.lookup key with
      | some b => equals a b
      | none => false) && matchEntries rest bs

end

end Value

end TypedQuery
