import TypedQuery.Entries
import TypedQuery.Shape.TypeKey

/-!
# `Registry` — the types that are never expanded

A registry starts with the builtin scalar types and only grows. A type that is registered is
marked custom; registering a type that is present changes nothing, its kind included.
-/

set_option autoImplicit false

namespace TypedQuery

/-- The coarse family of a registered type. -/
inductive ScalarKind where
  | bool
  | custom
  | date
  | dateTime
  | decimal
  | float
  | int
  | text
  | time
  | uint
  deriving DecidableEq

/-- The builtin scalar types. -/
inductive Builtin where
  | int8 | int16 | int32 | int64 | int128 | intSize
  | uint8 | uint16 | uint32 | uint64 | uint128 | uintSize
  | float32 | float64
  | number
  | string | stringSlice | char
  | bool
  | date | time | localDateTime | dateTime
  deriving DecidableEq

namespace Builtin

/-- The builtin types, in the order in which a registry is seeded. -/
def all : List Builtin :=
  [int8, int16, int32, int64, int128, intSize, uint8, uint16, uint32, uint64, uint128, uintSize,
    float32, float64, number, string, stringSlice, char, bool, date, time, localDateTime, dateTime]

/-- The name under which a builtin type is declared. -/
def name : Builtin → String
  | int8 => "i8"
  | int16 => "i16"
  | int32 => "i32"
  | int64 => "i64"
  | int128 => "i128"
  | intSize => "isize"
  | uint8 => "u8"
  | uint16 => "u16"
  | uint32 => "u32"
  | uint64 => "u64"
  | uint128 => "u128"
  | uintSize => "usize"
  | float32 => "f32"
  | float64 => "f64"
  | number => "Number"
  | string => "String"
  | stringSlice => "&str"
  | char => "char"
  | bool => "bool"
  | date => "Date"
  | time => "Time"
  | localDateTime => "PlainDateTime"
  | dateTime => "OffsetDateTime"

/-- The family of a builtin type. -/
def kind : Builtin → ScalarKind
  | int8 | int16 | int32 | int64 | int128 | intSize => .int
  | uint8 | uint16 | uint32 | uint64 | uint128 | uintSize => .uint
  | float32 | float64 => .float
  | number => .decimal
  | string | stringSlice | char => .text
  | bool => .bool
  | date => .date
  | time => .time
  | localDateTime | dateTime => .dateTime

/-- The key of a builtin type: its place among the builtin types. -/
def key (b : Builtin) : TypeKey := ⟨b.ctorIdx, b.name⟩

/-- How many builtin types there are; keys from here on are free for other types. -/
def count : Nat := 23

theorem length_all : all.length = count := rfl

theorem mem_all (b : Builtin) : b ∈ all := by cases b <;> decide

end Builtin

/-- A registry: the types that are never expanded, with their kinds. -/
structure Registry where
  entries : List (TypeKey × ScalarKind)

namespace Registry

/-- The registry of the builtin types alone. -/
def builtin : Registry := ⟨Builtin.all.map fun b => (b.key, b.kind)⟩

instance : Inhabited Registry := ⟨builtin⟩

/-- The kind of a registered type. -/
def kindOf (r : Registry) (key : TypeKey) : Option ScalarKind := r.entries.lookup key

/-- The type is registered. -/
def contains (r : Registry) (key : TypeKey) : Bool := (r.kindOf key).isSome

/-- Registers a type; a present type keeps its kind. -/
def register (r : Registry) (key : TypeKey) : Registry :=
  if r.contains key then r else ⟨r.entries ++ [(key, .custom)]⟩

/-- Registers types one after the other. -/
def registerAll (r : Registry) (keys : List TypeKey) : Registry := keys.foldl register r

/-- How many types are registered. -/
def size (r : Registry) : Nat := r.entries.length

/-- Nothing is registered. -/
def isEmpty (r : Registry) : Bool := r.size == 0

/-- A registration gives the type a kind, unless it has one, and no other type. -/
theorem kindOf_register (r : Registry) (key other : TypeKey) :
    (r.register key).kindOf other =
      (r.kindOf other).or (if other == key then some .custom else none) := by
  by_cases hk : r.contains key = true
  · rw [register, if_pos hk]
    cases h : other == key with
    | false => simp
    | true =>
      have found : (r.kindOf other).isSome := by
        rw [kindOf, Entries.lookup_congr h]
        exact hk
      obtain ⟨kind, hkind⟩ := Option.isSome_iff_exists.1 found
      simp [hkind]
  · rw [register, if_neg hk, kindOf, List.lookup_append, ← kindOf]
    cases h : other == key <;> simp [List.lookup_cons, h]

/-- After a registration exactly the type and those registered before are registered. -/
theorem contains_register (r : Registry) (key other : TypeKey) :
    (r.register key).contains other = (r.contains other || other == key) := by
  rw [contains, kindOf_register, contains]
  cases r.kindOf other <;> cases other == key <;> rfl

/-- After registrations exactly the types named and those registered before are registered. -/
theorem contains_registerAll (r : Registry) (keys : List TypeKey) (other : TypeKey) :
    (r.registerAll keys).contains other = (r.contains other || keys.any (other == ·)) := by
  unfold registerAll
  induction keys generalizing r with
  | nil => simp
  | cons key rest ih => rw [List.foldl_cons, ih, contains_register, List.any_cons, Bool.or_assoc]

end Registry

end TypedQuery
