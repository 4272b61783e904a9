import TypedQuery.Calendar.Date

/-!
# `Time`, `LocalDateTime` — times of day, to the nanosecond

The text of a time is hour, minute and second in two digits each and, when the nanoseconds are
not zero, a point and the fraction of the second with its trailing zeros dropped.
-/

set_option autoImplicit false

namespace TypedQuery

/-- A time of day. -/
structure Time where
  hour : Nat
  minute : Nat
  second : Nat
  nanosecond : Nat
  hour_lt : hour < 24
  minute_lt : minute < 60
  second_lt : second < 60
  nanosecond_lt : nanosecond < 1000000000
  deriving DecidableEq

namespace Time

open Calendar (padded)

/-- The time of the given parts, if there is such a time. -/
def ofParts? (hour minute second nanosecond : Nat) : Option Time :=
  if h : hour < 24 ∧ minute < 60 ∧ second < 60 ∧ nanosecond < 1000000000 then
    some ⟨hour, minute, second, nanosecond, h.1, h.2.1, h.2.2.1, h.2.2.2⟩
  else none

/-- Reading back the parts of a time gives the time. -/
theorem ofParts?_parts (t : Time) :
    ofParts? t.hour t.minute t.second t.nanosecond = some t := by
  simp [ofParts?, t.hour_lt, t.minute_lt, t.second_lt, t.nanosecond_lt]

/-- The nine digits of the nanoseconds without their trailing zeros. -/
def fractionDigits (nanosecond : Nat) : List Char :=
  ((padded 9 nanosecond).reverse.dropWhile (· == '0')).reverse

/-- The fraction of the second after its point; nothing when there is none. -/
def fractionText (nanosecond : Nat) : List Char :=
  if nanosecond = 0 then [] else '.' :: fractionDigits nanosecond

/-- Hour, minute and second, joined by colons, and the fraction. -/
def text (t : Time) : List Char :=
  padded 2 t.hour ++ ':' :: padded 2 t.minute ++ ':' :: padded 2 t.second ++
    fractionText t.nanosecond

/-- The whole seconds since midnight. -/
def secondOfDay (t : Time) : Nat := 3600 * t.hour + 60 * t.minute + t.second

end Time

/-- A date with a time of day, of no particular place. -/
structure LocalDateTime where
  date : Date
  time : Time
  deriving DecidableEq

/-- The date, the letter `T` and the time. -/
def LocalDateTime.text (dt : LocalDateTime) : List Char :=
  dt.date.text ++ 'T' :: dt.time.text

end TypedQuery
