import TypedQuery.Calendar.Time

/-!
# `DateTime` — local times with their offset from universal time

Two such values are equal when they are the same instant, whatever their offsets. The internet
text form has four digits for the year, and hours and minutes for the offset; a value whose
year, offset hours or offset seconds do not fit has no such text.
-/

set_option autoImplicit false

namespace TypedQuery

/-- An offset from universal time, at most one second short of 26 hours either way. -/
structure Offset where
  seconds : Int
  in_range : -93599 ≤ seconds ∧ seconds ≤ 93599
  deriving DecidableEq

namespace Offset

open Calendar (padded)

/-- The offset of the given parts, which are all of one sign, if there is such an offset. -/
def ofParts? (hours minutes seconds : Int) : Option Offset :=
  if h : (hours.natAbs ≤ 25 ∧ minutes.natAbs < 60 ∧ seconds.natAbs < 60) ∧
      ((0 ≤ hours ∧ 0 ≤ minutes ∧ 0 ≤ seconds) ∨ (hours ≤ 0 ∧ minutes ≤ 0 ∧ seconds ≤ 0)) then
    some ⟨3600 * hours + 60 * minutes + seconds, by omega⟩
  else none

/-- The whole hours of the offset's size. -/
def hours (o : Offset) : Nat := o.seconds.natAbs / 3600

/-- The whole minutes of the offset's size past its hours. -/
def minutes (o : Offset) : Nat := o.seconds.natAbs / 60 % 60

/-- The seconds of the offset's size past its minutes. -/
def secondsPart (o : Offset) : Nat := o.seconds.natAbs % 60

/-- The letter `Z` for no offset, else the sign, the hours and the minutes. -/
def text (o : Offset) : List Char :=
  if o.seconds = 0 then ['Z']
  else (if o.seconds < 0 then '-' else '+') :: padded 2 o.hours ++ ':' :: padded 2 o.minutes

end Offset

/-- A local date and time together with its offset. -/
structure DateTime where
  localTime : LocalDateTime
  offset : Offset
  deriving DecidableEq

namespace DateTime

/-- The components that the internet text form may be unable to hold. -/
inductive Component where
  | year
  | offsetHour
  | offsetSecond
  deriving DecidableEq

/-- The word for a component. -/
def Component.label : Component → String
  | year => "year"
  | offsetHour => "offset_hour"
  | offsetSecond => "offset_second"

/-- The seconds from the first day of year 1, in universal time. -/
def instantSecond (dt : DateTime) : Int :=
  86400 * dt.localTime.date.dayNumber + dt.localTime.time.secondOfDay - dt.offset.seconds

/-- The same instant. -/
def sameInstant (a b : DateTime) : Bool :=
  a.instantSecond == b.instantSecond &&
    a.localTime.time.nanosecond == b.localTime.time.nanosecond

/-- The internet text form, or the first component that does not fit it: a year of four digits,
    at most 23 offset hours, no offset seconds. -/
def internetText (dt : DateTime) : Except Component (List Char) :=
  if dt.localTime.date.year < 0 then .error .year
  else if 23 < dt.offset.hours then .error .offsetHour
  else if dt.offset.secondsPart ≠ 0 then .error .offsetSecond
  else .ok (dt.localTime.text ++ dt.offset.text)

end DateTime

end TypedQuery
