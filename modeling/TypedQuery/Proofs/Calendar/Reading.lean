import Mathlib.Data.List.DropRight
import TypedQuery.Calendar.DateTime
import TypedQuery.Proofs.Literal.Numbers
import TypedQuery.Proofs.Text.Reading

/-!
# `Date.read`, `Time.read`, `Offset.read` — dates and times are read back

The readers know the shape of the texts only: so many digits here, a mark there. The components they
read are put together by `ofParts?`, which checks them against the calendar.

Most of a text has fixed width, and then it does not matter what follows. The fraction of a second is as
long as it has to be: its trailing zeros are dropped, and how many there were is seen from the number of
digits that are left (`ofDigitChars_fractionDigits`). So behind a time no digit and no point may follow.
-/

set_option autoImplicit false

namespace TypedQuery

namespace Calendar

theorem length_padded (width n : Nat) (positive : 0 < width) (fits : n < Nat.pow 10 width) :
    (padded width n).length = width := by
  have short := (Nat.length_toDigits_le_iff (by decide) positive).2 fits
  rw [padded, List.length_append, List.length_replicate]
  omega

theorem isDigit_of_mem_padded {width n : Nat} {c : Char} (mem : c ∈ padded width n) : c.isDigit = true := by
  rcases List.mem_append.1 mem with zero | digit
  · rw [List.eq_of_mem_replicate zero]
    decide
  · exact isDigit_of_mem_digits digit

theorem head?_padded_append_ne (width n : Nat) (rest : List Char) {mark : Char}
    (noDigit : mark.isDigit = false) : (padded width n ++ rest).head? ≠ some mark := by
  have nonempty : padded width n ≠ [] := by simp [padded, Nat.toDigits_ne_nil]
  rw [List.head?_append_of_ne_nil _ nonempty]
  intro head
  have digit := isDigit_of_mem_padded (List.mem_of_mem_head? head)
  rw [noDigit] at digit
  exact absurd digit Bool.false_ne_true

theorem ofDigitChars_padded (width n : Nat) : Nat.ofDigitChars 10 (padded width n) 0 = n := by
  rw [padded, Nat.ofDigitChars_append, Nat.ofDigitChars_replicate_zero, Nat.mul_zero,
    Nat.ofDigitChars_ten_toDigits]

/-- Reads a number of exactly so many digits. -/
def readDigits (width : Nat) : Reader Nat := fun cs =>
  if (cs.take width).length = width ∧ (cs.take width).all Char.isDigit then
    some (Nat.ofDigitChars 10 (cs.take width) 0, cs.drop width)
  else none

theorem readDigits_padded (width n : Nat) (positive : 0 < width) (fits : n < Nat.pow 10 width)
    (rest : List Char) : readDigits width (padded width n ++ rest) = some (n, rest) := by
  have length := length_padded width n positive fits
  have digits : (padded width n).all Char.isDigit = true :=
    List.all_eq_true.2 fun c => isDigit_of_mem_padded
  unfold readDigits
  rw [List.take_left' length, List.drop_left' length, if_pos ⟨length, digits⟩, ofDigitChars_padded]

theorem monthDays_le (year : Int) (month : Nat) : monthDays year month ≤ 31 := by
  unfold monthDays
  split
  · split <;> omega
  all_goals omega

end Calendar

open Calendar Reader

/-! ## Dates -/

namespace Date

/-- Reads a year: four digits, and a minus sign before them if it is negative. -/
def readYear : Reader Int := fun cs =>
  if cs.head? = some '-' then (readDigits 4 cs.tail).map fun r => (-(r.1 : Int), r.2)
  else (readDigits 4 cs).map fun r => ((r.1 : Int), r.2)

theorem readYear_yearText {year : Int} (range : -9999 ≤ year ∧ year ≤ 9999) (rest : List Char) :
    readYear (yearText year ++ rest) = some (year, rest) := by
  have size : year.natAbs < 10000 := by omega
  have digits := readDigits_padded 4 year.natAbs (by decide) size rest
  unfold yearText
  split
  · rw [readYear, List.cons_append, List.head?_cons, if_pos rfl, List.tail_cons, digits]
    simp only [Option.map_some, Option.some.injEq, Prod.mk.injEq, and_true]
    omega
  · have unsigned : (padded 4 year.natAbs ++ rest).head? ≠ some '-' :=
      head?_padded_append_ne 4 _ rest rfl
    rw [readYear, if_neg unsigned, digits]
    simp only [Option.map_some, Option.some.injEq, Prod.mk.injEq, and_true]
    omega

/-- Reads a date. -/
def read : Reader Date := fun cs => do
  let year ← readYear cs
  let cs ← expect '-' year.2
  let month ← readDigits 2 cs
  let cs ← expect '-' month.2
  let day ← readDigits 2 cs
  let date ← ofParts? year.1 month.1 day.1
  some (date, day.2)

theorem read_text (d : Date) (rest : List Char) : read (d.text ++ rest) = some (d, rest) := by
  have monthSize : d.month < 100 := Nat.lt_of_le_of_lt d.month_range.2 (by decide)
  have daySize : d.day < 100 :=
    Nat.lt_of_le_of_lt (Nat.le_trans d.day_range.2 (monthDays_le d.year d.month)) (by decide)
  have year := readYear_yearText d.year_range
  have month := readDigits_padded 2 d.month (by decide) monthSize
  have day := readDigits_padded 2 d.day (by decide) daySize
  simp [read, text, year, month, day, expect_cons, ofParts?_parts]

end Date

/-! ## Times -/

namespace Time

theorem isDigit_of_mem_fractionDigits {n : Nat} {c : Char} (mem : c ∈ fractionDigits n) :
    c.isDigit = true :=
  isDigit_of_mem_padded ((List.rdropWhile_prefix _ (padded 9 n)).subset mem)

theorem exists_zeros {n : Nat} (lt : n < 1000000000) :
    (fractionDigits n).length ≤ 9 ∧
      padded 9 n = fractionDigits n ++ List.replicate (9 - (fractionDigits n).length) '0' := by
  -- what was dropped are zeros, as many as are missing to nine digits
  have whole : fractionDigits n ++ (padded 9 n).rtakeWhile (· == '0') = padded 9 n :=
    List.rdropWhile_append_rtakeWhile
  have zeros : (padded 9 n).rtakeWhile (· == '0') =
      List.replicate ((padded 9 n).rtakeWhile (· == '0')).length '0' := by
    refine List.eq_replicate_of_mem ?_
    intro c mem
    have zero : (c == '0') = true := List.mem_rtakeWhile_imp (p := (· == '0')) mem
    exact eq_of_beq zero
  have length := length_padded 9 n (by decide) (by omega)
  rw [← whole, List.length_append] at length
  refine ⟨by omega, ?_⟩
  rw [← Nat.eq_sub_of_add_eq' length, ← zeros, whole]

theorem ofDigitChars_fractionDigits {n : Nat} (lt : n < 1000000000) :
    Nat.ofDigitChars 10 (fractionDigits n) 0 * Nat.pow 10 (9 - (fractionDigits n).length) = n := by
  have value := ofDigitChars_padded 9 n
  rw [(exists_zeros lt).2, Nat.ofDigitChars_append, Nat.ofDigitChars_replicate_zero] at value
  rw [Nat.mul_comm]
  exact value

theorem fractionDigits_ne_nil {n : Nat} (some : n ≠ 0) (lt : n < 1000000000) :
    fractionDigits n ≠ [] := by
  intro none
  have value := ofDigitChars_fractionDigits lt
  rw [none] at value
  simp [Nat.ofDigitChars] at value
  exact some value.symm

theorem getLast?_fractionDigits (n : Nat) : (fractionDigits n).getLast? ≠ some '0' := by
  intro zero
  obtain ⟨nonempty, last⟩ := List.mem_getLast?_eq_getLast zero
  exact List.rdropWhile_last_not (· == '0') (padded 9 n) nonempty (by rw [beq_iff_eq]; exact last.symm)

/-- Reads the fraction of a second: a point and up to nine digits, or nothing. -/
def readFraction : Reader Nat := fun cs =>
  if cs.head? = some '.' then
    let digits := cs.tail.takeWhile Char.isDigit
    if digits ≠ [] ∧ digits.length ≤ 9 then
      some (Nat.ofDigitChars 10 digits 0 * Nat.pow 10 (9 - digits.length),
        cs.tail.dropWhile Char.isDigit)
    else none
  else some (0, cs)

/-- What may follow a time: the end of a quotation, or an offset. -/
def ends : List Char := ['"', 'Z', '+', '-']

theorem reads_fractionText {n : Nat} (lt : n < 1000000000) :
    readFraction.Reads ends (fractionText n) n := by
  intro rest follows
  by_cases none : n = 0
  · have unmarked : rest.head? ≠ some '.' := follows.head?_ne (by decide)
    rw [fractionText, if_pos none, List.nil_append, readFraction, if_neg unmarked, none]
  · have digits : ∀ c ∈ fractionDigits n, c.isDigit = true :=
      fun c => isDigit_of_mem_fractionDigits
    have stops : ∀ c ∈ rest.head?, c.isDigit = false := follows.stops (by decide)
    rw [fractionText, if_neg none, List.cons_append, readFraction, List.head?_cons, if_pos rfl,
      List.tail_cons]
    simp only [takeWhile_run digits stops, dropWhile_run digits stops]
    rw [if_pos ⟨fractionDigits_ne_nil none lt, (exists_zeros lt).1⟩, ofDigitChars_fractionDigits lt]

/-- Reads a time of day. -/
def read : Reader Time := fun cs => do
  let hour ← readDigits 2 cs
  let cs ← expect ':' hour.2
  let minute ← readDigits 2 cs
  let cs ← expect ':' minute.2
  let second ← readDigits 2 cs
  let nanosecond ← readFraction second.2
  let time ← ofParts? hour.1 minute.1 second.1 nanosecond.1
  some (time, nanosecond.2)

theorem reads_text (t : Time) : read.Reads ends t.text t := by
  intro rest follows
  have hour := readDigits_padded 2 t.hour (by decide) (Nat.lt_trans t.hour_lt (by decide))
  have minute := readDigits_padded 2 t.minute (by decide) (Nat.lt_trans t.minute_lt (by decide))
  have second := readDigits_padded 2 t.second (by decide) (Nat.lt_trans t.second_lt (by decide))
  have fraction := reads_fractionText t.nanosecond_lt rest follows
  simp [read, text, hour, minute, second, fraction, expect_cons, ofParts?_parts]

end Time

/-- Reads a date, the letter `T` and a time. -/
def LocalDateTime.read : Reader LocalDateTime := fun cs => do
  let date ← Date.read cs
  let cs ← expect 'T' date.2
  let time ← Time.read cs
  some (⟨date.1, time.1⟩, time.2)

theorem LocalDateTime.reads_text (dt : LocalDateTime) :
    LocalDateTime.read.Reads Time.ends dt.text dt := by
  intro rest follows
  have time := dt.time.reads_text rest follows
  simp [read, text, Date.read_text, time, expect_cons]

/-! ## Offsets -/

namespace Offset

/-- Reads the sign of an offset. -/
def readSign : Reader Int := fun cs =>
  if cs.head? = some '-' then some (-1, cs.tail)
  else if cs.head? = some '+' then some (1, cs.tail)
  else none

/-- Reads an offset: the letter `Z`, or a sign, hours and minutes, both of which it belongs to. -/
def read : Reader Offset := fun cs =>
  if cs.head? = some 'Z' then some (⟨0, by decide⟩, cs.tail)
  else do
    let sign ← readSign cs
    let hours ← readDigits 2 sign.2
    let cs ← expect ':' hours.2
    let minutes ← readDigits 2 cs
    let offset ← ofParts? (sign.1 * hours.1) (sign.1 * minutes.1) 0
    some (offset, minutes.2)

theorem ofParts?_of_whole {o : Offset} (short : o.hours ≤ 23) (whole : o.secondsPart = 0)
    {sign : Int} (signed : (sign = 1 ∧ 0 ≤ o.seconds) ∨ (sign = -1 ∧ o.seconds < 0)) :
    ofParts? (sign * o.hours) (sign * o.minutes) 0 = some o := by
  have size : o.seconds.natAbs = 3600 * o.hours + 60 * o.minutes := by
    unfold secondsPart at whole
    unfold hours minutes
    omega
  have minutes : o.minutes < 60 := Nat.mod_lt _ (by decide)
  have seconds : 3600 * (sign * o.hours) + 60 * (sign * o.minutes) + 0 = o.seconds := by
    rcases signed with ⟨rfl, positive⟩ | ⟨rfl, negative⟩ <;> omega
  unfold ofParts?
  rw [dif_pos (by rcases signed with ⟨rfl, -⟩ | ⟨rfl, -⟩ <;> omega)]
  show some (⟨_, _⟩ : Offset) = some ⟨o.seconds, o.in_range⟩
  rw [Option.some.injEq, Offset.mk.injEq]
  exact seconds

theorem readSign_sign (o : Offset) (rest : List Char) :
    ∃ sign, ((sign = 1 ∧ 0 ≤ o.seconds) ∨ (sign = -1 ∧ o.seconds < 0)) ∧
      readSign ((if o.seconds < 0 then '-' else '+') :: rest) = some (sign, rest) := by
  by_cases negative : o.seconds < 0
  · exact ⟨-1, Or.inr ⟨rfl, negative⟩, by simp [readSign, negative]⟩
  · exact ⟨1, Or.inl ⟨rfl, Int.not_lt.1 negative⟩, by simp [readSign, negative]⟩

theorem read_text {o : Offset} (short : o.hours ≤ 23) (whole : o.secondsPart = 0)
    (rest : List Char) : read (o.text ++ rest) = some (o, rest) := by
  by_cases none : o.seconds = 0
  · obtain ⟨seconds, range⟩ := o
    obtain rfl : seconds = 0 := none
    rfl
  · have hourSize : o.hours < 100 := Nat.lt_of_le_of_lt short (by decide)
    have minuteSize : o.minutes < 100 := Nat.lt_trans (Nat.mod_lt _ (by decide)) (by decide)
    have hour := readDigits_padded 2 o.hours (by decide) hourSize
    have minute := readDigits_padded 2 o.minutes (by decide) minuteSize
    -- the sign is written once, and belongs to the minutes also where there are no hours
    obtain ⟨sign, signed, reads⟩ := readSign_sign o
      (padded 2 o.hours ++ ':' :: (padded 2 o.minutes ++ rest))
    have offset := ofParts?_of_whole short whole signed
    have letter : (if o.seconds < 0 then '-' else '+') ≠ 'Z' := by split <;> decide
    simp [read, text, none, letter, reads, hour, minute, offset, expect_cons]

end Offset

/-- Reads a date, the letter `T`, a time and an offset. -/
def DateTime.read : Reader DateTime := fun cs => do
  let localTime ← LocalDateTime.read cs
  let offset ← Offset.read localTime.2
  some (⟨localTime.1, offset.1⟩, offset.2)

theorem Offset.follows_text (o : Offset) (rest : List Char) :
    Follows Time.ends (o.text ++ rest) := by
  unfold text
  split
  · exact follows_cons (by decide) rest
  · rw [List.cons_append]
    exact follows_cons (by split <;> decide) _

theorem DateTime.read_text {dt : DateTime} (short : dt.offset.hours ≤ 23)
    (whole : dt.offset.secondsPart = 0) (rest : List Char) :
    DateTime.read (dt.localTime.text ++ dt.offset.text ++ rest) = some (dt, rest) := by
  have localTime := dt.localTime.reads_text _ (dt.offset.follows_text rest)
  have offset := Offset.read_text short whole rest
  simp [read, localTime, offset]

end TypedQuery
