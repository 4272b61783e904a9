import TypedQuery.Proofs.Calendar.Reading
import TypedQuery.Proofs.Literal.Composition

/-!
# `moments_read_back` — the literals of dates and times are exact

A date, a time or a local time always has a literal, and a date-time has one unless its year or its
offset does not fit the internet form. Between the quotes stands the text that the readers of dates and
times read back. For a date-time that is its local time together with its offset, and not only the
instant that equality of values looks at.

The fraction of a second is the one part that may be missing. It is looked for in the text itself,
behind the first point (`pointDigits?`): in everything that stands around it there is none.
-/

set_option autoImplicit false

namespace TypedQuery

open Reader Outcome

variable {α : Type}

/-- What is read of a text that is one thing between quotes. -/
def Reader.quotation? (read : Reader α) (text : String) : Option α := do
  let cs ← expect '"' text.toList
  let x ← read cs
  let rest ← expect '"' x.2
  if rest.isEmpty then some x.1 else none

theorem Reader.quotation?_inQuotes {read : Reader α} {cs : List Char} {x : α}
    (reads : read (cs ++ ['"']) = some (x, ['"'])) :
    read.quotation? (String.ofList (Value.inQuotes cs)) = some x := by
  have opened : expect '"' (Value.inQuotes cs) = some (cs ++ ['"']) := expect_cons '"' _
  simp [quotation?, opened, reads, expect_cons]

/-- The digits behind the first point of a text, if it has a point. -/
def pointDigits? (cs : List Char) : Option (List Char) :=
  match cs.dropWhile (· != '.') with
  | [] => none
  | _ :: rest => some (rest.takeWhile Char.isDigit)

section Fraction

variable {before after : List Char} {n : Nat}

theorem passed_of_no_point (noPoint : '.' ∉ before) : ∀ c ∈ before, (c != '.') = true := by
  intro c mem
  rw [bne_iff_ne]
  rintro rfl
  exact noPoint mem

theorem pointDigits?_eq_none (noPoint : '.' ∉ before) : pointDigits? before = none := by
  have all : before.dropWhile (· != '.') = [] :=
    List.dropWhile_eq_nil_iff.2 (passed_of_no_point noPoint)
  rw [pointDigits?, all]

theorem pointDigits?_fractionText (noPoint : '.' ∉ before) (noPoint' : '.' ∉ after)
    (stops : ∀ c ∈ after.head?, c.isDigit = false) :
    pointDigits? (before ++ Time.fractionText n ++ after) =
      if n = 0 then none else some (Time.fractionDigits n) := by
  unfold Time.fractionText
  split
  · refine pointDigits?_eq_none ?_
    simp [noPoint, noPoint']
  · have digits : ∀ c ∈ Time.fractionDigits n, c.isDigit = true :=
      fun c => Time.isDigit_of_mem_fractionDigits
    have behind : (before ++ '.' :: Time.fractionDigits n ++ after).dropWhile (· != '.') =
        '.' :: (Time.fractionDigits n ++ after) := by
      rw [List.append_assoc]
      exact dropWhile_run (passed_of_no_point noPoint) (by simp)
    rw [pointDigits?, behind]
    exact congrArg some (takeWhile_run digits stops)

theorem point_not_mem_padded (width n : Nat) : '.' ∉ Calendar.padded width n :=
  fun mem => absurd (Calendar.isDigit_of_mem_padded mem) (by decide)

theorem Date.point_not_mem_text (d : Date) : '.' ∉ d.text := by
  unfold text yearText
  split <;> simp [point_not_mem_padded]

theorem Offset.point_not_mem_text (o : Offset) : '.' ∉ o.text := by
  unfold text
  split
  · decide
  · split <;> simp [point_not_mem_padded]

theorem Time.exists_text (t : Time) :
    ∃ whole, t.text = whole ++ fractionText t.nanosecond ∧ '.' ∉ whole :=
  ⟨_, rfl, by simp [point_not_mem_padded]⟩

end Fraction

namespace Value

/-- The time of day that a value holds. -/
def timeOfDay? : Value → Option Time
  | .time t => some t
  | .localDateTime dt => some dt.time
  | .dateTime dt => some dt.localTime.time
  | _ => none

/-- In a literal that holds a time there is no point but that of the fraction, and no digit behind the
    fraction. -/
theorem exists_around_fraction {v : Value} {t : Time} (held : v.timeOfDay? = some t) :
    ∃ before after, v.spelling = before ++ Time.fractionText t.nanosecond ++ after ∧
      '.' ∉ before ∧ '.' ∉ after ∧ ∀ c ∈ after.head?, c.isDigit = false := by
  obtain ⟨whole, form, noPoint⟩ := t.exists_text
  have quote : ∀ c ∈ ['"'].head?, c.isDigit = false := by simp
  cases v with
  | time t' =>
    obtain rfl : t' = t := Option.some.inj held
    refine ⟨'"' :: whole, ['"'], ?_, by simp [noPoint], by simp, quote⟩
    simp [spelling, leafSpelling, inQuotes, form]
  | localDateTime dt =>
    obtain rfl : dt.time = t := Option.some.inj held
    refine ⟨'"' :: dt.date.text ++ 'T' :: whole, ['"'], ?_, ?_, by simp, quote⟩
    · simp [spelling, leafSpelling, inQuotes, LocalDateTime.text, form]
    · simp [noPoint, dt.date.point_not_mem_text]
  | dateTime dt =>
    obtain rfl : dt.localTime.time = t := Option.some.inj held
    refine ⟨'"' :: dt.localTime.date.text ++ 'T' :: whole, dt.offset.text ++ ['"'], ?_, ?_, ?_, ?_⟩
    · simp [spelling, leafSpelling, inQuotes, LocalDateTime.text, form]
    · simp [noPoint, dt.localTime.date.point_not_mem_text]
    · simp [dt.offset.point_not_mem_text]
    · exact (dt.offset.follows_text ['"']).stops (by decide)
  | _ => simp [timeOfDay?] at held

theorem literal_dateTime_eq_ok_iff {dt : DateTime} {text : String} :
    (dateTime dt).literal = .ok text ↔
      ((0 ≤ dt.localTime.date.year ∧ dt.localTime.date.year ≤ 9999) ∧ dt.offset.hours ≤ 23 ∧
        dt.offset.secondsPart = 0) ∧
      String.ofList (inQuotes (dt.localTime.text ++ dt.offset.text)) = text := by
  have range := dt.localTime.date.year_range
  have right : (dateTime dt).errors = [] ↔
      (0 ≤ dt.localTime.date.year ∧ dt.localTime.date.year ≤ 9999) ∧ dt.offset.hours ≤ 23 ∧
        dt.offset.secondsPart = 0 := by
    simp only [errors, leafError?, DateTime.internetText]
    split_ifs <;> simp <;> omega
  rw [literal_eq_ok_iff, right]
  rfl

/-- **Dates and times are exact in literals.** Dates, times and local times have a literal, a date-time
    exactly unless its year is not one of four digits, its offset has more than 23 hours, or its offset
    has seconds. The literal is read back as the value: all components, and the offset of a date-time
    with the local time it belongs to. Whatever holds a time, there is a fraction in the literal exactly
    if there are nanoseconds, and it does not end in a zero. -/
theorem moments_read_back :
    (∀ d : Date, ∃ text, (date d).literal = .ok text ∧ Date.read.quotation? text = some d) ∧
    (∀ t : Time, ∃ text, (time t).literal = .ok text ∧ Time.read.quotation? text = some t) ∧
    (∀ dt : LocalDateTime, ∃ text, (localDateTime dt).literal = .ok text ∧
      LocalDateTime.read.quotation? text = some dt) ∧
    (∀ dt : DateTime, (∃ e, (dateTime dt).literal = .error e) ↔
      ¬ (0 ≤ dt.localTime.date.year ∧ dt.localTime.date.year ≤ 9999) ∨ 23 < dt.offset.hours ∨
        dt.offset.secondsPart ≠ 0) ∧
    (∀ (dt : DateTime) (text : String), (dateTime dt).literal = .ok text →
      DateTime.read.quotation? text = some dt) ∧
    (∀ (v : Value) (t : Time) (text : String), v.timeOfDay? = some t → v.literal = .ok text →
      (pointDigits? text.toList = none ↔ t.nanosecond = 0) ∧
      ∀ digits, pointDigits? text.toList = some digits →
        digits ≠ [] ∧ digits.getLast? ≠ some '0') := by
  have quote : Follows Time.ends ['"'] := follows_cons (by decide) []
  refine ⟨?_, ?_, ?_, ?_, ?_, ?_⟩
  · intro d
    exact ⟨_, literal_eq_ok_iff.2 ⟨rfl, rfl⟩, quotation?_inQuotes (d.read_text ['"'])⟩
  · intro t
    exact ⟨_, literal_eq_ok_iff.2 ⟨rfl, rfl⟩, quotation?_inQuotes (t.reads_text ['"'] quote)⟩
  · intro dt
    exact ⟨_, literal_eq_ok_iff.2 ⟨rfl, rfl⟩, quotation?_inQuotes (dt.reads_text ['"'] quote)⟩
  · intro dt
    rw [exists_error_iff]
    simp only [literal_dateTime_eq_ok_iff]
    simp
    omega
  · intro dt text encoded
    obtain ⟨⟨-, short, whole⟩, rfl⟩ := literal_dateTime_eq_ok_iff.1 encoded
    exact quotation?_inQuotes (DateTime.read_text short whole ['"'])
  · intro v t text held encoded
    obtain ⟨-, rfl⟩ := literal_eq_ok_iff.1 encoded
    obtain ⟨before, after, spelled, noPoint, noPoint', stops⟩ := exists_around_fraction held
    rw [String.toList_ofList, spelled, pointDigits?_fractionText noPoint noPoint' stops]
    by_cases none : t.nanosecond = 0
    · simp [none]
    · refine ⟨by simp [none], ?_⟩
      intro digits found
      rw [if_neg none] at found
      obtain rfl := Option.some.inj found
      exact ⟨Time.fractionDigits_ne_nil none t.nanosecond_lt, Time.getLast?_fractionDigits _⟩

/-- A day before the year 0. -/
def eve : Date := ⟨-1, 12, 31, by decide, by decide, by decide⟩

/-- Half an hour west, ten nanoseconds past the second. -/
def westward : DateTime :=
  ⟨⟨⟨2021, 3, 19, by decide, by decide, by decide⟩,
    ⟨8, 30, 0, 10, by decide, by decide, by decide, by decide⟩⟩, ⟨-1800, by decide⟩⟩

theorem read_eve_westward :
    Date.read.quotation? "\"-0001-12-31\"" = some eve ∧
      DateTime.read.quotation? "\"2021-03-19T08:30:00.00000001-00:30\"" = some westward ∧
      "00000001".toList.getLast? ≠ some '0' := by
  obtain ⟨dates, -, -, -, dateTimes, fractions⟩ := moments_read_back
  have encoded : (dateTime westward).literal =
      .ok "\"2021-03-19T08:30:00.00000001-00:30\"" := by rfl
  obtain ⟨text, spelled, reads⟩ := dates eve
  have spelled' : (date eve).literal = .ok "\"-0001-12-31\"" := by rfl
  obtain rfl := Except.ok.inj (spelled'.symm.trans spelled)
  refine ⟨reads, dateTimes westward _ encoded, ?_⟩
  exact ((fractions _ westward.localTime.time _ rfl encoded).2 _ (by rfl)).2

end Value

end TypedQuery
