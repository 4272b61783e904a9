import TypedQuery.Proofs.Literal.Numbers
import TypedQuery.Proofs.Text.Quoting

/-!
# `ClockText` — dates and times need no escapes

The texts of dates and times consist of digits and of six other characters, and none of these is
escaped between quotes. So the quotes that are put around them without further ado are those of a
quoted text (`ClockText.quoted_eq`), and reading them back is reading a text.
-/

set_option autoImplicit false

namespace TypedQuery

/-- The characters of dates and times. -/
def isClockChar (c : Char) : Bool := c.isDigit || c ∈ ['-', ':', 'T', '.', 'Z', '+']

/-- A text of these characters. -/
def ClockText (cs : List Char) : Prop := ∀ c ∈ cs, isClockChar c = true

theorem escaped_of_isClockChar {c : Char} (clock : isClockChar c = true) :
    Text.escaped c = [c] := by
  rcases Bool.or_eq_true_iff.1 clock with digit | mark
  · have code := Text.toNat_of_isDigit digit
    refine Text.escaped_of_shown ?_ ?_ (by omega)
    · rintro rfl
      exact absurd digit (by decide)
    · rintro rfl
      exact absurd digit (by decide)
  · have marks : ['-', ':', 'T', '.', 'Z', '+'].all (fun d => Text.escaped d == [d]) = true := by
      decide
    exact eq_of_beq (List.all_eq_true.1 marks c (of_decide_eq_true mark))

theorem ClockText.quoted_eq {cs : List Char} (h : ClockText cs) :
    Text.quoted cs = Value.inQuotes cs :=
  Text.quoted_eq_of_plain fun c mem => escaped_of_isClockChar (h c mem)

theorem ClockText.append {cs ds : List Char} (h : ClockText cs) (h' : ClockText ds) :
    ClockText (cs ++ ds) :=
  List.forall_mem_append.2 ⟨h, h'⟩

theorem ClockText.cons {c : Char} {cs : List Char} (clock : isClockChar c = true)
    (h : ClockText cs) : ClockText (c :: cs) :=
  List.forall_mem_cons.2 ⟨clock, h⟩

theorem clockText_padded (width n : Nat) : ClockText (Calendar.padded width n) := by
  refine ClockText.append ?_ ?_
  · intro c mem
    rw [List.eq_of_mem_replicate mem]
    decide
  · intro c mem
    exact Bool.or_eq_true_iff.2 (Or.inl (isDigit_of_mem_digits mem))

theorem Date.clockText (d : Date) : ClockText d.text := by
  have year : ClockText (yearText d.year) := by
    unfold yearText
    split
    · exact (clockText_padded 4 _).cons (by decide)
    · exact clockText_padded 4 _
  have month := clockText_padded 2 d.month
  have day := clockText_padded 2 d.day
  exact (year.append (month.cons (by decide))).append (day.cons (by decide))

theorem Time.clockText (t : Time) : ClockText t.text := by
  have hour := clockText_padded 2 t.hour
  have minute := clockText_padded 2 t.minute
  have second := clockText_padded 2 t.second
  have fraction : ClockText (fractionText t.nanosecond) := by
    unfold fractionText
    split
    · exact fun c mem => absurd mem List.not_mem_nil
    · refine ClockText.cons (by decide) fun c mem => ?_
      have kept := (List.dropWhile_sublist _).subset (List.mem_reverse.1 mem)
      exact clockText_padded 9 t.nanosecond c (List.mem_reverse.1 kept)
  have colon : isClockChar ':' = true := by decide
  exact ((hour.append (minute.cons colon)).append (second.cons colon)).append fraction

theorem LocalDateTime.clockText (dt : LocalDateTime) : ClockText dt.text :=
  dt.date.clockText.append (dt.time.clockText.cons (by decide))

theorem Offset.clockText (o : Offset) : ClockText o.text := by
  unfold text
  split
  · exact List.forall_mem_singleton.2 (by decide)
  · have hours := clockText_padded 2 o.hours
    have minutes := clockText_padded 2 o.minutes
    have sign : isClockChar (if o.seconds < 0 then '-' else '+') = true := by split <;> decide
    exact (hours.append (minutes.cons (by decide))).cons sign

/-- A date-time that has an internet text form has this one. -/
theorem DateTime.eq_of_internetText {dt : DateTime} {form : List Char}
    (internet : dt.internetText = .ok form) : form = dt.localTime.text ++ dt.offset.text := by
  unfold internetText at internet
  split at internet
  · exact absurd internet nofun
  · split at internet
    · exact absurd internet nofun
    · split at internet
      · exact absurd internet nofun
      · exact (Except.ok.inj internet).symm

end TypedQuery
