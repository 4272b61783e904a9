import TypedQuery.Json.StringReader
import TypedQuery.Text.Quoted

/-!
# `readString_quoted` — a quoted text is read back as it was

`Text.quoted` escapes a text character by character and `Json.Cursor.readString` reads the quoted
form of JSON, so the proof goes by characters too: what one character was escaped to is read as
that character, in one turn of the reader (`readStringWithin_escaped`), whichever of the three forms
the escape takes. The line and the column that the reader keeps are of no interest here.

A text of characters that need no escape is quoted by putting it between quotes
(`quoted_eq_of_plain`), which is how dates and times are written.
-/

set_option autoImplicit false

namespace TypedQuery

namespace Json.Cursor

theorem hexValue?_digitChar : ∀ n < 16, hexValue? (Nat.digitChar n) = some n := by decide

/-- Four digits are read as the number they stand for. -/
theorem readHex4_digits {a b d e : Char} {w x y z : Nat} (ha : hexValue? a = some w)
    (hb : hexValue? b = some x) (hd : hexValue? d = some y) (he : hexValue? e = some z)
    (tail : List Char) (p : Position) :
    readHex4 ⟨a :: b :: d :: e :: tail, p⟩ =
      .ok (((w * 16 + x) * 16 + y) * 16 + z, advanceBy 4 ⟨a :: b :: d :: e :: tail, p⟩) := by
  have long : ¬ bytes [a, b, d, e] < 4 := by
    have sizes := And.intro a.utf8Size_pos (And.intro b.utf8Size_pos
      (And.intro d.utf8Size_pos e.utf8Size_pos))
    simp only [bytes, List.foldl_cons, List.foldl_nil]
    omega
  unfold readHex4
  rw [show List.take 4 (a :: b :: d :: e :: tail) = [a, b, d, e] from rfl, if_neg long,
    List.map_cons, List.map_cons, List.map_cons, List.map_cons, List.map_nil, ha, hb, hd, he]

/-- The code escape of a control character. -/
theorem readCodeEscape_control {x : Char} (control : x.toNat < 0x20) (tail : List Char)
    (p : Position) :
    ∃ p', readCodeEscape
        ⟨'0' :: '0' :: Nat.digitChar (x.toNat / 16) :: Nat.digitChar (x.toNat % 16) :: tail, p⟩ =
      .ok (x, ⟨tail, p'⟩) := by
  have zero : hexValue? '0' = some 0 := rfl
  have high := hexValue?_digitChar (x.toNat / 16) (by omega)
  have low := hexValue?_digitChar (x.toNat % 16) (by omega)
  have code : ((0 * 16 + 0) * 16 + x.toNat / 16) * 16 + x.toNat % 16 = x.toNat := by omega
  have digits := readHex4_digits zero zero high low tail p
  rw [code] at digits
  have noSurrogate : (decide (0xDC00 ≤ x.toNat) && decide (x.toNat ≤ 0xDFFF)) = false := by
    rw [decide_eq_false (by omega), Bool.false_and]
  have plane : (decide (x.toNat < 0xD800) || decide (0xDBFF < x.toNat)) = true := by
    rw [decide_eq_true (by omega), Bool.true_or]
  unfold readCodeEscape
  rw [digits]
  show ∃ p', (if (decide (0xDC00 ≤ x.toNat) && decide (x.toNat ≤ 0xDFFF)) = true then _
    else if (decide (x.toNat < 0xD800) || decide (0xDBFF < x.toNat)) = true then _ else _) = _
  rw [noSurrogate, plane, if_neg Bool.false_ne_true, if_pos rfl, Char.ofNat_toNat]
  exact ⟨_, rfl⟩

/-- A character that stands for itself. -/
theorem readStringWithin_shown {x : Char} (noQuote : x ≠ '"') (noSolidus : x ≠ '\\')
    (shown : ¬ x.toNat < 0x20) (tail : List Char) (p : Position) (read : List Char) (fuel : Nat) :
    readStringWithin ⟨x :: tail, p⟩ read (fuel + 1) =
      readStringWithin ⟨tail, p.after x⟩ (x :: read) fuel := by
  rw [readStringWithin]
  split
  · rename_i none
    exact absurd none nofun
  · rename_i quote
    exact absurd (Option.some.inj quote) noQuote
  · rename_i solidus
    exact absurd (Option.some.inj solidus) noSolidus
  · rename_i same
    obtain rfl := Option.some.inj same
    exact if_neg shown

end Json.Cursor

namespace Text

open Json

/-- A character has a short escape, is a control character without one, or stands for itself. -/
theorem escaped_cases (x : Char) :
    (∃ letter, escapeLetter? x = some letter ∧ escaped x = ['\\', letter]) ∨
    (x.toNat < 0x20 ∧ escaped x =
      ['\\', 'u', '0', '0', Nat.digitChar (x.toNat / 16), Nat.digitChar (x.toNat % 16)]) ∨
    (escapeLetter? x = none ∧ ¬ x.toNat < 0x20 ∧ escaped x = [x]) := by
  unfold escaped
  cases escapeLetter? x with
  | some letter => exact Or.inl ⟨letter, rfl, rfl⟩
  | none =>
    by_cases control : x.toNat < 0x20
    · exact Or.inr (Or.inl ⟨control, if_pos control⟩)
    · exact Or.inr (Or.inr ⟨rfl, control, if_neg control⟩)

/-- A short escape is read as the character it is of. -/
theorem readEscape_letter {x letter : Char} (short : escapeLetter? x = some letter)
    (tail : List Char) (p : Position) :
    ∃ p', Cursor.readEscape ⟨letter :: tail, p⟩ = .ok (x, ⟨tail, p'⟩) := by
  unfold escapeLetter? at short
  repeat'
    split at short
    · rename_i same
      obtain rfl := eq_of_beq same
      obtain rfl := Option.some.inj short
      exact ⟨_, rfl⟩
  exact absurd short nofun

/-- What one character was escaped to is read in one turn, as that character. -/
theorem readStringWithin_escaped (x : Char) (tail : List Char) (p : Position) (read : List Char)
    (fuel : Nat) :
    ∃ p', Cursor.readStringWithin ⟨escaped x ++ tail, p⟩ read (fuel + 1) =
      Cursor.readStringWithin ⟨tail, p'⟩ (x :: read) fuel := by
  rcases escaped_cases x with ⟨letter, short, form⟩ | ⟨control, form⟩ | ⟨short, shown, form⟩
  · obtain ⟨p', escape⟩ := readEscape_letter short tail (p.after '\\')
    refine ⟨p', ?_⟩
    rw [form]
    show (Cursor.readEscape ⟨letter :: tail, p.after '\\'⟩ >>= _) = _
    rw [escape]
    rfl
  · obtain ⟨p', escape⟩ := Cursor.readCodeEscape_control control tail ((p.after '\\').after 'u')
    refine ⟨p', ?_⟩
    rw [form]
    show (Cursor.readCodeEscape ⟨'0' :: '0' :: _ :: _ :: tail, (p.after '\\').after 'u'⟩ >>= _) = _
    rw [escape]
    rfl
  · refine ⟨p.after x, ?_⟩
    have noQuote : x ≠ '"' := by
      rintro rfl
      exact absurd short (by decide)
    have noSolidus : x ≠ '\\' := by
      rintro rfl
      exact absurd short (by decide)
    rw [form]
    exact Cursor.readStringWithin_shown noQuote noSolidus shown tail p read fuel

/-- The turns of the reader, one for each character and the last for the closing quote. -/
theorem readStringWithin_quoted (cs rest : List Char) (p : Position) (read : List Char)
    {fuel : Nat} (enough : cs.length < fuel) :
    ∃ p', Cursor.readStringWithin ⟨cs.flatMap escaped ++ '"' :: rest, p⟩ read fuel =
      .ok (String.ofList (read.reverse ++ cs), ⟨rest, p'⟩) := by
  induction cs generalizing p read fuel with
  | nil =>
    obtain ⟨fuel, rfl⟩ := Nat.exists_eq_succ_of_ne_zero (Nat.ne_zero_of_lt enough)
    exact ⟨_, by rw [List.append_nil]; rfl⟩
  | cons x cs ih =>
    obtain ⟨fuel, rfl⟩ := Nat.exists_eq_succ_of_ne_zero (Nat.ne_zero_of_lt enough)
    obtain ⟨p', turn⟩ := readStringWithin_escaped x (cs.flatMap escaped ++ '"' :: rest) p read fuel
    obtain ⟨p'', others⟩ := ih p' (x :: read) (Nat.lt_of_succ_lt_succ enough)
    refine ⟨p'', ?_⟩
    rw [List.flatMap_cons, List.append_assoc, turn, others, List.reverse_cons, List.append_assoc]
    rfl

theorem length_le_length_escaped (cs : List Char) :
    cs.length ≤ (cs.flatMap escaped).length := by
  induction cs with
  | nil => exact Nat.le_refl 0
  | cons x cs ih =>
    have positive : 0 < (escaped x).length := by
      rcases escaped_cases x with ⟨_, _, form⟩ | ⟨_, form⟩ | ⟨_, _, form⟩ <;> rw [form] <;> simp
    rw [List.flatMap_cons, List.length_append, List.length_cons]
    omega

/-- **A quoted text is read back as it was**, behind its opening quote and up to its closing one. -/
theorem readString_quoted (cs rest : List Char) :
    ∃ p, (Cursor.start (cs.flatMap escaped ++ '"' :: rest)).readString =
      .ok (String.ofList cs, ⟨rest, p⟩) := by
  have enough : cs.length < (cs.flatMap escaped ++ '"' :: rest).length + 1 := by
    have := length_le_length_escaped cs
    rw [List.length_append]
    omega
  exact readStringWithin_quoted cs rest .start [] enough

/-- Neither the quote nor the reverse solidus nor a control character: it stands for itself. -/
theorem escaped_of_shown {x : Char} (noQuote : x ≠ '"') (noSolidus : x ≠ '\\')
    (shown : ¬ x.toNat < 0x20) : escaped x = [x] := by
  rcases escaped_cases x with ⟨letter, short, -⟩ | ⟨control, -⟩ | ⟨-, -, form⟩
  · unfold escapeLetter? at short
    repeat'
      split at short
      · rename_i same
        obtain rfl := eq_of_beq same
        first
          | exact absurd rfl noQuote
          | exact absurd rfl noSolidus
          | exact absurd (by decide) shown
    exact absurd short nofun
  · exact absurd control shown
  · exact form

theorem quoted_eq_of_plain {cs : List Char} (plain : ∀ c ∈ cs, escaped c = [c]) :
    quoted cs = '"' :: cs ++ ['"'] := by
  have itself : cs.flatMap escaped = cs := by
    rw [List.flatMap_def, List.map_congr_left plain, ← List.flatMap_def, List.flatMap_singleton']
  unfold quoted
  rw [itself]

end Text

end TypedQuery
