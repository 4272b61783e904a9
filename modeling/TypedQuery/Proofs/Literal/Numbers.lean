import TypedQuery.Proofs.Literal.Basic
import TypedQuery.Text.CodeRange

/-!
# `NumberToken` — numbers are single tokens

The reader takes a number for as long as digits, signs, points and the letter `e` go on, so a
number is read whole if it consists of these and what follows is none of them (`reads_number`).
Whether it is an integer is then seen from the token alone, and this is where integers and floats
must not be confused: an integer of any width is written with digits only, while the numeral of a
float **always has a point or an exponent** (`ofToken_numeral`), also where its value is whole.
Nothing here depends on how the digits of a float are found.
-/

set_option autoImplicit false

namespace TypedQuery

open Literal

/-- A token of number characters that opens with a digit or a minus sign. -/
structure NumberToken (cs : List Char) : Prop where
  opens : Opens (fun c => c.isDigit = true ∨ c = '-') cs
  chars : ∀ c ∈ cs, isNumeralChar c = true

theorem isNumeralChar_of_isDigit {c : Char} (digit : c.isDigit = true) :
    isNumeralChar c = true := by
  simp [isNumeralChar, digit]

theorem NumberToken.minus {cs : List Char} (h : NumberToken cs) : NumberToken ('-' :: cs) := by
  refine ⟨⟨'-', rfl, Or.inr rfl⟩, ?_⟩
  exact List.forall_mem_cons.2 ⟨by decide, h.chars⟩

/-! ## Runs of digits -/

theorem isDigit_of_mem_digits {n : Nat} {c : Char} (mem : c ∈ Nat.toDigits 10 n) :
    c.isDigit = true :=
  Nat.isDigit_of_mem_toDigits (by decide) (by decide) mem

theorem not_isNameStart_of_isDigit {c : Char} (digit : c.isDigit = true) :
    ¬ Text.isNameStart c = true := by
  have code := Text.toNat_of_isDigit digit
  intro start
  rcases Bool.or_eq_true_iff.1 start with underscore | letter
  · obtain rfl := eq_of_beq underscore
    exact absurd digit (by decide)
  · have range := Text.toNat_of_isAlpha letter
    omega

theorem exists_digits_eq_cons (n : Nat) :
    ∃ c cs, Nat.toDigits 10 n = c :: cs ∧ c.isDigit = true := by
  cases digits : Nat.toDigits 10 n with
  | nil => exact absurd digits Nat.toDigits_ne_nil
  | cons c cs => exact ⟨c, cs, rfl, isDigit_of_mem_digits (digits ▸ List.mem_cons_self)⟩

theorem isDigits_digits (n : Nat) : isDigits (Nat.toDigits 10 n) = true := by
  obtain ⟨c, cs, digits, -⟩ := exists_digits_eq_cons n
  have all : (Nat.toDigits 10 n).all Char.isDigit = true :=
    List.all_eq_true.2 fun _ => isDigit_of_mem_digits
  unfold isDigits
  rw [all, digits]
  rfl

theorem numberToken_digits (n : Nat) : NumberToken (Nat.toDigits 10 n) := by
  obtain ⟨c, cs, digits, digit⟩ := exists_digits_eq_cons n
  refine ⟨⟨c, by rw [digits]; rfl, Or.inl digit⟩, fun d mem => ?_⟩
  exact isNumeralChar_of_isDigit (isDigit_of_mem_digits mem)

/-! ## Integers -/

theorem ofToken_digits (n : Nat) : ofToken (Nat.toDigits 10 n) = .integer n := by
  unfold ofToken
  rw [if_pos (isDigits_digits n), Nat.ofDigitChars_ten_toDigits]

theorem ofToken_minus_digits (n : Nat) : ofToken ('-' :: Nat.toDigits 10 n) = .integer (-n) := by
  have signed : isDigits ('-' :: Nat.toDigits 10 n) = false := rfl
  unfold ofToken
  rw [signed, if_neg Bool.false_ne_true, List.tail_cons, if_pos ⟨rfl, isDigits_digits n⟩,
    Nat.ofDigitChars_ten_toDigits]

theorem numberToken_intLiteral (n : Int) : NumberToken (Value.intLiteral n) := by
  unfold Value.intLiteral
  split
  · exact (numberToken_digits _).minus
  · exact numberToken_digits _

/-- An integer is read back from its literal. -/
theorem ofToken_intLiteral (n : Int) : ofToken (Value.intLiteral n) = .integer n := by
  unfold Value.intLiteral
  split
  · rw [ofToken_minus_digits]
    congr 1
    omega
  · rw [ofToken_digits]
    congr 1
    omega

/-! ## Numerals of floats -/

/-- A token that opens with a digit and has a point or an exponent. -/
structure FractionToken (cs : List Char) : Prop where
  opens : Opens (·.isDigit = true) cs
  chars : ∀ c ∈ cs, isNumeralChar c = true
  mark : ∃ c ∈ cs, c = '.' ∨ c = 'e'

theorem FractionToken.numberToken {cs : List Char} (h : FractionToken cs) : NumberToken cs :=
  ⟨h.opens.mono fun _ digit => Or.inl digit, h.chars⟩

theorem isDigits_eq_false_of_mark {cs : List Char} (mark : ∃ c ∈ cs, c = '.' ∨ c = 'e') :
    isDigits cs = false := by
  obtain ⟨c, mem, point⟩ := mark
  have notDigit : c.isDigit = false := by rcases point with rfl | rfl <;> rfl
  refine Bool.eq_false_iff.2 fun digits => ?_
  have all := (Bool.and_eq_true_iff.1 digits).2
  exact absurd (List.all_eq_true.1 all c mem) (Bool.eq_false_iff.1 notDigit)

theorem FractionToken.ofToken_eq {cs : List Char} (h : FractionToken cs) :
    ofToken cs = .numeral (String.ofList cs) := by
  have unsigned : ¬ (cs.head? = some '-' ∧ isDigits cs.tail = true) := by
    obtain ⟨c, head, digit⟩ := h.opens
    rintro ⟨minus, -⟩
    obtain rfl := Option.some.inj (head.symm.trans minus)
    exact absurd digit (by decide)
  unfold ofToken
  rw [isDigits_eq_false_of_mark h.mark, if_neg Bool.false_ne_true, if_neg unsigned]

theorem FractionToken.ofToken_minus_eq {cs : List Char} (h : FractionToken cs) :
    ofToken ('-' :: cs) = .numeral (String.ofList ('-' :: cs)) := by
  have signed : isDigits ('-' :: cs) = false := rfl
  have fraction : ¬ (('-' :: cs).head? = some '-' ∧ isDigits ('-' :: cs).tail = true) := by
    rintro ⟨-, digits⟩
    exact absurd digits (Bool.eq_false_iff.1 (isDigits_eq_false_of_mark h.mark))
  unfold ofToken
  rw [signed, if_neg Bool.false_ne_true, if_neg fraction]

section Layout

variable {digits : List Char}

theorem fractionToken_plain (nonempty : digits ≠ []) (all : ∀ c ∈ digits, c.isDigit = true)
    (order : Int) : FractionToken (Decimal.plain digits order) := by
  obtain ⟨first, others, rfl⟩ := List.exists_cons_of_ne_nil nonempty
  have opens := all first List.mem_cons_self
  have numeral : ∀ c ∈ first :: others, isNumeralChar c = true :=
    fun c mem => isNumeralChar_of_isDigit (all c mem)
  have zeros (k : Nat) : ∀ c ∈ List.replicate k '0', isNumeralChar c = true := by
    intro c mem
    rw [List.eq_of_mem_replicate mem]
    decide
  have point : isNumeralChar '.' = true := by decide
  have zero : isNumeralChar '0' = true := by decide
  unfold Decimal.plain
  split
  · refine ⟨⟨'0', rfl, rfl⟩, ?_, ⟨'.', by simp, Or.inl rfl⟩⟩
    refine List.forall_mem_append.2 ⟨?_, numeral⟩
    exact List.forall_mem_cons.2 ⟨zero, List.forall_mem_cons.2 ⟨point, zeros _⟩⟩
  · -- the first digit stands before the point
    obtain ⟨k, before⟩ : ∃ k, (order + 1).toNat = k + 1 := ⟨order.toNat, by omega⟩
    split
    · rw [before]
      refine ⟨⟨first, rfl, opens⟩, ?_, ⟨'.', by simp, Or.inl rfl⟩⟩
      refine List.forall_mem_append.2 ⟨fun c mem => numeral c (List.mem_of_mem_take mem), ?_⟩
      exact List.forall_mem_cons.2 ⟨point, fun c mem => numeral c (List.mem_of_mem_drop mem)⟩
    · refine ⟨⟨first, rfl, opens⟩, ?_, ⟨'.', by simp, Or.inl rfl⟩⟩
      refine List.forall_mem_append.2 ⟨List.forall_mem_append.2 ⟨numeral, zeros _⟩, ?_⟩
      exact List.forall_mem_cons.2 ⟨point, List.forall_mem_singleton.2 zero⟩

theorem fractionToken_scientific (nonempty : digits ≠ []) (all : ∀ c ∈ digits, c.isDigit = true)
    (order : Int) : FractionToken (Decimal.scientific digits order) := by
  obtain ⟨first, others, rfl⟩ := List.exists_cons_of_ne_nil nonempty
  have opens := all first List.mem_cons_self
  have numeral : ∀ c ∈ first :: others, isNumeralChar c = true :=
    fun c mem => isNumeralChar_of_isDigit (all c mem)
  have sign : isNumeralChar (if order < 0 then '-' else '+') = true := by split <;> decide
  have exponent : ∀ c ∈ 'e' :: (if order < 0 then '-' else '+') :: Nat.toDigits 10 order.natAbs,
      isNumeralChar c = true := by
    refine List.forall_mem_cons.2 ⟨by decide, List.forall_mem_cons.2 ⟨sign, ?_⟩⟩
    exact fun c mem => isNumeralChar_of_isDigit (isDigit_of_mem_digits mem)
  unfold Decimal.scientific
  cases others with
  | nil =>
    exact ⟨⟨first, rfl, opens⟩, List.forall_mem_append.2 ⟨numeral, exponent⟩,
      ⟨'e', by simp, Or.inr rfl⟩⟩
  | cons second others =>
    obtain ⟨firstChar, othersChars⟩ := List.forall_mem_cons.1 numeral
    refine ⟨⟨first, rfl, opens⟩, List.forall_mem_append.2 ⟨?_, exponent⟩,
      ⟨'e', by simp, Or.inr rfl⟩⟩
    exact List.forall_mem_cons.2 ⟨firstChar, List.forall_mem_cons.2 ⟨by decide, othersChars⟩⟩

end Layout

theorem Decimal.fractionToken_numeral (d : Decimal) : FractionToken d.numeral := by
  have nonempty : d.digits ≠ [] := Nat.toDigits_ne_nil
  have all : ∀ c ∈ d.digits, c.isDigit = true := fun _ => isDigit_of_mem_digits
  unfold numeral
  split
  · exact fractionToken_plain nonempty all d.order
  · exact fractionToken_scientific nonempty all d.order

theorem Binary64.numberToken_numeral (x : Binary64) : NumberToken x.numeral := by
  have token := x.toDecimal.fractionToken_numeral.numberToken
  unfold numeral
  split
  · exact token.minus
  · exact token

/-- A float is never read as an integer. -/
theorem Binary64.ofToken_numeral (x : Binary64) :
    ofToken x.numeral = .numeral (String.ofList x.numeral) := by
  have token := x.toDecimal.fractionToken_numeral
  unfold numeral
  split
  · exact token.ofToken_minus_eq
  · exact token.ofToken_eq

/-! ## Numbers of documents -/

theorem JsonNumber.numberToken_text (n : JsonNumber) : NumberToken n.text := by
  cases n with
  | natural n => exact numberToken_digits n.toNat
  | negative n isNeg => exact (numberToken_digits n.toInt.natAbs).minus
  | float x finite => exact x.numberToken_numeral

theorem JsonNumber.ofToken_text (n : JsonNumber) : ofToken n.text = n.skeleton := by
  cases n with
  | natural n => exact ofToken_digits n.toNat
  | negative n isNeg =>
    have negative : n.toInt < 0 := Int64.lt_iff_toInt_lt.1 isNeg
    show ofToken ('-' :: Nat.toDigits 10 n.toInt.natAbs) = .integer n.toInt
    rw [ofToken_minus_digits]
    congr 1
    omega
  | float x finite => exact x.ofToken_numeral

/-! ## Reading a number -/

/-- A number token is read whole. -/
theorem Literal.reads_number {cs : List Char} (token : NumberToken cs) :
    readNumber.Reads ends cs (ofToken cs) := by
  intro rest follows
  have stops : ∀ c ∈ rest.head?, isNumeralChar c = false := follows.stops (by decide)
  unfold readNumber
  rw [Reader.takeWhile_run token.chars stops, Reader.dropWhile_run token.chars stops]

end TypedQuery
