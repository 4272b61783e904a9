import Mathlib.Tactic.SplitIfs
import TypedQuery.Derive.Source.Literal
import TypedQuery.Text.SourceLiteral

/-!
# `readSource_quoted` — a literal of generated code says the text it was made of

Generated code carries names and renames as literals between quotes, and a compiler reads those by the
rules of source text: letters after a backslash, two hexadecimal digits after an `x`, a code between
braces after a `u`. `readSource` is that reading, one character at a time with the place it stands at, and
it gives back every text that was put between quotes, with whatever characters.

What one character was escaped to is read as that character (`readContent_escaped`). The code of a
character has no fixed number of digits, so it is read by induction on the code, last digit off.
-/

set_option autoImplicit false

namespace TypedQuery.Text

open Derive.Source (hexValue?)

/-- Where a reader stands between the quotes of a literal. -/
inductive Place where
  | plain
  /-- Behind a backslash. -/
  | escape
  /-- In front of the first of two digits, and of the second one. -/
  | byte
  | secondDigit (first : Nat)
  /-- In front of the brace of a code, and among its digits. -/
  | code
  | digits (value : Nat)

/-- The character that a letter behind a backslash stands for. -/
def letterEscape? : Char → Option Char
  | '0' => some '\x00'
  | 't' => some '\t'
  | 'r' => some '\r'
  | 'n' => some '\n'
  | '\\' => some '\\'
  | '\'' => some '\''
  | '"' => some '"'
  | _ => none

/-- Reads up to the closing quote, which is the last character. -/
def readContent : Place → List Char → Option (List Char)
  | _, [] => none
  | .plain, c :: rest =>
    if c = '"' then if rest.isEmpty then some [] else none
    else if c = '\\' then readContent .escape rest
    else (readContent .plain rest).map (c :: ·)
  | .escape, c :: rest =>
    if c = 'x' then readContent .byte rest
    else if c = 'u' then readContent .code rest
    else (letterEscape? c).bind fun d => (readContent .plain rest).map (d :: ·)
  | .byte, c :: rest => (hexValue? c).bind fun first => readContent (.secondDigit first) rest
  | .secondDigit first, c :: rest =>
    (hexValue? c).bind fun second =>
      (readContent .plain rest).map (Char.ofNat (first * 16 + second) :: ·)
  | .code, c :: rest => if c = '\x7b' then readContent (.digits 0) rest else none
  | .digits value, c :: rest =>
    if c = '\x7d' then (readContent .plain rest).map (Char.ofNat value :: ·)
    else (hexValue? c).bind fun digit => readContent (.digits (value * 16 + digit)) rest

/-- Reads a literal between quotes. -/
def readSource : List Char → Option (List Char)
  | '"' :: rest => readContent .plain rest
  | _ => none

theorem hexValue?_digitChar :
    ∀ n < 16, Nat.digitChar n ≠ '\x7d' ∧ hexValue? (Nat.digitChar n) = some n := by
  decide

theorem readContent_digit {digit : Nat} (small : digit < 16) (value : Nat) (rest : List Char) :
    readContent (.digits value) (Nat.digitChar digit :: rest) =
      readContent (.digits (value * 16 + digit)) rest := by
  obtain ⟨inside, value?⟩ := hexValue?_digitChar digit small
  rw [readContent, if_neg inside, value?]
  rfl

theorem readContent_digits (n : Nat) (rest : List Char) :
    readContent (.digits 0) (Nat.toDigits 16 n ++ rest) = readContent (.digits n) rest := by
  induction n using Nat.strongRecOn generalizing rest with
  | ind n ih =>
    by_cases small : n < 16
    · rw [Nat.toDigits_of_lt_base small, List.singleton_append, readContent_digit small]
      simp
    · -- the last digit is read after the others, whose code is smaller
      have shorter : n / 16 < n := Nat.div_lt_self (by omega) (by omega)
      have whole : n / 16 * 16 + n % 16 = n := Nat.div_add_mod' n 16
      rw [Nat.toDigits_of_base_le (by omega) (by omega), List.append_assoc, List.singleton_append,
        ih _ shorter, readContent_digit (Nat.mod_lt n (by omega)), whole]

theorem readContent_code (c : Char) (rest : List Char) :
    readContent .plain (codeEscape c ++ rest) = (readContent .plain rest).map (c :: ·) := by
  have digits := readContent_digits c.toNat ('\x7d' :: rest)
  have closing : readContent (.digits c.toNat) ('\x7d' :: rest) =
      (readContent .plain rest).map (c :: ·) := by
    rw [readContent, if_pos rfl, Char.ofNat_toNat]
  rw [codeEscape, List.append_assoc, List.append_assoc, List.singleton_append]
  exact digits.trans closing

/-- What a character is escaped to is read as that character. -/
theorem readContent_escaped (c : Char) (rest : List Char) :
    readContent .plain (sourceEscaped c ++ rest) = (readContent .plain rest).map (c :: ·) := by
  unfold sourceEscaped
  split_ifs with nul tab carriage newline solidus quote hidden
  · rw [eq_of_beq nul]
    rfl
  · rw [eq_of_beq tab]
    rfl
  · rw [eq_of_beq carriage]
    rfl
  · rw [eq_of_beq newline]
    rfl
  · rw [eq_of_beq solidus]
    rfl
  · rw [eq_of_beq quote]
    rfl
  · exact readContent_code c rest
  · have noQuote : c ≠ '"' := by simpa using quote
    have noSolidus : c ≠ '\\' := by simpa using solidus
    rw [List.singleton_append, readContent, if_neg noQuote, if_neg noSolidus]

theorem readContent_generated (cs : List Char) :
    readContent .plain (generatedEscaped cs ++ ['"']) = some cs := by
  induction cs with
  | nil => rfl
  | cons c rest ih =>
    rw [generatedEscaped, List.append_assoc]
    split_ifs with octal
    · -- a NUL in front of a digit, by its two digits
      obtain rfl := eq_of_beq (Bool.and_eq_true_iff.1 octal).1
      show (readContent .plain (generatedEscaped rest ++ ['"'])).map ('\x00' :: ·) = _
      rw [ih]
      rfl
    · rw [readContent_escaped, ih]
      rfl

/-- **A literal is read as the text it was made of.** -/
theorem readSource_quoted (cs : List Char) : readSource (generatedQuoted cs) = some cs :=
  readContent_generated cs

end TypedQuery.Text
