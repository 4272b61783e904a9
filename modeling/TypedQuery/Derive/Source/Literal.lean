import TypedQuery.Text.Identifier

/-!
# `afterLiteral?` — where a literal of source text ends

Literals are texts between quotes, cooked or raw, of characters or of bytes, single characters and
bytes between apostrophes, and numbers. Each may carry a suffix. Every function takes the text
from some place on and gives what follows, or nothing where no such literal stands.
-/

set_option autoImplicit false

namespace TypedQuery.Derive.Source

open Text

/-- What follows a word. -/
def afterWord? : List Char → Option (List Char)
  | [] => none
  | c :: rest => if isIdentifierStart c then some (rest.dropWhile isIdentifierContinue) else none

/-- What follows a suffix, if there is one. -/
def afterSuffix (cs : List Char) : List Char := (afterWord? cs).getD cs

/-! ## Texts -/

/-- What may stand between quotes. -/
structure QuoteRule where
  /-- Only characters of ASCII. -/
  ascii : Bool
  /-- A character may be given by its code point. -/
  codePoints : Bool
  /-- A character may be given by a byte beyond ASCII. -/
  bytes : Bool
  /-- NUL is a character like any other. -/
  nul : Bool

namespace QuoteRule

/-- Texts of characters. -/
def characters : QuoteRule := ⟨false, true, false, true⟩

/-- Texts of bytes. -/
def byteText : QuoteRule := ⟨true, false, true, true⟩

/-- Texts that end in NUL and so hold none. -/
def terminated : QuoteRule := ⟨false, true, true, false⟩

/-- The character may stand for itself. -/
def admits (rule : QuoteRule) (c : Char) : Bool :=
  (!rule.ascii || c.toNat < 128) && (rule.nul || c != '\x00')

end QuoteRule

/-- The value of a hexadecimal digit. -/
def hexValue? (c : Char) : Option Nat :=
  if c.isDigit then some (c.toNat - '0'.toNat)
  else if 'a' ≤ c && c ≤ 'f' then some (c.toNat - 'a'.toNat + 10)
  else if 'A' ≤ c && c ≤ 'F' then some (c.toNat - 'A'.toNat + 10)
  else none

/-- What follows a code point of one to six digits and its closing brace; `digits` were read so
    far, of the given value. -/
def afterCodePoint? (rule : QuoteRule) (digits value : Nat) : List Char → Option (List Char)
  | [] => none
  | c :: rest =>
    match hexValue? c with
    | some d => if digits < 6 then afterCodePoint? rule (digits + 1) (value * 16 + d) rest else none
    | none =>
      if digits = 0 then none
      else if c == '_' then afterCodePoint? rule digits value rest
      else if c == '\x7d' && value.isValidChar && (rule.nul || value != 0) then some rest
      else none

/-- What follows an escape after its backslash. -/
def afterEscape? (rule : QuoteRule) : List Char → Option (List Char)
  | 'x' :: a :: b :: rest =>
    match hexValue? a, hexValue? b with
    | some m, some n =>
      if (rule.bytes || m < 8) && (rule.nul || m + n != 0) then some rest else none
    | _, _ => none
  | 'u' :: '\x7b' :: rest => if rule.codePoints then afterCodePoint? rule 0 0 rest else none
  | '0' :: rest => if rule.nul then some rest else none
  | c :: rest => if ['n', 'r', 't', '\\', '\'', '"'].contains c then some rest else none
  | [] => none

/-- What follows the closing quote of a cooked text; `fuel` bounds its length. -/
def afterCooked? (rule : QuoteRule) : Nat → List Char → Option (List Char)
  | 0, _ => none
  | fuel + 1, cs =>
    match cs with
    | [] => none
    | '"' :: rest => some rest
    | '\\' :: '\n' :: rest => afterCooked? rule fuel rest
    | '\\' :: '\r' :: '\n' :: rest => afterCooked? rule fuel rest
    | '\\' :: rest => (afterEscape? rule rest).bind (afterCooked? rule fuel)
    | '\r' :: '\n' :: rest => afterCooked? rule fuel rest
    | '\r' :: _ => none
    | c :: rest => if rule.admits c then afterCooked? rule fuel rest else none

/-- What follows the closing quote and the number signs of a raw text. -/
def afterRaw? (rule : QuoteRule) (signs : List Char) : List Char → Option (List Char)
  | [] => none
  | c :: rest =>
    if c == '"' && signs.isPrefixOf rest then some (rest.drop signs.length)
    else if (c == '\r' && rest.head? != some '\n') || !rule.admits c then none
    else afterRaw? rule signs rest

/-- What follows a raw text after its letters. -/
def afterRawStart? (rule : QuoteRule) (cs : List Char) : Option (List Char) :=
  let signs := cs.takeWhile (· == '#')
  match cs.drop signs.length with
  | '"' :: rest => if signs.length ≤ 255 then afterRaw? rule signs rest else none
  | _ => none

/-- What follows a text in quotes of any kind. -/
def afterText? (cs : List Char) : Option (List Char) :=
  match cs with
  | '"' :: rest => afterCooked? .characters cs.length rest
  | 'r' :: rest => afterRawStart? .characters rest
  | 'b' :: '"' :: rest => afterCooked? .byteText cs.length rest
  | 'b' :: 'r' :: rest => afterRawStart? .byteText rest
  | 'c' :: '"' :: rest => afterCooked? .terminated cs.length rest
  | 'c' :: 'r' :: rest => afterRawStart? .terminated rest
  | _ => none

/-! ## Characters -/

/-- What follows an apostrophe. -/
def afterApostrophe? : List Char → Option (List Char)
  | '\'' :: rest => some rest
  | _ => none

/-- What follows a character or a byte between apostrophes. -/
def afterCharacter? : List Char → Option (List Char)
  | '\'' :: '\\' :: rest => (afterEscape? .characters rest).bind afterApostrophe?
  | '\'' :: _ :: rest => afterApostrophe? rest
  | 'b' :: '\'' :: '\\' :: rest => (afterEscape? .byteText rest).bind afterApostrophe?
  | 'b' :: '\'' :: c :: rest => if c.toNat < 128 then afterApostrophe? rest else none
  | _ => none

/-! ## Numbers -/

/-- A decimal digit, or an underscore between digits. -/
def isSpacedDigit (c : Char) : Bool := c.isDigit || c == '_'

/-- What follows an exponent after its letter: at most one sign in front of the digits, of which
    there is at least one. `sign` and `digit` tell what was read so far. -/
def afterExponent? (sign digit : Bool) : List Char → Option (List Char)
  | [] => if digit then some [] else none
  | c :: rest =>
    if c.isDigit then afterExponent? sign true rest
    else if c == '_' then afterExponent? sign digit rest
    else if digit then some (c :: rest)
    else if (c == '+' || c == '-') && !sign then afterExponent? true false rest
    else none

/-- Is the letter of an exponent. -/
def isExponentLetter (c : Char) : Bool := c == 'e' || c == 'E'

/-- What follows a number with a point or an exponent. The point may not stand in front of
    another one or of a word. -/
def afterFloat? (cs : List Char) : Option (List Char) :=
  match cs with
  | [] => none
  | first :: _ =>
    if !first.isDigit then none
    else match cs.dropWhile isSpacedDigit with
      | [] => none
      | c :: rest =>
        if c == '.' then
          if rest.head?.any fun d => d == '.' || isIdentifierStart d then none
          else
            let fraction := rest.dropWhile isSpacedDigit
            match fraction with
            | e :: exponent =>
              if isExponentLetter e then some ((afterExponent? false false exponent).getD fraction)
              else some fraction
            | [] => some []
        else if isExponentLetter c then afterExponent? false false rest
        else none

/-- What follows the digits of a whole number in a base; `empty` if none was read so far. -/
def afterDigits? (base : Nat) (empty : Bool) : List Char → Option (List Char)
  | [] => if empty then none else some []
  | c :: rest =>
    if c == '_' then if empty && base == 10 then none else afterDigits? base empty rest
    else match hexValue? c with
      | some d =>
        if d < base then afterDigits? base false rest
        else if c.isDigit || empty then none
        else some (c :: rest)
      | none => if empty then none else some (c :: rest)

/-- What follows a whole number. -/
def afterWhole? : List Char → Option (List Char)
  | '0' :: 'x' :: rest => afterDigits? 16 true rest
  | '0' :: 'o' :: rest => afterDigits? 8 true rest
  | '0' :: 'b' :: rest => afterDigits? 2 true rest
  | cs => afterDigits? 10 true cs

/-- What follows the suffix of a number, which ends where no word goes on. -/
def afterNumberSuffix? (cs : List Char) : Option (List Char) :=
  let rest := afterSuffix cs
  if rest.head?.any isIdentifierContinue then none else some rest

/-- What follows a number. -/
def afterNumber? (cs : List Char) : Option (List Char) :=
  ((afterFloat? cs).bind afterNumberSuffix?).orElse fun _ =>
    (afterWhole? cs).bind afterNumberSuffix?

/-- What follows a literal. -/
def afterLiteral? (cs : List Char) : Option (List Char) :=
  match afterText? cs with
  | some rest => some (afterSuffix rest)
  | none =>
    match afterCharacter? cs with
    | some rest => some (afterSuffix rest)
    | none => afterNumber? cs

end TypedQuery.Derive.Source
