import TypedQuery.Json.StringReader
import TypedQuery.Proofs.Text.Reading
import TypedQuery.Value.Literal

/-!
# `Literal.read` — a reader of literals

A literal says less than the value it was written for: whether an integer was signed, or a text a
date, does not show. What does show is its `Literal`, and `Value.skeleton` is what of a value can
be read back. The reader knows the grammar of literals and nothing of values: bare words, number
tokens, quoted texts with the escapes of JSON, lists in brackets and objects in braces.

Lists and objects are read by the one list reader, and its fuel here is the depth of nesting: each
level costs two brackets, so the length of the text is enough.
-/

set_option autoImplicit false

namespace TypedQuery

/-- What a literal says. -/
inductive Literal where
  | word (name : String)
  | integer (n : Int)
  /-- A number that is not written as an integer, as it is written. -/
  | numeral (token : String)
  | text (s : String)
  | list (items : List Literal)
  | object (entries : List (String × Literal))

namespace Literal

/-! ## The reader -/

/-- What number tokens consist of. -/
def isNumeralChar (c : Char) : Bool :=
  c.isDigit || c == '-' || c == '+' || c == '.' || c == 'e'

/-- Digits, and at least one. -/
def isDigits (cs : List Char) : Bool := !cs.isEmpty && cs.all Char.isDigit

/-- The number of a token: an integer if it consists of digits behind at most a minus sign. -/
def ofToken (token : List Char) : Literal :=
  if isDigits token then .integer (Nat.ofDigitChars 10 token 0)
  else if token.head? = some '-' ∧ isDigits token.tail then
    .integer (-(Nat.ofDigitChars 10 token.tail 0 : Int))
  else .numeral (String.ofList token)

/-- Reads a number token, as far as it goes. -/
def readNumber : Reader Literal := fun cs =>
  some (ofToken (cs.takeWhile isNumeralChar), cs.dropWhile isNumeralChar)

/-- Reads a text behind its opening quote. -/
def readText : Reader Literal := fun cs =>
  match (Json.Cursor.start cs).readString with
  | .ok (s, c) => some (.text s, c.rest)
  | .error _ => none

/-- Reads a literal of at most the given depth. Its first character tells its kind. -/
def readWithin : Nat → Reader Literal
  | 0, _ => none
  | _ + 1, [] => none
  | depth + 1, c :: cs =>
    if c = '[' then
      (Reader.list (readWithin depth) ',' ']' cs).map fun r => (.list r.1, r.2)
    else if c = '\x7b' then
      (Reader.list (Reader.entry (readWithin depth)) ',' '\x7d' cs).map fun r => (.object r.1, r.2)
    else if c = '"' then readText cs
    else if Text.isNameStart c then
      (Reader.name (c :: cs)).map fun r => (.word r.1, r.2)
    else if c.isDigit ∨ c = '-' then readNumber (c :: cs)
    else none

/-- Reads a literal. -/
def read : Reader Literal := fun cs => readWithin cs.length cs

/-- The characters that may follow a literal. -/
def ends : List Char := [',', ')', ']', '\x7d']

end Literal

/-! ## What can be read of a value -/

/-- The number of a number of a document. -/
def JsonNumber.skeleton : JsonNumber → Literal
  | natural n => .integer n.toNat
  | negative n _ => .integer n.toInt
  | float x _ => .numeral (String.ofList x.numeral)

namespace Value

mutual

/-- What the literal of a value says. -/
def skeleton : Value → Literal
  | null => .word "null"
  | bool b => .word (if b then "true" else "false")
  | int n => .integer n.toInt
  | uint n => .integer n.toNat
  | int128 n => .integer n.val
  | uint128 n => .integer n.val
  | float x => .numeral (String.ofList x.numeral)
  | number n => n.skeleton
  | text s => .text s
  | enum name => .word name
  | date d => .text (String.ofList d.text)
  | time t => .text (String.ofList t.text)
  | localDateTime dt => .text (String.ofList dt.text)
  | dateTime dt => .text (String.ofList (dt.localTime.text ++ dt.offset.text))
  | list items => .list (skeletons items)
  | object entries => .object (entrySkeletons entries)

def skeletons : List Value → List Literal
  | [] => []
  | item :: rest => skeleton item :: skeletons rest

def entrySkeletons : List (String × Value) → List (String × Literal)
  | [] => []
  | (key, value) :: rest => (key, skeleton value) :: entrySkeletons rest

end

end Value

end TypedQuery
