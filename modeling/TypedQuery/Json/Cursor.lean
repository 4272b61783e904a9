/-!
# `Cursor` — a place in a JSON text, and what can be wrong there

Reading keeps the rest of the text and the line and column reached, the column counted in bytes
of the encoded text. An error is a cause with a position, which lies at the cursor or a few bytes
beyond it.
-/

set_option autoImplicit false

namespace TypedQuery.Json

/-- A line, counted from one, and the bytes read of it. -/
structure Position where
  line : Nat
  column : Nat
  deriving DecidableEq

namespace Position

/-- The start of a text. -/
def start : Position := ⟨1, 0⟩

/-- The position after a character. -/
def after (p : Position) (c : Char) : Position :=
  if c == '\n' then ⟨p.line + 1, 0⟩ else ⟨p.line, p.column + c.utf8Size⟩

/-- The position some bytes into a text, at most at its end. -/
def afterBytes (p : Position) : Nat → List Char → Position
  | 0, _ => p
  | _, [] => p
  | n, c :: rest =>
    if n < c.utf8Size then ⟨p.line, p.column + n⟩
    else (p.after c).afterBytes (n - c.utf8Size) rest

end Position

/-- What is wrong with a JSON text. -/
inductive Cause where
  | endInList
  | endInObject
  | endInString
  | endInValue
  | expectedColon
  | expectedListCommaOrEnd
  | expectedObjectCommaOrEnd
  | expectedIdent
  | expectedValue
  | invalidEscape
  | invalidNumber
  | numberOutOfRange
  | controlCharacter
  | keyNotString
  | loneSurrogate
  | trailingComma
  | trailingCharacters
  | endOfHexEscape
  | tooDeep
  /-- Well-formed text that does not fit what is read, in the reader's own words. -/
  | misfit (text : String)

/-- The kinds of causes. -/
inductive Category where
  | malformed
  | misfit
  | endOfText
  deriving DecidableEq

namespace Cause

/-- The wording of a cause. -/
def message : Cause → String
  | endInList => "EOF while parsing a list"
  | endInObject => "EOF while parsing an object"
  | endInString => "EOF while parsing a string"
  | endInValue => "EOF while parsing a value"
  | expectedColon => "expected `:`"
  | expectedListCommaOrEnd => "expected `,` or `]`"
  | expectedObjectCommaOrEnd => "expected `,` or `\x7d`"
  | expectedIdent => "expected ident"
  | expectedValue => "expected value"
  | invalidEscape => "invalid escape"
  | invalidNumber => "invalid number"
  | numberOutOfRange => "number out of range"
  | controlCharacter => "control character (\\u0000-\\u001F) found while parsing a string"
  | keyNotString => "key must be a string"
  | loneSurrogate => "lone leading surrogate in hex escape"
  | trailingComma => "trailing comma"
  | trailingCharacters => "trailing characters"
  | endOfHexEscape => "unexpected end of hex escape"
  | tooDeep => "recursion limit exceeded"
  | misfit text => text

/-- The kind of a cause. -/
def category : Cause → Category
  | endInList | endInObject | endInString | endInValue => .endOfText
  | misfit _ => .misfit
  | _ => .malformed

end Cause

/-- A cause and where it was found. -/
structure ReadError where
  cause : Cause
  position : Position

/-- The wording of the cause, with its line and column. -/
def ReadError.message (e : ReadError) : String :=
  e.cause.message ++ " at line " ++ toString e.position.line ++ " column " ++
    toString e.position.column

/-- The rest of a text and the position reached. -/
structure Cursor where
  rest : List Char
  position : Position

namespace Cursor

/-- The start of a text. -/
def start (text : List Char) : Cursor := ⟨text, .start⟩

/-- The next character, if there is one. -/
def peek (c : Cursor) : Option Char := c.rest.head?

/-- One character further. -/
def advance (c : Cursor) : Cursor :=
  match c.rest with
  | [] => c
  | x :: rest => ⟨rest, c.position.after x⟩

/-- Past the given number of characters. -/
def advanceBy : Nat → Cursor → Cursor
  | 0, c => c
  | n + 1, c => advanceBy n c.advance

/-- Past white space. -/
def skipBlank (c : Cursor) : Cursor :=
  advanceBy (c.rest.takeWhile fun x => x == ' ' || x == '\n' || x == '\t' || x == '\r').length c

/-- Fails the given number of bytes beyond the cursor. -/
def fail {α : Type} (c : Cursor) (bytes : Nat) (cause : Cause) : Except ReadError α :=
  .error ⟨cause, c.position.afterBytes bytes c.rest⟩

/-- Reads the given characters, one after the other. -/
def readWord (c : Cursor) : List Char → Except ReadError Cursor
  | [] => .ok c
  | x :: rest =>
    match c.peek with
    | none => c.fail 0 .endInValue
    | some y => if x == y then c.advance.readWord rest else c.fail 1 .expectedIdent

end Cursor

end TypedQuery.Json
