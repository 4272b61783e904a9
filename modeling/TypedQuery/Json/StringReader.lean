import TypedQuery.Json.Cursor

/-!
# `Cursor.readString` — the text of a JSON string

Short escapes, code escapes of four hexadecimal digits, and pairs of code escapes for characters
beyond the first plane. Half a pair is refused, and so is a bare control character.
-/

set_option autoImplicit false

namespace TypedQuery.Json.Cursor

/-- The value of a hexadecimal digit. -/
def hexValue? (c : Char) : Option Nat :=
  if '0' ≤ c && c ≤ '9' then some (c.toNat - '0'.toNat)
  else if 'a' ≤ c && c ≤ 'f' then some (c.toNat - 'a'.toNat + 10)
  else if 'A' ≤ c && c ≤ 'F' then some (c.toNat - 'A'.toNat + 10)
  else none

/-- The bytes of some characters. -/
def bytes (cs : List Char) : Nat := cs.foldl (fun n x => n + x.utf8Size) 0

/-- Reads four hexadecimal digits. -/
def readHex4 (c : Cursor) : Except ReadError (Nat × Cursor) :=
  if bytes (c.rest.take 4) < 4 then c.fail 4 .endInString
  else match (c.rest.take 4).map hexValue? with
    | [some a, some b, some d, some e] =>
      .ok (((a * 16 + b) * 16 + d) * 16 + e, c.advanceBy 4)
    | _ => c.fail 4 .invalidEscape

/-- Reads the given character of a code escape that must follow. -/
def readPairMark (c : Cursor) (mark : Char) : Except ReadError Cursor :=
  match c.peek with
  | none => c.fail 0 .endInString
  | some x => if x == mark then .ok c.advance else c.fail 1 .endOfHexEscape

/-- Reads a code escape after its letter. -/
def readCodeEscape (c : Cursor) : Except ReadError (Char × Cursor) := do
  let (n, c) ← c.readHex4
  if 0xDC00 ≤ n && n ≤ 0xDFFF then c.fail 0 .loneSurrogate
  else if n < 0xD800 || 0xDBFF < n then .ok (Char.ofNat n, c)
  else
    let c ← c.readPairMark '\\'
    let c ← c.readPairMark 'u'
    let (low, c) ← c.readHex4
    if low < 0xDC00 || 0xDFFF < low then c.fail 0 .loneSurrogate
    else .ok (Char.ofNat ((n - 0xD800) * 0x400 + (low - 0xDC00) + 0x10000), c)

/-- Reads an escape after its reverse solidus. -/
def readEscape (c : Cursor) : Except ReadError (Char × Cursor) :=
  match c.peek with
  | none => c.fail 0 .endInString
  | some '"' => .ok ('"', c.advance)
  | some '\\' => .ok ('\\', c.advance)
  | some '/' => .ok ('/', c.advance)
  | some 'b' => .ok ('\x08', c.advance)
  | some 'f' => .ok ('\x0c', c.advance)
  | some 'n' => .ok ('\n', c.advance)
  | some 'r' => .ok ('\r', c.advance)
  | some 't' => .ok ('\t', c.advance)
  | some 'u' => c.advance.readCodeEscape
  | some _ => c.fail 1 .invalidEscape

/-- Reads the rest of a string, of at most `fuel` characters and escapes; `read` holds what was
    read of it, the last character first. -/
def readStringWithin (c : Cursor) (read : List Char) : Nat → Except ReadError (String × Cursor)
  | 0 => c.fail 0 .endInString
  | fuel + 1 =>
    match c.peek with
    | none => c.fail 0 .endInString
    | some '"' => .ok (String.ofList read.reverse, c.advance)
    | some '\\' => do
      let (x, c) ← c.advance.readEscape
      readStringWithin c (x :: read) fuel
    | some x =>
      if x.toNat < 0x20 then c.fail 1 .controlCharacter
      else readStringWithin c.advance (x :: read) fuel

/-- Reads a string after its opening quote. -/
def readString (c : Cursor) : Except ReadError (String × Cursor) :=
  c.readStringWithin [] (c.rest.length + 1)

end TypedQuery.Json.Cursor
