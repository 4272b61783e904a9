import TypedQuery.Json.NumberReader
import TypedQuery.Json.StringReader
import TypedQuery.Value.Basic

/-!
# `Document` — JSON documents and the values they stand for

The entries of an object are kept sorted by their keys, and the last entry of a repeated key
counts.
-/

set_option autoImplicit false

namespace TypedQuery.Json

/-- A JSON document. -/
inductive Document where
  | null
  | bool (b : Bool)
  | number (n : JsonNumber)
  | string (s : String)
  | array (items : List Document)
  | object (entries : List (String × Document))

namespace Document

/-- Inserts an entry where its key belongs; a present key takes the new document. -/
def insertSorted (key : String) (value : Document) :
    List (String × Document) → List (String × Document)
  | [] => [(key, value)]
  | (k, v) :: rest =>
    if key == k then (key, value) :: rest
    else if key < k then (key, value) :: (k, v) :: rest
    else (k, v) :: insertSorted key value rest

/-- The object of the given entries. -/
def ofEntries (entries : List (String × Document)) : Document :=
  .object (entries.foldl (fun sorted e => insertSorted e.1 e.2 sorted) [])

mutual

/-- The parameter value of a document. -/
def toValue : Document → Value
  | .null => .null
  | .bool b => .bool b
  | .number n => .number n
  | .string s => .text s
  | .array items => .list (toValues items)
  | .object entries => .ofEntries (toEntries entries)

/-- The values of the items of an array. -/
def toValues : List Document → List Value
  | [] => []
  | item :: rest => toValue item :: toValues rest

/-- The entries of an object, with the values of their documents. -/
def toEntries : List (String × Document) → List (String × Value)
  | [] => []
  | (key, item) :: rest => (key, toValue item) :: toEntries rest

end

end Document

namespace Cursor

/-! ## Reading

Nesting is limited, and every round of reading takes at least one character, so that the number
of characters bounds the rounds.
-/

mutual

/-- Reads a document with at most `depth` levels of nesting. -/
def readDocument (c : Cursor) (depth : Nat) : Nat → Except ReadError (Document × Cursor)
  | 0 => c.fail 0 .endInValue
  | fuel + 1 =>
    let c := c.skipBlank
    match c.peek with
    | none => c.fail 1 .endInValue
    | some 'n' => do
      let c ← c.advance.readWord ['u', 'l', 'l']
      .ok (.null, c)
    | some 't' => do
      let c ← c.advance.readWord ['r', 'u', 'e']
      .ok (.bool true, c)
    | some 'f' => do
      let c ← c.advance.readWord ['a', 'l', 's', 'e']
      .ok (.bool false, c)
    | some '"' => do
      let (s, c) ← c.advance.readString
      .ok (.string s, c)
    | some '[' =>
      if depth ≤ 1 then c.fail 1 .tooDeep
      else do
        let (items, c) ← readItems c.advance (depth - 1) true [] fuel
        .ok (.array items, c)
    | some '\x7b' =>
      if depth ≤ 1 then c.fail 1 .tooDeep
      else do
        let (entries, c) ← readEntries c.advance (depth - 1) true [] fuel
        .ok (.ofEntries entries, c)
    | some x =>
      if x == '-' || x.isDigit then do
        let (n, c) ← c.readNumber
        .ok (.number n, c)
      else c.fail 1 .expectedValue

/-- Reads the items of an array up to its end; `read` holds those already read, the last one
    first. -/
def readItems (c : Cursor) (depth : Nat) (first : Bool) (read : List Document) :
    Nat → Except ReadError (List Document × Cursor)
  | 0 => c.fail 0 .endInList
  | fuel + 1 =>
    let c := c.skipBlank
    match c.peek with
    | none => c.fail 1 .endInList
    | some ']' => .ok (read.reverse, c.advance)
    | some x =>
      if first then do
        let (item, c) ← readDocument c depth fuel
        readItems c depth false (item :: read) fuel
      else if x == ',' then
        let c := c.advance.skipBlank
        if c.peek == some ']' then c.fail 1 .trailingComma
        else do
          let (item, c) ← readDocument c depth fuel
          readItems c depth false (item :: read) fuel
      else c.fail 1 .expectedListCommaOrEnd

/-- Reads the entries of an object up to its end; `read` holds those already read, the last one
    first. -/
def readEntries (c : Cursor) (depth : Nat) (first : Bool) (read : List (String × Document)) :
    Nat → Except ReadError (List (String × Document) × Cursor)
  | 0 => c.fail 0 .endInObject
  | fuel + 1 =>
    let c := c.skipBlank
    match c.peek with
    | none => c.fail 1 .endInObject
    | some '\x7d' => .ok (read.reverse, c.advance)
    | some x =>
      if !first && x != ',' then c.fail 1 .expectedObjectCommaOrEnd
      else
        let c := if first then c else c.advance.skipBlank
        match c.peek with
        | some '"' => do
          let (key, c) ← c.advance.readString
          let c := c.skipBlank
          match c.peek with
          | some ':' => do
            let (item, c) ← readDocument c.advance depth fuel
            readEntries c depth false ((key, item) :: read) fuel
          | some _ => c.fail 1 .expectedColon
          | none => c.fail 1 .endInObject
        | some '\x7d' => c.fail 1 .trailingComma
        | some _ => c.fail 1 .keyNotString
        | none => c.fail 1 .endInValue

end

end Cursor

/-- How deep a document may be nested. -/
def maxDepth : Nat := 128

/-- The document of a text, white space around it allowed. -/
def Document.ofText (text : String) : Except ReadError Document := do
  let cs := text.toList
  let (document, c) ← (Cursor.start cs).readDocument maxDepth (2 * cs.length + 2)
  let c := c.skipBlank
  if c.rest.isEmpty then .ok document else c.fail 1 .trailingCharacters

end TypedQuery.Json
