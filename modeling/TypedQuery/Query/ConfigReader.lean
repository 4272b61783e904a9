import TypedQuery.Json.NumberReader
import TypedQuery.Json.StringReader
import TypedQuery.Query.Config
import TypedQuery.Text.SourceLiteral

/-!
# `QueryConfig.ofText` — reading rendering options from JSON

The options are an object with the single, optional field `field_case`, or an array with the
option in first place. The policy is a string, or an object with the policy as its key and null
as its value. Anything else is refused, with the position at which it was noticed.
-/

set_option autoImplicit false

namespace TypedQuery

open Json

namespace ConfigReader

/-- A well-formed value that is not what is expected here. -/
def misfit (found expected : String) : Cause :=
  .misfit ("invalid type: " ++ found ++ ", expected " ++ expected)

/-- What a number is called. -/
def numberFound : JsonNumber → String
  | .float x _ => "floating point `" ++ String.ofList x.numeral ++ "`"
  | n => "integer `" ++ String.ofList n.text ++ "`"

/-- What stands at a character that opens something else than is expected; the value is read as
    far as its name needs it. -/
def found (c : Cursor) (x : Char) : Except ReadError (String × Cursor) :=
  match x with
  | 'n' => (c.advance.readWord ['u', 'l', 'l']).map ("null", ·)
  | 't' => (c.advance.readWord ['r', 'u', 'e']).map ("boolean `true`", ·)
  | 'f' => (c.advance.readWord ['a', 'l', 's', 'e']).map ("boolean `false`", ·)
  | '"' => c.advance.readString.map fun (s, c) =>
    ("string " ++ String.ofList (Text.sourceQuoted s.toList), c)
  | '[' => .ok ("sequence", c)
  | '\x7b' => .ok ("map", c)
  | _ =>
    if x == '-' || x.isDigit then c.readNumber.map fun (n, c) => (numberFound n, c)
    else c.fail 1 .expectedValue

/-- Refuses what stands at a character. -/
def refuse {α : Type} (c : Cursor) (x : Char) (expected : String) : Except ReadError α := do
  let (what, c) ← found c x
  c.fail 0 (misfit what expected)

/-- The policy of a name. -/
def policy? : String → Option FieldCase
  | "camel" => some .camel
  | "lower_first" => some .lowerFirst
  | "preserve" => some .preserve
  | _ => none

/-- Reads the name of a policy after its opening quote. -/
def readPolicyName (c : Cursor) : Except ReadError (FieldCase × Cursor) := do
  let (name, c) ← c.readString
  match policy? name with
  | some policy => .ok (policy, c)
  | none =>
    c.fail 0 (.misfit ("unknown variant `" ++ name ++
      "`, expected one of `camel`, `lower_first`, `preserve`"))

/-- Reads the colon between a key and its value. -/
def readColon (c : Cursor) : Except ReadError Cursor :=
  let c := c.skipBlank
  match c.peek with
  | some ':' => .ok c.advance
  | some _ => c.fail 1 .expectedColon
  | none => c.fail 1 .endInObject

/-- Reads null. -/
def readNull (c : Cursor) : Except ReadError Cursor :=
  let c := c.skipBlank
  match c.peek with
  | none => c.fail 1 .endInValue
  | some 'n' => c.advance.readWord ['u', 'l', 'l']
  | some x => refuse c x "unit"

/-- Reads a policy written as an object, after its opening brace. -/
def readPolicyObject (c : Cursor) : Except ReadError (FieldCase × Cursor) := do
  let c := c.skipBlank
  let (policy, c) ← match c.peek with
    | none => c.fail 1 .endInObject
    | some '"' => readPolicyName c.advance
    | some '\x7d' => c.fail 1 .expectedValue
    | some _ => c.fail 1 .keyNotString
  let c ← readColon c
  let c ← readNull c
  let c := c.skipBlank
  match c.peek with
  | some '\x7d' => .ok (policy, c.advance)
  | some _ => c.fail 0 .expectedValue
  | none => c.fail 0 .endInObject

/-- Reads a policy. -/
def readPolicy (c : Cursor) : Except ReadError (FieldCase × Cursor) :=
  let c := c.skipBlank
  match c.peek with
  | some '"' => readPolicyName c.advance
  | some '\x7b' => readPolicyObject c.advance
  | some _ => c.fail 1 .expectedValue
  | none => c.fail 1 .endInValue

/-- Fails with a misfit of an object's key. It is noticed when the object is left, which is tried
    first: past white space and, if it is there, past the closing brace. -/
def refuseKey {α : Type} (c : Cursor) (text : String) : Except ReadError α :=
  let c := c.skipBlank
  let c := if c.peek == some '\x7d' then c.advance else c
  c.fail 0 (.misfit text)

/-- Reads the entries of the object up to its end; `read` is the policy read so far. -/
def readEntries (c : Cursor) (first : Bool) (read : Option FieldCase) :
    Nat → Except ReadError (Option FieldCase × Cursor)
  | 0 => c.fail 0 .endInObject
  | fuel + 1 =>
    let c := c.skipBlank
    match c.peek with
    | none => c.fail 1 .endInObject
    | some '\x7d' => .ok (read, c.advance)
    | some x =>
      if !first && x != ',' then c.fail 1 .expectedObjectCommaOrEnd
      else
        let c := if first then c else c.advance.skipBlank
        match c.peek with
        | some '"' => do
          let (key, c) ← c.advance.readString
          if key != "field_case" then
            refuseKey c ("unknown field `" ++ key ++ "`, expected `field_case`")
          else if read.isSome then refuseKey c "duplicate field `field_case`"
          else
            let c ← readColon c
            let (policy, c) ← readPolicy c
            readEntries c false (some policy) fuel
        | some '\x7d' => c.fail 1 .trailingComma
        | some _ => c.fail 1 .keyNotString
        | none => c.fail 1 .endInValue

/-- Reads the items of the array up to its end: at most one. -/
def readItems (c : Cursor) : Except ReadError (Option FieldCase × Cursor) := do
  let c := c.skipBlank
  if c.peek.isNone then c.fail 1 .endInList
  else
    let (policy, c) ←
      if c.peek == some ']' then .ok (none, c)
      else (readPolicy c).map fun (policy, c) => (some policy, c)
    let c := c.skipBlank
    match c.peek with
    | none => c.fail 1 .endInList
    | some ']' => .ok (policy, c.advance)
    | some ',' =>
      let c := c.advance.skipBlank
      if c.peek == some ']' then c.fail 1 .trailingComma else c.fail 1 .trailingCharacters
    | some _ => c.fail 1 .trailingCharacters

end ConfigReader

/-- Reads rendering options. A policy that is not given is the default one. -/
def QueryConfig.ofText (text : String) : Except ReadError QueryConfig := do
  let c := (Cursor.start text.toList).skipBlank
  let (policy, c) ← match c.peek with
    | none => c.fail 1 .endInValue
    | some '\x7b' => ConfigReader.readEntries c.advance true none (c.rest.length + 1)
    | some '[' => ConfigReader.readItems c.advance
    | some x => ConfigReader.refuse c x "struct QueryConfig"
  let c := c.skipBlank
  if c.rest.isEmpty then .ok ⟨policy.getD QueryConfig.default.fieldCase⟩
  else c.fail 1 .trailingCharacters

end TypedQuery
