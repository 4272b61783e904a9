import TypedQuery.Text.Name
import TypedQuery.Text.Quoted
import TypedQuery.Value.Basic

/-!
# `Value.literal` — the literal of a value

Numbers, truth values and null are bare words, enum values are bare names, text and times are
quoted, lists stand in brackets and input objects in braces with bare keys. A value has no
literal when somewhere in it a float is not finite, a name is no name, or a date-time has no
internet text form; the first such place, reading from left to right, gives the error.
-/

set_option autoImplicit false

namespace TypedQuery

/-- Why a value has no literal. -/
inductive EncodeError where
  | nonFiniteFloat
  | invalidEnumName (name : String)
  | invalidObjectKey (key : String)
  | dateTime (component : DateTime.Component)
  /-- An encoder's own reason, in its own words. -/
  | custom (text : String)
  deriving DecidableEq

/-- The wording of an encoding error. -/
def EncodeError.message : EncodeError → String
  | nonFiniteFloat => "float literal must be finite"
  | invalidEnumName name => "'" ++ name ++ "' is not a valid enum literal"
  | invalidObjectKey key => "'" ++ key ++ "' is not a valid input object field name"
  | dateTime component =>
    "date-time encoding failed: The " ++ component.label ++
      " component cannot be formatted into the requested format."
  | custom text => text

namespace Value

/-- A text between quotes that needs no escapes. -/
def inQuotes (cs : List Char) : List Char := '"' :: cs ++ ['"']

/-- The literal of an integer. -/
def intLiteral (n : Int) : List Char :=
  if n < 0 then '-' :: Nat.toDigits 10 n.natAbs else Nat.toDigits 10 n.natAbs

/-- The literal of a truth value. -/
def boolLiteral (b : Bool) : List Char := if b then ['t', 'r', 'u', 'e'] else ['f', 'a', 'l', 's', 'e']

mutual

/-- Appends the literal of a value to what is already written. -/
def write (out : List Char) : Value → Except EncodeError (List Char)
  | .null => .ok (out ++ ['n', 'u', 'l', 'l'])
  | .bool b => .ok (out ++ boolLiteral b)
  | .int n => .ok (out ++ intLiteral n.toInt)
  | .uint n => .ok (out ++ intLiteral n.toNat)
  | .int128 n => .ok (out ++ intLiteral n.val)
  | .uint128 n => .ok (out ++ intLiteral n.val)
  | .float x => if x.isFinite then .ok (out ++ x.numeral) else .error .nonFiniteFloat
  | .number n => .ok (out ++ n.text)
  | .text s => .ok (out ++ Text.quoted s.toList)
  | .enum name =>
    if Text.isName name.toList then .ok (out ++ name.toList) else .error (.invalidEnumName name)
  | .date d => .ok (out ++ inQuotes d.text)
  | .time t => .ok (out ++ inQuotes t.text)
  | .localDateTime dt => .ok (out ++ inQuotes dt.text)
  | .dateTime dt =>
    match dt.internetText with
    | .ok form => .ok (out ++ inQuotes form)
    | .error component => .error (.dateTime component)
  | .list items => do
    let out ← writeItems (out ++ ['[']) true items
    .ok (out ++ [']'])
  | .object entries => do
    let out ← writeEntries (out ++ ['\x7b']) true entries
    .ok (out ++ ['\x7d'])

/-- Appends the literals of list items, a comma before each but the first. -/
def writeItems (out : List Char) (first : Bool) : List Value → Except EncodeError (List Char)
  | [] => .ok out
  | item :: rest => do
    let out ← write (if first then out else out ++ [',']) item
    writeItems out false rest

/-- Appends the entries of an object, a comma before each but the first. A key is checked
    before its value. -/
def writeEntries (out : List Char) (first : Bool) :
    List (String × Value) → Except EncodeError (List Char)
  | [] => .ok out
  | (key, value) :: rest =>
    if Text.isName key.toList then do
      let out ← write ((if first then out else out ++ [',']) ++ key.toList ++ [':']) value
      writeEntries out false rest
    else .error (.invalidObjectKey key)

end

/-- The literal of a value. -/
def literal (value : Value) : Except EncodeError String :=
  (value.write []).map String.ofList

end Value

end TypedQuery
