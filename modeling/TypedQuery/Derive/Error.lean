import TypedQuery.Derive.Similarity

/-!
# `DeriveError` — why a shape cannot be derived

Every reason is a cause with the data its wording needs; the wording is in one place.
-/

set_option autoImplicit false

namespace TypedQuery.Derive

/-- What an item or a variant carries, where that is not supported. -/
inductive UnsupportedShape where
  /-- A variant with named fields. -/
  | named
  /-- A variant with fields without names, of which there is exactly one or some other number. -/
  | unnamed (single : Bool)
  | union

/-- A reason why no shape can be derived. -/
inductive DeriveError where
  /-- A keyword where an identifier is needed. -/
  | keyword (word : String)
  /-- Something else than what is needed at some place. -/
  | expected (what : String)
  /-- An attribute entry of no known name; the known ones. -/
  | unknownField (name : String) (known : List String)
  /-- An attribute entry given twice. -/
  | duplicateField (name : String)
  /-- An attribute value of the wrong kind. -/
  | unexpectedType (kind : String)
  /-- An attribute entry of the wrong form. -/
  | unexpectedFormat (form : String)
  /-- An attribute value of the right kind that makes no sense. -/
  | unknownValue (text : String)
  | unsupportedShape (shape : UnsupportedShape)
  | lifetimeParameter
  /-- A tuple struct that is not marked as a scalar. -/
  | tupleStruct

namespace DeriveError

/-- A name between backquotes. -/
def ticked (name : String) : String := "`" ++ name ++ "`"

/-- The wording of an unsupported shape. -/
def shapeMessage : UnsupportedShape → String
  | .named => "Unsupported shape `named fields`. Expected no fields."
  | .unnamed true => "Unsupported shape `one unnamed field`. Expected no fields."
  | .unnamed false => "Unsupported shape `unnamed fields`. Expected no fields."
  | .union =>
    "Unsupported shape `union`. Expected struct with named fields, unnamed fields, or no fields " ++
      "or enum with no fields."

/-- The wording of a reason. -/
def message : DeriveError → String
  | keyword word => "expected identifier, found keyword " ++ ticked word
  | expected what => "expected " ++ what
  | unknownField name known =>
    "Unknown field: " ++ ticked name ++
      match closest? name known with
      | some other => ". Did you mean " ++ ticked other ++ "?"
      | none =>
        ". Available values: " ++ ", ".intercalate ((known.mergeSort (· ≤ ·)).map ticked)
  | duplicateField name => "Duplicate field " ++ ticked name
  | unexpectedType kind => "Unexpected type " ++ ticked kind
  | unexpectedFormat form => "Unexpected meta-item format " ++ ticked form
  | unknownValue text => "Unknown value: " ++ ticked text
  | unsupportedShape shape => shapeMessage shape
  | lifetimeParameter => "Shape cannot be derived for types with lifetime parameters"
  | tupleStruct => "Shape can only be derived for tuple structs marked #[shape(scalar)]"

end DeriveError

end TypedQuery.Derive
