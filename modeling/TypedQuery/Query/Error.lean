import TypedQuery.Shape.TypeKey
import TypedQuery.Value.Literal

/-!
# `QueryError` — what can go wrong with a query

Every failure is a cause with the data its wording needs; the wording is in one place.
-/

set_option autoImplicit false

namespace TypedQuery

/-- Why a textual selector selects no member. -/
inductive SelectorFault where
  | empty
  | call
  | chained
  | notIdentifier
  /-- One identifier, but no member of the type. -/
  | unknownMember (type : TypeKey) (ident : String)

/-- The reason given for a refused selector. -/
def SelectorFault.reason : SelectorFault → String
  | empty => "empty selector"
  | call => "call expressions are not member accesses"
  | chained => "chained member access; only direct members of the root can be selected"
  | notIdentifier => "not a direct member access"
  | unknownMember type ident =>
    type.shortName ++ " has no selectable member named '" ++ ident ++ "'"

/-- A failure to attach metadata to a query or to compile it. -/
inductive QueryError where
  /-- A selector, as it was given, that selects no member. -/
  | unsupportedSelector (selector : String) (fault : SelectorFault)
  /-- A parameter name given twice for one field. -/
  | duplicateParameter (field : FieldId) (name : String)
  /-- A composite type inside itself, and the member names on the way to it. -/
  | cyclicShape (type : TypeKey) (path : List String)
  /-- A collection or optional type whose unwrapping never ends. A program that unwraps it gives no
      answer, this failure least of all; it stands for that where a value has to be given. -/
  | endlessWrapper (type : TypeKey)
  /-- A parameter without a literal. -/
  | encode (error : EncodeError)

/-- The kinds of failures. -/
inductive ErrorClass where
  /-- The selection or the parameters were misused. -/
  | usage
  /-- The described types cannot be compiled. -/
  | structural
  /-- A parameter value has no literal. -/
  | encode
  deriving DecidableEq

/-- The word for a kind of failure. -/
def ErrorClass.label : ErrorClass → String
  | usage => "usage"
  | structural => "structure"
  | encode => "encode"

namespace QueryError

/-- The names of a path, points between them. -/
def pathText (path : List String) : String := ".".intercalate path

/-- The wording of a failure. Nobody comes to read that of `endlessWrapper`. -/
def message : QueryError → String
  | unsupportedSelector selector fault =>
    "unsupported field selector '" ++ selector ++ "': " ++ fault.reason
  | duplicateParameter field name =>
    "duplicate parameter '" ++ name ++ "' on field " ++ field.text
  | cyclicShape type path =>
    "cyclic shape: type " ++ type.shortName ++ " re-entered at '" ++ pathText path ++ "'"
  | endlessWrapper type =>
    "endless shape: type " ++ type.shortName ++ " has no innermost type"
  | encode error => error.message

/-- The kind of a failure, with the cycles for `endlessWrapper`, which is never told. -/
def kind : QueryError → ErrorClass
  | unsupportedSelector .. | duplicateParameter .. => .usage
  | cyclicShape .. | endlessWrapper .. => .structural
  | encode _ => .encode

/-- The wording after the word for the kind. -/
def classifiedMessage (e : QueryError) : String := e.kind.label ++ ": " ++ e.message

end QueryError

end TypedQuery
