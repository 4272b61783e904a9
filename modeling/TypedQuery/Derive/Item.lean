import TypedQuery.Derive.Error
import TypedQuery.Derive.Token

/-!
# `Item` — a declared item before its shape is derived

An item is a struct, a union or an enum with its generics and the attributes that were put on
it. Types, bounds, predicates and visibilities are kept as tokens.
-/

set_option autoImplicit false

namespace TypedQuery.Derive

/-- The value of an attribute entry. -/
inductive MetaValue where
  /-- A bare word, without a value. -/
  | word
  /-- Entries in parentheses. -/
  | list
  | text (s : String)
  | bool (b : Bool)
  /-- A value of a kind that no option takes. -/
  | other (kind : String)

/-- An entry of an attribute list. -/
inductive MetaItem where
  | named (name : String) (value : MetaValue)
  /-- What is no entry, and why. -/
  | invalid (error : DeriveError)

/-- A generic parameter; the attributes in front of it stay with it. -/
inductive GenericParam where
  | lifetime (tokens : List Token)
  | type (attributes : List Token) (name : String) (bounds : List Token)
    (fallback : Option (List Token))
  | const (attributes : List Token) (name : String) (type : List Token)
    (fallback : Option (List Token))

/-- A declared field. The fields of tuples have no use for their names. -/
structure Field where
  ident : String
  type : List Token
  attributes : List (List MetaItem)

/-- What a variant carries. -/
inductive VariantStyle where
  | unit
  | tuple
  | named
  deriving DecidableEq

/-- A declared variant. -/
structure Variant where
  ident : String
  style : VariantStyle
  fields : List Field
  attributes : List (List MetaItem)

/-- The body of an item. -/
inductive Body where
  | named (fields : List Field)
  | tuple (fields : List Field)
  | unit
  | union (fields : List Field)
  | enum (variants : List Variant)

/-- A declared item. -/
structure Item where
  ident : String
  visibility : List Token
  generics : List GenericParam
  predicates : List (List Token)
  attributes : List (List MetaItem)
  body : Body

namespace GenericParam

/-- Splits a declaration at the equals sign that stands outside all angle brackets. -/
def splitFallback (depth : Nat) : List Token → List Token × Option (List Token)
  | [] => ([], none)
  | .atom "=" :: rest =>
    if depth = 0 then ([], some rest)
    else
      let (before, fallback) := splitFallback depth rest
      (.atom "=" :: before, fallback)
  | t :: rest =>
    let depth := match t with
      | .atom "<" => depth + 1
      | .atom ">" => depth - 1
      | _ => depth
    let (before, fallback) := splitFallback depth rest
    (t :: before, fallback)

/-- What stands after a colon, if one opens the tokens. -/
def afterColon : List Token → List Token
  | .atom ":" :: rest => rest
  | tokens => tokens

/-- Splits off the attributes at the front. -/
def splitAttributes : List Token → List Token × List Token
  | .atom "#" :: .group .bracket content :: rest =>
    let (attributes, rest) := splitAttributes rest
    (.atom "#" :: .group .bracket content :: attributes, rest)
  | tokens => ([], tokens)

/-- The generic parameter of a declaration. -/
def ofTokens? (tokens : List Token) : Option GenericParam :=
  let (attributes, tokens) := splitAttributes tokens
  match tokens with
  | .atom "const" :: .atom name :: rest =>
    let (declared, fallback) := splitFallback 0 rest
    some (.const attributes name (afterColon declared) fallback)
  | .atom name :: rest =>
    if name.startsWith "'" then some (.lifetime (attributes ++ .atom name :: rest))
    else
      let (bounds, fallback) := splitFallback 0 rest
      some (.type attributes name (afterColon bounds) fallback)
  | _ => none

/-- Is a lifetime parameter. -/
def isLifetime : GenericParam → Bool
  | lifetime _ => true
  | _ => false

/-- The name of a type parameter. -/
def typeName? : GenericParam → Option String
  | type _ name _ _ => some name
  | _ => none

end GenericParam

end TypedQuery.Derive
