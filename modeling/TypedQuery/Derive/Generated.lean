import TypedQuery.Derive.Attribute

/-!
# `Generated` — what is generated for an item

A composite item gets a table with one selector per field, and a description with one member per
field. A leaf gets a description without members; the variants of an enum are moreover mapped to
their literals. Fields that are left out appear nowhere.
-/

set_option autoImplicit false

namespace TypedQuery.Derive

/-- A name without the mark of a raw identifier. -/
def plainName (ident : String) : String := String.ofList (Text.unmarked ident.toList)

/-- A member of the generated description. -/
structure MemberCode where
  name : String
  type : List Token
  rename : Option String

/-- What a generated composite consists of. -/
structure CompositeCode where
  /-- The fields of the table, by the identifiers they are declared with. -/
  table : List String
  /-- The members of the description. -/
  members : List MemberCode
  /-- The initialisers of the table: the identifier of a field and the name of its member. -/
  initialisers : List (String × String)

/-- An arm of the mapping of variants to their literals. -/
structure Arm where
  variant : String
  literal : String

/-- What is generated for an item. -/
inductive Generated where
  | composite (code : CompositeCode)
  | scalar
  /-- A leaf with the mapping of its variants. -/
  | enum (arms : List Arm)

/-- The fields that are not left out, with their options. -/
def selectedFields (fields : List Field) : List (Field × FieldOptions) :=
  (fields.map fun field => (field, field.options.options)).filter fun selected => !selected.2.skip

/-- The code of a composite of the given fields. -/
def CompositeCode.ofFields (fields : List Field) : CompositeCode :=
  let selected := selectedFields fields
  { table := selected.map fun (field, _) => field.ident
    members := selected.map fun (field, options) =>
      ⟨plainName field.ident, field.type, options.rename⟩
    initialisers := selected.map fun (field, _) => (field.ident, plainName field.ident) }

/-- The arm of a variant: its own literal, or else its name. -/
def Arm.ofVariant (variant : Variant) : Arm :=
  ⟨variant.ident, variant.options.options.rename.getD (plainName variant.ident)⟩

/-! ## What can be derived -/

/-- What a variant carries, if that is not supported. -/
def Variant.unsupported? (v : Variant) : Option DeriveError :=
  match v.style with
  | .unit => none
  | .named => some (.unsupportedShape .named)
  | .tuple => some (.unsupportedShape (.unnamed (v.fields.length == 1)))

/-- The errors of an item's shape. -/
def Body.shapeErrors : Body → List DeriveError
  | .union _ => [.unsupportedShape .union]
  | .enum variants => variants.filterMap (·.unsupported?)
  | _ => []

/-- The errors of the attributes in an item's body. -/
def Body.attributeErrors : Body → List DeriveError
  | .named fields | .tuple fields => fields.flatMap (·.options.errors)
  | .enum variants => variants.flatMap (·.options.errors)
  | .unit | .union _ => []

/-- The errors of a body: those of its shape, or if there are none those of its attributes. -/
def Body.errors (body : Body) : List DeriveError :=
  if body.shapeErrors.isEmpty then body.attributeErrors else body.shapeErrors

namespace Item

/-- The errors of an item's attributes and of its body. -/
def errors (item : Item) : List DeriveError := item.options.errors ++ item.body.errors

/-- What is generated for an item, or why nothing is. -/
def derive (item : Item) : Except (List DeriveError) Generated :=
  if !item.errors.isEmpty then .error item.errors
  else if item.generics.any (·.isLifetime) then .error [.lifetimeParameter]
  else match item.body with
    | .enum variants => .ok (.enum (variants.map Arm.ofVariant))
    | .named fields =>
      if item.options.options.scalar then .ok .scalar
      else .ok (.composite (.ofFields fields))
    | .unit =>
      if item.options.options.scalar then .ok .scalar else .ok (.composite (.ofFields []))
    | .tuple _ =>
      if item.options.options.scalar then .ok .scalar else .error [.tupleStruct]
    | .union _ => .error [.unsupportedShape .union]

end Item

end TypedQuery.Derive
