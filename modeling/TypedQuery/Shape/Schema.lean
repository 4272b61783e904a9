import TypedQuery.Shape.TypeKey

/-!
# `Schema` — a finite family of described types

Every type of a family has a key of its own and a descriptor. For most types the descriptor
carries that same key; a transparent pointer has the descriptor of what it points to, so the two
keys differ. Types refer to each other by their place in the family, which is how a type can
refer to itself.
-/

set_option autoImplicit false

namespace TypedQuery

/-- A declared member of a composite type, in a family of `n` types. -/
structure Member (n : Nat) where
  id : FieldId
  /-- The field name to use instead of a converted one. -/
  rename : Option String
  type : Fin n

/-- The declared name. -/
def Member.name {n : Nat} (m : Member n) : String := m.id.name

/-- How a type is built. -/
inductive Form (n : Nat) where
  /-- A leaf. -/
  | scalar
  /-- A sequence. -/
  | collection (of : Fin n)
  /-- A value that may be absent. -/
  | optional (of : Fin n)
  /-- Members, in declaration order. -/
  | composite (members : List (Member n))

/-- What is known of a type: its descriptive key and its form. -/
structure Descriptor (n : Nat) where
  key : TypeKey
  form : Form n

namespace Descriptor

variable {n : Nat}

/-- The members, none unless the type is composite. -/
def members (d : Descriptor n) : List (Member n) :=
  match d.form with
  | .composite members => members
  | _ => []

/-- The first member of a declared name. -/
def member? (d : Descriptor n) (name : String) : Option (Member n) :=
  d.members.find? (·.name == name)

end Descriptor

/-- A type of a family: its own key and its descriptor. -/
structure TypeInfo (n : Nat) where
  key : TypeKey
  descriptor : Descriptor n

/-- A finite family of types. -/
structure Schema where
  size : Nat
  type : Fin size → TypeInfo size

namespace Schema

/-- The place of a type in the family. -/
abbrev Ref (S : Schema) : Type := Fin S.size

/-- The own key of a type. -/
def typeKey (S : Schema) (i : S.Ref) : TypeKey := (S.type i).key

/-- The descriptor of a type. -/
def descriptor (S : Schema) (i : S.Ref) : Descriptor S.size := (S.type i).descriptor

/-- The key of a type's descriptor. -/
def key (S : Schema) (i : S.Ref) : TypeKey := (S.descriptor i).key

end Schema

/-! ## Declarations

Families are declared with pointers as a form of their own; the family that results has them
resolved.
-/

/-- How a type is declared. -/
inductive Declaration (n : Nat) where
  | scalar
  | collection (of : Fin n)
  | optional (of : Fin n)
  /-- Stands for another type in all but its own key. -/
  | pointer (target : Fin n)
  | composite (members : List (Member n))

namespace Declaration

variable {n : Nat}

/-- The descriptor of a declared type, if its pointers end within `fuel` steps. -/
def resolve (declared : Fin n → TypeKey × Declaration n) : Nat → Fin n → Option (Descriptor n)
  | 0, _ => none
  | fuel + 1, i =>
    match declared i with
    | (key, .scalar) => some ⟨key, .scalar⟩
    | (key, .collection j) => some ⟨key, .collection j⟩
    | (key, .optional j) => some ⟨key, .optional j⟩
    | (key, .composite members) => some ⟨key, .composite members⟩
    | (_, .pointer j) => resolve declared fuel j

end Declaration

/-- The family of the declared types. A pointer that only leads to pointers, for ever, is taken
    for a leaf. -/
def Schema.ofDeclarations {n : Nat} (declared : Fin n → TypeKey × Declaration n) : Schema where
  size := n
  type i :=
    { key := (declared i).1
      descriptor := (Declaration.resolve declared n i).getD ⟨(declared i).1, .scalar⟩ }

end TypedQuery
