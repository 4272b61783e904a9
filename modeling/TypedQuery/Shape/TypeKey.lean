import TypedQuery.Text.Alphanumeric

/-!
# `TypeKey`, `FieldId` — the identities of types and of their members

A type is identified by a number; its qualified name is carried along for messages and takes no
part in equality. A member is identified by the type that declares it and by its name, so that
members of one name on two types are never confused.
-/

set_option autoImplicit false

namespace TypedQuery

/-! ## Short names -/

namespace ShortName

/-- Belongs to a qualified name: letters, numbers, underscores and the colons between the
    parts. -/
def isPathChar (c : Char) : Bool := Text.isAlphanumeric c || c == '_' || c == ':'

/-- What follows the last pair of colons, if there is a pair. -/
def afterLastPair : List Char → Option (List Char)
  | [] => none
  | c :: rest =>
    match afterLastPair rest with
    | some part => some part
    | none =>
      match c, rest with
      | ':', ':' :: part => some part
      | _, _ => none

/-- The last part of a qualified name. -/
def lastPart (path : List Char) : List Char := (afterLastPair path).getD path

/-- Shortens every qualified name of a text. `path` is the name read so far. -/
def shortenFrom (path : List Char) : List Char → List Char
  | [] => lastPart path
  | c :: rest =>
    if isPathChar c then shortenFrom (path ++ [c]) rest
    else lastPart path ++ c :: shortenFrom [] rest

/-- Shortens every qualified name of a text to its last part and keeps all that stands
    between them. -/
def shorten (cs : List Char) : List Char := shortenFrom [] cs

end ShortName

/-! ## Types -/

/-- The identity of a type, with its qualified name. -/
structure TypeKey where
  id : Nat
  name : String

namespace TypeKey

/-- Two keys are equal when their numbers are; the names take no part. -/
instance : BEq TypeKey := ⟨fun a b => a.id == b.id⟩

theorem beq_eq {a b : TypeKey} : (a == b) = (a.id == b.id) := rfl

theorem beq_iff {a b : TypeKey} : (a == b) = true ↔ a.id = b.id := by simp [beq_eq]

instance : EquivBEq TypeKey where
  rfl := by simp [beq_eq]
  symm := by simp only [beq_iff]; exact Eq.symm
  trans := by simp only [beq_iff]; exact fun h₁ h₂ => h₁.trans h₂

/-- The name with every qualified name in it shortened to its last part. -/
def shortName (k : TypeKey) : String := String.ofList (ShortName.shorten k.name.toList)

end TypeKey

/-! ## Members -/

/-- The identity of a declared member. -/
structure FieldId where
  owner : TypeKey
  name : String

namespace FieldId

/-- Equal owners and equal names. -/
instance : BEq FieldId := ⟨fun a b => a.owner == b.owner && a.name == b.name⟩

theorem beq_eq {a b : FieldId} : (a == b) = (a.owner.id == b.owner.id && a.name == b.name) := rfl

theorem beq_iff {a b : FieldId} :
    (a == b) = true ↔ a.owner.id = b.owner.id ∧ a.name = b.name := by simp [beq_eq]

instance : EquivBEq FieldId where
  rfl := by simp [beq_eq]
  symm := by simp only [beq_iff]; exact fun h => ⟨h.1.symm, h.2.symm⟩
  trans := by simp only [beq_iff]; exact fun h₁ h₂ => ⟨h₁.1.trans h₂.1, h₁.2.trans h₂.2⟩

/-- The owner's short name, a pair of colons and the member's name. -/
def text (f : FieldId) : String := f.owner.shortName ++ "::" ++ f.name

end FieldId

end TypedQuery
