import TypedQuery.Shape.Registry
import TypedQuery.Shape.Schema

/-!
# `classify` — leaf or composite

A registered type is a leaf, whatever its form. Otherwise an intrinsic scalar is a leaf,
collections and optionals are unwrapped and classified again, and a composite is one that is
expanded. The unwrapping of a finite family either ends or visits some type twice; in the second
case there is no classification.
-/

set_option autoImplicit false

namespace TypedQuery

/-- What a type is to a selection. -/
inductive Classification (n : Nat) where
  /-- A leaf, with the key that ended the unwrapping. -/
  | scalar (key : TypeKey)
  /-- A composite type, unwrapped. -/
  | composite (type : Fin n)

namespace Schema

/-- The classification of a type, if unwrapping ends within `fuel` types. -/
def classifyWithin (S : Schema) (registry : Registry) :
    Nat → S.Ref → Option (Classification S.size)
  | 0, _ => none
  | fuel + 1, i =>
    if registry.contains (S.key i) then some (.scalar (S.key i))
    else match (S.descriptor i).form with
      | .scalar => some (.scalar (S.key i))
      | .collection j => S.classifyWithin registry fuel j
      | .optional j => S.classifyWithin registry fuel j
      | .composite _ => some (.composite i)

/-- The classification of a type against a registry; none when its wrappers never end. As many
    steps as the family has types are enough, since a chain that ends visits no type twice. -/
def classify (S : Schema) (registry : Registry) (i : S.Ref) : Option (Classification S.size) :=
  S.classifyWithin registry S.size i

end Schema

end TypedQuery
