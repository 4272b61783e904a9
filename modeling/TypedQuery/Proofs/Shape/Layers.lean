import Mathlib.Data.List.Forall2
import Mathlib.Logic.Relation
import TypedQuery.Proofs.Shape.Unwrapping

/-!
# `Covers`, `Rewraps` — types in layers, and one family laid over another

A layer around a type is a collection or an optional of it whose own key is not registered, or a
pointer to it, which has the very descriptor of its target. `Covers` is any number of layers.

`Rewraps` relates two families that differ in layers alone: each type of the first has its place in
the second, under the same key and in the same form, and wherever a type refers to another, as the
type of a member or as what a wrapper holds, the second family may refer to a type that covers it.

Classifying takes layers off and sees nothing else of them, so **a type of the first family and
anything that covers it in the second are classified alike** (`rel_classify_of_covers`): leaves by
the same key, composites that stand for each other, and without end both or neither.
-/

set_option autoImplicit false

namespace TypedQuery.Schema

variable {S S' : Schema} {registry : Registry}

/-! ## Layers -/

/-- The first type is a layer around the second: an unregistered wrapper, or a pointer. -/
def Layer (S : Schema) (registry : Registry) (i j : S.Ref) : Prop :=
  S.Wraps registry i j ∨ S.descriptor i = S.descriptor j

/-- The first type is the second under finitely many layers. -/
def Covers (S : Schema) (registry : Registry) : S.Ref → S.Ref → Prop :=
  Relation.ReflTransGen (S.Layer registry)

/-- Of layers there are pointers alone, or a wrapper comes off and what is inside still covers. -/
theorem Covers.pointer_or_wrapper {i k : S.Ref} (covers : S.Covers registry i k) :
    S.descriptor i = S.descriptor k ∨ ∃ j, S.Wraps registry i j ∧ S.Covers registry j k := by
  induction covers using Relation.ReflTransGen.head_induction_on with
  | refl => exact Or.inl rfl
  | @head i j layer rest ih =>
    rcases layer with wraps | same
    · exact Or.inr ⟨j, wraps, rest⟩
    · rcases ih with pointers | ⟨l, wraps, inside⟩
      · exact Or.inl (same.trans pointers)
      · -- the pointer has the descriptor of the wrapper it points to
        refine Or.inr ⟨l, ?_, inside⟩
        unfold Wraps key at wraps ⊢
        rwa [same]

theorem isSome_classify_of_layer {i j : S.Ref} (layer : S.Layer registry i j) :
    (S.classify registry i).isSome = (S.classify registry j).isSome := by
  rcases layer with wraps | same
  · rw [classify_of_wraps wraps]
  · rw [classify_eq registry i, classify_eq registry j, key, key, same]
    split
    · rfl
    · cases (S.descriptor j).form <;> rfl

theorem Covers.isSome_classify {i j : S.Ref} (covers : S.Covers registry i j) :
    (S.classify registry i).isSome = (S.classify registry j).isSome := by
  induction covers with
  | refl => rfl
  | tail _ layer ih => exact ih.trans (isSome_classify_of_layer layer)

/-! ## One family over another -/

/-- A member of the second family stands for one of the first: the same identity and rename, and a
    type that covers the place of its type. -/
structure MemberRewraps (registry : Registry) (place : S.Ref → S'.Ref) (m : Member S.size)
    (m' : Member S'.size) : Prop where
  id : m'.id = m.id
  rename : m'.rename = m.rename
  type : S'.Covers registry m'.type (place m.type)

/-- The same form, up to layers around the types it refers to. -/
inductive FormRewraps (registry : Registry) (place : S.Ref → S'.Ref) :
    Form S.size → Form S'.size → Prop where
  | scalar : FormRewraps registry place .scalar .scalar
  | collection {j : S.Ref} {j' : S'.Ref} (covers : S'.Covers registry j' (place j)) :
      FormRewraps registry place (.collection j) (.collection j')
  | optional {j : S.Ref} {j' : S'.Ref} (covers : S'.Covers registry j' (place j)) :
      FormRewraps registry place (.optional j) (.optional j')
  | composite {members : List (Member S.size)} {members' : List (Member S'.size)}
      (each : List.Forall₂ (MemberRewraps registry place) members members') :
      FormRewraps registry place (.composite members) (.composite members')

/-- The second family is the first with layers put around some types that are referred to. -/
structure Rewraps (S S' : Schema) (registry : Registry) (place : S.Ref → S'.Ref) : Prop where
  key : ∀ i, S'.key (place i) = S.key i
  form : ∀ i, FormRewraps registry place (S.descriptor i).form (S'.descriptor (place i)).form

/-- The two classifications say the same of a type and of what stands for it. -/
inductive Corresponds (place : S.Ref → S'.Ref) :
    Classification S.size → Classification S'.size → Prop where
  | scalar (key : TypeKey) : Corresponds place (.scalar key) (.scalar key)
  | composite {j : S.Ref} {j' : S'.Ref} (same : S'.descriptor j' = S'.descriptor (place j)) :
      Corresponds place (.composite j) (.composite j')

namespace Rewraps

variable {place : S.Ref → S'.Ref} (rewraps : S.Rewraps S' registry place)

include rewraps

theorem members (i : S.Ref) :
    List.Forall₂ (MemberRewraps registry place) (S.descriptor i).members
      (S'.descriptor (place i)).members := by
  unfold Descriptor.members
  have form := rewraps.form i
  generalize (S.descriptor i).form = here, (S'.descriptor (place i)).form = there at form ⊢
  cases form with
  | scalar => exact .nil
  | collection _ => exact .nil
  | optional _ => exact .nil
  | composite each => exact each

/-- What is classified in the second family is classified alike in the first. The induction is on
    the types that the second classification meets, of which the first meets no more. -/
theorem corresponds_of_classifyWithin {fuel : Nat} {i : S.Ref} {i' : S'.Ref}
    {c' : Classification S'.size} (covers : S'.Covers registry i' (place i))
    (classified : S'.classifyWithin registry fuel i' = some c') :
    ∃ c, S.classify registry i = some c ∧ Corresponds place c c' := by
  induction fuel generalizing i i' with
  | zero => exact absurd classified (by simp [classifyWithin])
  | succ fuel ih =>
    rcases covers.pointer_or_wrapper with same | ⟨j', wraps, inside⟩
    · -- no wrapper is left, so both families look at the same key and the same form
      have sameKey : S'.key i' = S.key i := (congrArg Descriptor.key same).trans (rewraps.key i)
      rw [classify_eq registry i]
      unfold classifyWithin at classified
      rw [sameKey, same] at classified
      split at classified
      · rename_i stops
        rw [if_pos stops]
        obtain rfl := Option.some.inj classified
        exact ⟨_, rfl, .scalar _⟩
      · rename_i free
        rw [if_neg free]
        have form := rewraps.form i
        generalize (S.descriptor i).form = here,
          (S'.descriptor (place i)).form = there at form classified ⊢
        cases form with
        | scalar =>
          obtain rfl := Option.some.inj classified
          exact ⟨_, rfl, .scalar _⟩
        | collection covers => exact ih covers classified
        | optional covers => exact ih covers classified
        | composite each =>
          obtain rfl := Option.some.inj classified
          exact ⟨_, rfl, .composite same⟩
    · obtain ⟨free, form | form⟩ := wraps <;>
        exact ih inside (by simpa [classifyWithin, free, form] using classified)

/-- What is classified in the first family is classified in the second. -/
theorem isSome_of_classifyWithin {fuel : Nat} {i : S.Ref} {i' : S'.Ref}
    {c : Classification S.size} (covers : S'.Covers registry i' (place i))
    (classified : S.classifyWithin registry fuel i = some c) :
    (S'.classify registry i').isSome = true := by
  induction fuel generalizing i i' with
  | zero => exact absurd classified (by simp [classifyWithin])
  | succ fuel ih =>
    rw [covers.isSome_classify, classify_eq registry (place i), rewraps.key]
    unfold classifyWithin at classified
    split
    · rfl
    · rename_i free
      rw [if_neg free] at classified
      have form := rewraps.form i
      generalize (S.descriptor i).form = here,
        (S'.descriptor (place i)).form = there at form classified ⊢
      cases form with
      | scalar => rfl
      | collection covers => exact ih covers classified
      | optional covers => exact ih covers classified
      | composite each => rfl

/-- **A type and what covers it are classified alike.** -/
theorem rel_classify_of_covers {i : S.Ref} {i' : S'.Ref}
    (covers : S'.Covers registry i' (place i)) :
    Option.Rel (Corresponds place) (S.classify registry i) (S'.classify registry i') := by
  cases there : S'.classify registry i' with
  | some c' =>
    obtain ⟨c, here, corresponds⟩ := rewraps.corresponds_of_classifyWithin covers there
    rw [here]
    exact .some corresponds
  | none =>
    cases here : S.classify registry i with
    | none => exact .none
    | some c =>
      have found := rewraps.isSome_of_classifyWithin covers here
      exact absurd found (by simp [there])

end Rewraps

end TypedQuery.Schema
