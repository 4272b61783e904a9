import Mathlib.Logic.Relation
import TypedQuery.Proofs.Query.Pruning

/-!
# `IsLeaf` — which types a registration makes leaves

A type is registered by its own key, and a classification asks for the keys of descriptors: that of
the type first, and then those of what it wraps. So after a registration a type is a leaf **exactly
when it was one before, or the key is met while it is unwrapped** (`isLeaf_register_iff`). Where its
descriptor carries it, the own key of a type is met at once (`isLeaf_register_own`), and that is so
for every declared type but a pointer (`key_of_not_isPointer`). A pointer has the descriptor of its
target, and no descriptor carries its own key (`key_ne_of_isPointer`).
-/

set_option autoImplicit false

namespace TypedQuery.Schema

variable {S : Schema} {registry registry' : Registry} {i j : S.Ref} {key : TypeKey}

/-- Nothing is selected of the type. -/
def IsLeaf (S : Schema) (registry : Registry) (i : S.Ref) : Prop :=
  ∃ key, S.classify registry i = some (.scalar key)

theorem isLeaf_of_classifyWithin {fuel : Nat}
    (classified : S.classifyWithin registry fuel i = some (.scalar key)) : S.IsLeaf registry i :=
  ⟨key, classify_of_classifyWithin classified⟩

theorem isLeaf_of_contains (registered : registry.contains (S.key i) = true) :
    S.IsLeaf registry i := by
  have stops : S.classifyWithin registry 1 i = some (.scalar (S.key i)) := by
    simp [classifyWithin, registered]
  exact isLeaf_of_classifyWithin stops

theorem isLeaf_of_scalar (form : (S.descriptor i).form = .scalar) : S.IsLeaf registry i := by
  have stops : S.classifyWithin registry 1 i = some (.scalar (S.key i)) := by
    simp [classifyWithin, form]
  exact isLeaf_of_classifyWithin stops

theorem IsLeaf.mono (leaf : S.IsLeaf registry i) (more : registry'.Extends registry) :
    S.IsLeaf registry' i := by
  obtain ⟨key, classified⟩ := leaf
  rcases classifyWithin_of_extends more classified with same | found
  · exact ⟨key, same⟩
  · exact found

theorem isLeaf_iff_of_wraps (step : S.Wraps registry i j) :
    S.IsLeaf registry i ↔ S.IsLeaf registry j := by
  unfold IsLeaf
  rw [classify_of_wraps step]

theorem isLeaf_of_same {fuel : Nat} (same : S.descriptor i = S.descriptor j)
    (classified : S.classifyWithin registry fuel i = some (.scalar key)) : S.IsLeaf registry j := by
  suffices S.classifyWithin registry fuel j = some (.scalar key) from isLeaf_of_classifyWithin this
  have sameKey : S.key i = S.key j := congrArg Descriptor.key same
  cases fuel with
  | zero => exact absurd classified (by simp [classifyWithin])
  | succ fuel =>
    unfold classifyWithin at classified ⊢
    rw [← sameKey, ← same]
    split at classified
    · rename_i stops
      rwa [if_pos stops]
    · rename_i free
      rw [if_neg free]
      cases form : (S.descriptor i).form with
      | scalar => simpa [form] using classified
      | composite members => simp [form] at classified
      | collection k => simpa [form] using classified
      | optional k => simpa [form] using classified

theorem isLeaf_congr (same : S.descriptor i = S.descriptor j) :
    S.IsLeaf registry i ↔ S.IsLeaf registry j := by
  constructor
  · rintro ⟨key, classified⟩
    exact isLeaf_of_same same classified
  · rintro ⟨key, classified⟩
    exact isLeaf_of_same same.symm classified

/-! ## One more registration -/

/-- The key is that of the type's descriptor, or of one met while the type is unwrapped. -/
def Meets (S : Schema) (registry : Registry) (key : TypeKey) (i : S.Ref) : Prop :=
  ∃ j, Relation.ReflTransGen (S.Wraps registry) i j ∧ (S.key j == key) = true

/-- Where unwrapping stops at a leaf, it did so before the registration or has met the key. -/
theorem isLeaf_or_meets {fuel : Nat} {stop : TypeKey}
    (classified : S.classifyWithin (registry.register key) fuel i = some (.scalar stop)) :
    S.IsLeaf registry i ∨ S.Meets registry key i := by
  induction fuel generalizing i with
  | zero => exact absurd classified (by simp [classifyWithin])
  | succ fuel ih =>
    cases here : (registry.register key).contains (S.key i) with
    | true =>
      rw [Registry.contains_register, Bool.or_eq_true] at here
      rcases here with before | met
      · exact Or.inl (isLeaf_of_contains before)
      · exact Or.inr ⟨i, .refl, met⟩
    | false =>
      have free : registry.contains (S.key i) = false := by
        rw [Registry.contains_register, Bool.or_eq_false_iff] at here
        exact here.1
      -- the key is not that of this type, so it is met further inside or not at all
      have inside : ∀ j, S.Wraps registry i j →
          S.classifyWithin (registry.register key) fuel j = some (.scalar stop) →
          S.IsLeaf registry i ∨ S.Meets registry key i := by
        intro j step deeper
        rcases ih deeper with leaf | ⟨k, route, met⟩
        · exact Or.inl ((isLeaf_iff_of_wraps step).2 leaf)
        · exact Or.inr ⟨k, .head step route, met⟩
      cases form : (S.descriptor i).form with
      | scalar => exact Or.inl (isLeaf_of_scalar form)
      | composite members => simp [classifyWithin, here, form] at classified
      | collection j =>
        exact inside j ⟨free, Or.inl form⟩ (by simpa [classifyWithin, here, form] using classified)
      | optional j =>
        exact inside j ⟨free, Or.inr form⟩ (by simpa [classifyWithin, here, form] using classified)

theorem isLeaf_of_meets (meets : S.Meets registry key i) :
    S.IsLeaf (registry.register key) i := by
  obtain ⟨j, route, met⟩ := meets
  induction route using Relation.ReflTransGen.head_induction_on with
  | refl =>
    apply isLeaf_of_contains
    rw [Registry.contains_register, met, Bool.or_true]
  | @head i k step _ ih =>
    cases here : (registry.register key).contains (S.key i) with
    | true => exact isLeaf_of_contains here
    | false => exact (isLeaf_iff_of_wraps ⟨here, step.2⟩).2 ih

/-- **After a registration a type is a leaf if it was one, or if the key is met while it is
    unwrapped**, and no other type is. -/
theorem isLeaf_register_iff :
    S.IsLeaf (registry.register key) i ↔ S.IsLeaf registry i ∨ S.Meets registry key i := by
  constructor
  · rintro ⟨stop, classified⟩
    exact isLeaf_or_meets classified
  · rintro (leaf | meets)
    · exact leaf.mono (registry.extends_register key)
    · exact isLeaf_of_meets meets

/-- **Registering a type whose descriptor carries its own key makes it a leaf.** -/
theorem isLeaf_register_own (own : (S.key i == S.typeKey i) = true) :
    S.IsLeaf (registry.register (S.typeKey i)) i :=
  isLeaf_of_meets ⟨i, .refl, own⟩

/-! ## Declared types -/

section Declared

variable {n : Nat} {declared : Fin n → TypeKey × Declaration n} {i : Fin n}

def IsPointer (declared : Fin n → TypeKey × Declaration n) (i : Fin n) : Prop :=
  ∃ target, (declared i).2 = .pointer target

theorem resolve_of_pointer {target : Fin n} (pointer : (declared i).2 = .pointer target)
    (fuel : Nat) : Declaration.resolve declared (fuel + 1) i =
      Declaration.resolve declared fuel target := by
  rw [Declaration.resolve]
  generalize declared i = type at pointer ⊢
  obtain ⟨key, declaration⟩ := type
  obtain rfl : declaration = .pointer target := pointer
  rfl

theorem resolve_of_not_isPointer (plain : ¬ IsPointer declared i) (fuel : Nat) :
    ∃ form, Declaration.resolve declared (fuel + 1) i = some ⟨(declared i).1, form⟩ := by
  rw [Declaration.resolve]
  unfold IsPointer at plain
  generalize declared i = type at plain ⊢
  obtain ⟨key, declaration⟩ := type
  cases declaration with
  | scalar => exact ⟨_, rfl⟩
  | collection j => exact ⟨_, rfl⟩
  | optional j => exact ⟨_, rfl⟩
  | composite members => exact ⟨_, rfl⟩
  | pointer target => exact absurd ⟨target, rfl⟩ plain

/-- A descriptor carries the key of a type that is no pointer. -/
theorem exists_key_of_resolve {fuel : Nat} {d : Descriptor n}
    (resolved : Declaration.resolve declared fuel i = some d) :
    ∃ k, d.key = (declared k).1 ∧ ¬ IsPointer declared k := by
  induction fuel generalizing i with
  | zero => exact absurd resolved nofun
  | succ fuel ih =>
    by_cases pointer : IsPointer declared i
    · obtain ⟨target, leads⟩ := pointer
      rw [resolve_of_pointer leads] at resolved
      exact ih resolved
    · obtain ⟨form, own⟩ := resolve_of_not_isPointer pointer fuel
      rw [own] at resolved
      obtain rfl := Option.some.inj resolved
      exact ⟨i, rfl, pointer⟩

theorem key_of_not_isPointer (plain : ¬ IsPointer declared i) :
    (ofDeclarations declared).key i = (ofDeclarations declared).typeKey i := by
  show ((Declaration.resolve declared n i).getD ⟨(declared i).1, .scalar⟩).key = (declared i).1
  obtain ⟨m, rfl⟩ : ∃ m, n = m + 1 := ⟨n - 1, by have := i.isLt; omega⟩
  obtain ⟨form, own⟩ := resolve_of_not_isPointer plain m
  rw [own]
  rfl

/-- Where the types have keys of their own, no descriptor carries the key of a pointer that leads
    to another type. -/
theorem key_ne_of_isPointer
    (distinct : ∀ a b, ((declared a).1 == (declared b).1) = true → a = b)
    (pointer : IsPointer declared i) {d : Descriptor n}
    (leads : Declaration.resolve declared n i = some d) (j : Fin n) :
    ((ofDeclarations declared).key j == (ofDeclarations declared).typeKey i) = false := by
  by_contra carried
  have same : ((ofDeclarations declared).key j == (declared i).1) = true :=
    Bool.eq_true_of_not_eq_false carried
  unfold key descriptor ofDeclarations at same
  dsimp only at same
  cases resolved : Declaration.resolve declared n j with
  | none =>
    rw [resolved] at same
    obtain rfl := distinct j i same
    exact absurd (resolved.symm.trans leads) (by simp)
  | some d' =>
    obtain ⟨l, carries, plain⟩ := exists_key_of_resolve resolved
    rw [resolved, Option.getD_some, carries] at same
    obtain rfl := distinct l i same
    exact plain pointer

end Declared

end TypedQuery.Schema
