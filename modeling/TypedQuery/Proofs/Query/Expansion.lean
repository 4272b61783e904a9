import TypedQuery.Proofs.Outcomes
import TypedQuery.Query.Expansion

/-!
# `expand` — one step, and what the stack is for

Expanding a type that is not on the stack is a traversal of its members, so it succeeds when every
member's type can be selected and otherwise fails as the first that cannot (`expand_eq_ok_iff`,
`expand_eq_error_iff`). Statements about whole expansions are inductions over the pair of a stack
and a type; `stackInduction` is that induction, and the only one: a step puts one key on the stack.

The stack decides whether an expansion succeeds and has no part in what it then gives. **An
expansion that succeeds gives the same under any stack that holds no other keys, and under any
path** (`expand_of_fewer_open`).
-/

set_option autoImplicit false

namespace TypedQuery

open Outcome

variable {S : Schema}

/-- Induction along an expansion: either the type is on the stack, or its key is put there before
    any other type is looked at. -/
theorem Schema.stackInduction {motive : List TypeKey → S.Ref → Prop}
    (visited : ∀ stack i, stack.any (· == S.key i) = true → motive stack i)
    (fresh : ∀ stack i, stack.any (· == S.key i) = false →
      (∀ j, motive (S.key i :: stack) j) → motive stack i)
    (stack : List TypeKey) (i : S.Ref) : motive stack i := by
  induction left : S.unvisited stack using Nat.strongRecOn generalizing stack i with
  | _ n ih =>
    cases h : stack.any (· == S.key i) with
    | true => exact visited stack i h
    | false =>
      -- whatever type comes next, one type fewer is left to visit
      refine fresh stack i h fun j => ih _ ?_ _ j rfl
      exact left ▸ S.unvisited_cons_lt stack i h

namespace Expansion

variable (e : Expansion S) {stack : List TypeKey} {path : List String} {i j : S.Ref}

/-! ## One step -/

theorem select_of_scalar {key : TypeKey} (h : S.classify e.registry i = some (.scalar key)) :
    e.select stack path i = .ok none := by
  rw [select, h]

theorem select_of_composite (h : S.classify e.registry i = some (.composite j)) :
    e.select stack path i = (e.expand stack path j).map some := by
  rw [select, h]

/-- A root with members expands, with nothing open. -/
theorem root_of_composite (h : S.classify e.registry i = some (.composite j)) :
    e.root i = e.expand [] [] j := by
  rw [root, e.select_of_composite h]
  cases e.expand [] [] j <;> rfl

/-- What is selected is nothing of a leaf and what expands of a composite. -/
theorem select_eq_ok_iff {selection : Option SelectionSet} :
    e.select stack path i = .ok selection ↔
      (∃ key, S.classify e.registry i = some (.scalar key) ∧ selection = none) ∨
        ∃ j set, S.classify e.registry i = some (.composite j) ∧
          e.expand stack path j = .ok set ∧ selection = some set := by
  unfold select
  cases h : S.classify e.registry i with
  | none => simp
  | some c =>
    cases c with
    | scalar key => simp [eq_comm]
    | composite j =>
      show (e.expand stack path j).map some = .ok selection ↔ _
      rw [map_eq_ok_iff]
      constructor
      · rintro ⟨set, expanded, rfl⟩
        exact Or.inr ⟨j, set, rfl, expanded, rfl⟩
      · rintro (⟨_, scalar, -⟩ | ⟨_, set, same, expanded, rfl⟩)
        · exact absurd scalar (by simp)
        · cases same
          exact ⟨set, expanded, rfl⟩

/-- A selection fails for a wrapper without end, or as the expansion of a composite. -/
theorem select_eq_error_iff {error : QueryError} :
    e.select stack path i = .error error ↔
      (S.classify e.registry i = none ∧ error = .endlessWrapper (S.key i)) ∨
        ∃ j, S.classify e.registry i = some (.composite j) ∧
          e.expand stack path j = .error error := by
  unfold select
  cases h : S.classify e.registry i with
  | none => simp [eq_comm]
  | some c =>
    cases c with
    | scalar key => simp
    | composite j => simp [map_eq_error_iff]

/-- The field of a member, with `stack` open and `path` leading to the composite around it. -/
def field (e : Expansion S) (stack : List TypeKey) (path : List String) (m : Member S.size) :
    Except QueryError SelectionField :=
  (e.select stack (path ++ [m.name]) m.type).map (SelectionField.make (e.fieldHead m))

theorem field_eq_ok_iff {m : Member S.size} {f : SelectionField} :
    e.field stack path m = .ok f ↔
      ∃ selection, e.select stack (path ++ [m.name]) m.type = .ok selection ∧
        f = SelectionField.make (e.fieldHead m) selection := by
  unfold field
  rw [map_eq_ok_iff]
  simp only [eq_comm]

/-- A type that is not on the stack is expanded field by field. -/
theorem expand_eq_mapM (fresh : stack.any (· == S.key i) = false) :
    e.expand stack path i =
      ((S.descriptor i).members.mapM (e.field (S.key i :: stack) path)).map SelectionSet.mk := by
  rw [e.expand_eq_of_fresh stack path i fresh]
  have same : (fun m : Member S.size => do
      let selection ← e.select (S.key i :: stack) (path ++ [m.name]) m.type
      .ok (SelectionField.make (e.fieldHead m) selection)) = e.field (S.key i :: stack) path := by
    funext m
    unfold field
    cases e.select (S.key i :: stack) (path ++ [m.name]) m.type <;> rfl
  rw [same]
  cases (S.descriptor i).members.mapM (e.field (S.key i :: stack) path) <;> rfl

/-- An expansion that succeeds has one field for each member, in order. -/
theorem expand_eq_ok_iff {set : SelectionSet} :
    e.expand stack path i = .ok set ↔
      stack.any (· == S.key i) = false ∧
        List.Forall₂ (fun m f => e.field (S.key i :: stack) path m = .ok f)
          (S.descriptor i).members set.fields := by
  cases h : stack.any (· == S.key i) with
  | true => simp [e.expand_eq_of_visited stack path i h]
  | false =>
    rw [e.expand_eq_mapM h, map_eq_ok_iff]
    constructor
    · rintro ⟨fields, all, rfl⟩
      exact ⟨rfl, mapM_eq_ok_iff.1 all⟩
    · rintro ⟨-, all⟩
      exact ⟨set.fields, mapM_eq_ok_iff.2 all, rfl⟩

/-- An expansion fails at a type on the stack, or else as the first member whose type cannot be
    selected. -/
theorem expand_eq_error_iff {error : QueryError} :
    e.expand stack path i = .error error ↔
      (stack.any (· == S.key i) = true ∧ error = .cyclicShape (S.key i) path) ∨
        (stack.any (· == S.key i) = false ∧
          ∃ (k : Nat) (m : Member S.size), (S.descriptor i).members[k]? = some m ∧
            e.select (S.key i :: stack) (path ++ [m.name]) m.type = .error error ∧
            ∀ k' < k, ∀ m', (S.descriptor i).members[k']? = some m' →
              ∃ selection,
                e.select (S.key i :: stack) (path ++ [m'.name]) m'.type = .ok selection) := by
  cases h : stack.any (· == S.key i) with
  | true => simp [e.expand_eq_of_visited stack path i h, eq_comm]
  | false =>
    rw [e.expand_eq_mapM h, map_eq_error_iff, mapM_eq_error_iff]
    simp [field, map_eq_error_iff, map_eq_ok_iff]

/-! ## The stack only refuses -/

/-- **What a successful expansion gives is what it gives under any stack of fewer keys**, and the
    path takes no part in it. -/
theorem expand_of_fewer_open {set : SelectionSet} (done : e.expand stack path i = .ok set) :
    ∀ {stack' : List TypeKey} (path' : List String),
      (∀ key, stack'.any (· == key) = true → stack.any (· == key) = true) →
      e.expand stack' path' i = .ok set := by
  induction stack, i using S.stackInduction generalizing path set with
  | visited stack i open' =>
    rw [e.expand_eq_of_visited stack path i open'] at done
    exact absurd done (by simp)
  | fresh stack i closed ih =>
    intro stack' path' fewer
    obtain ⟨-, fields⟩ := e.expand_eq_ok_iff.1 done
    refine e.expand_eq_ok_iff.2 ⟨?_, fields.imp fun m f hf => ?_⟩
    · by_contra open'
      exact absurd (fewer _ (by simpa using open')) (by simp [closed])
    obtain ⟨selection, selected, rfl⟩ := e.field_eq_ok_iff.1 hf
    refine e.field_eq_ok_iff.2 ⟨selection, ?_, rfl⟩
    -- both stacks get the same key on top, so one still holds no key that the other does not
    have fewer' : ∀ key, (S.key i :: stack').any (· == key) = true →
        (S.key i :: stack).any (· == key) = true := by
      intro key found
      rw [List.any_cons, Bool.or_eq_true] at found ⊢
      exact found.imp id (fewer key)
    rcases e.select_eq_ok_iff.1 selected with ⟨key, leaf, rfl⟩ | ⟨j, sub, composite, deeper, rfl⟩
    · exact e.select_of_scalar leaf
    · rw [e.select_of_composite composite, ih j deeper _ fewer']
      rfl

/-- A selection that succeeds anywhere succeeds on its own, with the same result. -/
theorem select_alone {selection : Option SelectionSet}
    (done : e.select stack path i = .ok selection) : e.select [] [] i = .ok selection := by
  rcases e.select_eq_ok_iff.1 done with ⟨key, leaf, rfl⟩ | ⟨j, set, composite, expanded, rfl⟩
  · exact e.select_of_scalar leaf
  · rw [e.select_of_composite composite, e.expand_of_fewer_open expanded [] (by simp)]
    rfl

/-! ## What an expansion reads -/

variable {e}

/-- Of its registry an expansion reads how types are classified, and of the rest the heads of
    fields. -/
theorem expand_of_same {e' : Expansion S}
    (classified : ∀ i, S.classify e'.registry i = S.classify e.registry i)
    (heads : ∀ m, e'.fieldHead m = e.fieldHead m) :
    e'.expand stack path i = e.expand stack path i := by
  induction stack, i using S.stackInduction generalizing path with
  | visited stack i open' =>
    rw [e'.expand_eq_of_visited stack path i open', e.expand_eq_of_visited stack path i open']
  | fresh stack i closed ih =>
    have member : e'.field (S.key i :: stack) path = e.field (S.key i :: stack) path := by
      funext m
      unfold field select
      rw [classified, heads]
      cases S.classify e.registry m.type with
      | none => rfl
      | some c =>
        cases c with
        | scalar key => rfl
        | composite j =>
          dsimp only
          rw [ih j]
    rw [e'.expand_eq_mapM closed, e.expand_eq_mapM closed, member]

theorem root_of_same {e' : Expansion S}
    (classified : ∀ i, S.classify e'.registry i = S.classify e.registry i)
    (heads : ∀ m, e'.fieldHead m = e.fieldHead m) : e'.root i = e.root i := by
  unfold root select
  rw [classified]
  cases S.classify e.registry i with
  | none => rfl
  | some c =>
    cases c with
    | scalar key => rfl
    | composite j =>
      dsimp only
      rw [expand_of_same classified heads]

end Expansion

end TypedQuery
