import TypedQuery.Proofs.Query.Encoding
import TypedQuery.Proofs.Query.Expansion
import TypedQuery.Proofs.Shape.Route

/-!
# `respell` — a naming policy spells names and does nothing else

Three names of a member are easily confused: the declared one, by which metadata is kept and which
stands in the path of a cycle, the rename, and the name of the field. A policy is asked for the third
only, and only where there is no rename. So an expansion under one policy is the expansion under another
with those names **spelled anew** (`expand_under`), and where the one fails the other fails with the same
error: nothing that decides about failing has seen a policy.

A tree does not say which of its names come from renames. `respell` reads that off the members the tree
was compiled from, walking both side by side; fields behind the last member stay as they are.
-/

set_option autoImplicit false

namespace TypedQuery

open Outcome

variable {S : Schema} {registry : Registry} {spell spell' : Member S.size → String}

/-! ## Names spelled anew -/

/-- The head of a member's field, with the name spelled anew unless the member has a rename. -/
def FieldHead.respell {n : Nat} (spell : Member n → String) (m : Member n) (head : FieldHead) :
    FieldHead :=
  { head with name := if m.rename.isSome then head.name else spell m }

mutual

/-- The field of a member, with all names spelled anew that are not renames. -/
def SelectionField.respell (S : Schema) (registry : Registry) (spell : Member S.size → String)
    (m : Member S.size) : SelectionField → SelectionField
  | .leaf head => .leaf (head.respell spell m)
  | .nested head fields =>
    .nested (head.respell spell m)
      (SelectionField.respellAll S registry spell (S.selectedMembers registry m.type) fields)

/-- The fields of members, one for each. -/
def SelectionField.respellAll (S : Schema) (registry : Registry) (spell : Member S.size → String)
    (members : List (Member S.size)) : List SelectionField → List SelectionField
  | [] => []
  | f :: fields =>
    match members with
    | [] => f :: fields
    | m :: others =>
      SelectionField.respell S registry spell m f ::
        SelectionField.respellAll S registry spell others fields

end

/-- The selection of members, with all names spelled anew that are not renames. -/
def SelectionSet.respell (S : Schema) (registry : Registry) (spell : Member S.size → String)
    (members : List (Member S.size)) (set : SelectionSet) : SelectionSet :=
  ⟨SelectionField.respellAll S registry spell members set.fields⟩

namespace Schema

/-- What is selected of a type, with all names spelled anew that are not renames. -/
def respell (S : Schema) (registry : Registry) (spell : Member S.size → String) (i : S.Ref) :
    SelectionSet → SelectionSet :=
  SelectionSet.respell S registry spell (S.selectedMembers registry i)

/-- What is selected of a type, without the names that are not renames. -/
def nameless (S : Schema) (registry : Registry) : S.Ref → SelectionSet → SelectionSet :=
  S.respell registry fun _ => ""

end Schema

theorem FieldHead.respell_respell {n : Nat} {spell spell' : Member n → String} (m : Member n)
    (head : FieldHead) : (head.respell spell m).respell spell' m = head.respell spell' m := by
  unfold respell
  split <;> rfl

mutual

/-- Only the last spelling counts. -/
theorem SelectionField.respell_respell (m : Member S.size) :
    (f : SelectionField) →
      (f.respell S registry spell m).respell S registry spell' m = f.respell S registry spell' m
  | .leaf head => by
    simp only [SelectionField.respell, FieldHead.respell_respell]
  | .nested head fields => by
    simp only [SelectionField.respell, FieldHead.respell_respell]
    rw [SelectionField.respellAll_respellAll _ fields]

theorem SelectionField.respellAll_respellAll (members : List (Member S.size)) :
    (fields : List SelectionField) →
      SelectionField.respellAll S registry spell' members
          (SelectionField.respellAll S registry spell members fields) =
        SelectionField.respellAll S registry spell' members fields
  | [] => rfl
  | f :: fields => by
    cases members with
    | nil => rfl
    | cons m others =>
      simp only [SelectionField.respellAll]
      rw [SelectionField.respell_respell m f, SelectionField.respellAll_respellAll others fields]

end

theorem Schema.respell_respell (i : S.Ref) (set : SelectionSet) :
    S.respell registry spell' i (S.respell registry spell i set) =
      S.respell registry spell' i set :=
  congrArg SelectionSet.mk (SelectionField.respellAll_respellAll _ set.fields)

theorem SelectionField.respell_make (m : Member S.size) (head : FieldHead)
    (selection : Option SelectionSet) :
    (make head selection).respell S registry spell m =
      make (head.respell spell m) (selection.map (S.respell registry spell m.type)) := by
  cases selection <;> rfl

/-- Fields may be spelled anew one by one, or all of them once they are there. -/
theorem SelectionField.mapM_respell {ε : Type} (field : Member S.size → Except ε SelectionField)
    (members : List (Member S.size)) :
    (members.mapM fun m => (field m).map (SelectionField.respell S registry spell m)) =
      (members.mapM field).map (SelectionField.respellAll S registry spell members) := by
  induction members with
  | nil => rfl
  | cons m others ih =>
    rw [List.mapM_cons, List.mapM_cons, ih]
    cases field m with
    | error e => rfl
    | ok f => cases others.mapM field <;> rfl

/-! ## Two policies -/

/-- The field name that a policy gives a member without a rename. -/
def FieldCase.spelling {n : Nat} (case : FieldCase) (m : Member n) : String := case.apply m.name

namespace Expansion

variable (e : Expansion S) (case : FieldCase) {stack : List TypeKey} {path : List String}

/-- The same expansion under another policy. -/
def under (e : Expansion S) (case : FieldCase) : Expansion S := { e with config := ⟨case⟩ }

theorem fieldHead_under (m : Member S.size) :
    (e.under case).fieldHead m = (e.fieldHead m).respell case.spelling m := by
  unfold fieldHead FieldHead.respell
  cases m.rename <;> rfl

/-- The selection under another policy, given that of the composites. -/
theorem select_under (i : S.Ref)
    (composites : ∀ j, (e.under case).expand stack path j = (e.expand stack path j).map
      (SelectionSet.respell S e.registry case.spelling (S.descriptor j).members)) :
    (e.under case).select stack path i =
      (e.select stack path i).map (Option.map (S.respell e.registry case.spelling i)) := by
  cases classified : S.classify e.registry i with
  | none =>
    rw [select, select, show (e.under case).registry = e.registry from rfl, classified]
    rfl
  | some c =>
    cases c with
    | scalar key =>
      rw [e.select_of_scalar classified, (e.under case).select_of_scalar classified]
      rfl
    | composite j =>
      rw [e.select_of_composite classified, (e.under case).select_of_composite classified,
        composites j, Schema.respell, Schema.selectedMembers_of_composite classified]
      cases e.expand stack path j <;> rfl

/-- **Under another policy an expansion gives the same with names spelled anew**, or fails with the same
    error. -/
theorem expand_under (i : S.Ref) :
    (e.under case).expand stack path i = (e.expand stack path i).map
      (SelectionSet.respell S e.registry case.spelling (S.descriptor i).members) := by
  induction stack, i using S.stackInduction generalizing path with
  | visited stack i open' =>
    rw [(e.under case).expand_eq_of_visited stack path i open',
      e.expand_eq_of_visited stack path i open']
    rfl
  | fresh stack i closed ih =>
    -- both descend with the same stack, and with declared names on the path
    have field : ∀ m : Member S.size, (e.under case).field (S.key i :: stack) path m =
        (e.field (S.key i :: stack) path m).map
          (SelectionField.respell S e.registry case.spelling m) := by
      intro m
      unfold field
      rw [e.select_under case m.type fun j => ih j, fieldHead_under]
      cases e.select (S.key i :: stack) (path ++ [m.name]) m.type with
      | error error => rfl
      | ok selection => exact congrArg Except.ok (SelectionField.respell_make m _ selection).symm
    rw [(e.under case).expand_eq_mapM closed, e.expand_eq_mapM closed, funext field,
      SelectionField.mapM_respell]
    cases (S.descriptor i).members.mapM (e.field (S.key i :: stack) path) <;> rfl

theorem root_under (i : S.Ref) :
    (e.under case).root i = (e.root i).map (S.respell e.registry case.spelling i) := by
  unfold root
  rw [e.select_under case i fun j => e.expand_under case j]
  cases e.select [] [] i with
  | error error => rfl
  | ok selection =>
    cases selection <;> rfl

end Expansion

namespace Query

/-- The same query under another policy. -/
def under (q : Query S) (case : FieldCase) : Query S := { q with config := ⟨case⟩ }

theorem registry_compile_under (q : Query S) (registry : Registry) (case : FieldCase) :
    ((q.under case).compile registry).registry = (q.compile registry).registry := by
  rw [registry_compile, registry_compile]
  rfl

theorem outcome_compile_under (q : Query S) (registry : Registry) (case : FieldCase) :
    ((q.under case).compile registry).outcome = (q.compile registry).outcome.map
      (S.respell (q.compile registry).registry case.spelling q.root) := by
  cases encoded : (q.metadata.encodeParameters q.encoder).outcome with
  | error error =>
    rw [outcome_compile_of_error encoded, outcome_compile_of_error (q := q.under case) encoded]
    rfl
  | ok arguments =>
    rw [outcome_compile_of_ok encoded, outcome_compile_of_ok (q := q.under case) encoded,
      registry_compile_under]
    exact Expansion.root_under ⟨_, q.metadata, arguments, q.config⟩ case q.root

/-- **The naming policy affects names only.** Compiled under two policies, a query leaves the same
    registry and fails with the same errors, and where it does not fail the one tree is the other with
    the names spelled anew that are not renames. Without those names the two are equal: in the number
    and order of fields at every depth, in renames, aliases and arguments, and in what is a leaf. -/
theorem policies_spell_names (q : Query S) (registry : Registry) (case case' : FieldCase) :
    let after := (q.compile registry).registry
    let compiled := (q.under case).compile registry
    let compiled' := (q.under case').compile registry
    (compiled.registry = after ∧ compiled'.registry = after) ∧
    (∀ error, compiled.outcome = .error error ↔ compiled'.outcome = .error error) ∧
    compiled'.outcome = compiled.outcome.map (S.respell after case'.spelling q.root) ∧
    compiled.outcome.map (S.nameless after q.root) =
      compiled'.outcome.map (S.nameless after q.root) := by
  intro after compiled compiled'
  have respelled : compiled'.outcome =
      compiled.outcome.map (S.respell after case'.spelling q.root) := by
    have second := (q.under case).outcome_compile_under registry case'
    rwa [registry_compile_under] at second
  have nameless : ∀ r : Except QueryError SelectionSet,
      (r.map (S.respell after case'.spelling q.root)).map (S.nameless after q.root) =
        r.map (S.nameless after q.root) := by
    intro r
    cases r with
    | error error => rfl
    | ok set => exact congrArg Except.ok (Schema.respell_respell q.root set)
  refine ⟨⟨q.registry_compile_under registry case, q.registry_compile_under registry case'⟩, ?_,
    respelled, ?_⟩
  · intro error
    rw [respelled, map_eq_error_iff]
  · rw [respelled, nameless]

end Query

end TypedQuery
