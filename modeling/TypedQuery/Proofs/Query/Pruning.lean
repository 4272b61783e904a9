import TypedQuery.Proofs.Query.Bounds
import TypedQuery.Proofs.Query.Compositional

/-!
# `Prunes` — registering more types only cuts selections off

Two expansions that differ in their registries alone, the second of which holds every type of the
first, walk the same family side by side. Where the first meets a leaf the second meets one too;
where the first meets a composite, the second meets **that same composite or a leaf**
(`classifyWithin_of_extends`): a wrapper or a composite on the way may be registered by now, and
then the unwrapping stops there. So the second run goes into a composite only where the first does,
and with the same types open. It can lose nested selections and cannot come upon anything new,
a cycle least of all.

The simulation is `expand_of_extends`. That a cycle carries over in the other direction needs no
second simulation: it is the first one read backwards, since an expansion that does not succeed
fails for a cycle or for a wrapper without end (`eq_cyclicShape_or_endlessWrapper`). So wrappers have
to end for it, and where they do not the first run may not come to the cycle (`winding`).
-/

set_option autoImplicit false

namespace TypedQuery

open Outcome

/-! ## Trees with selections cut off -/

/-- The second field is the first with some nested selections replaced by none. -/
inductive SelectionField.Prunes : SelectionField → SelectionField → Prop where
  | leaf (head : FieldHead) : Prunes (.leaf head) (.leaf head)
  | cut (head : FieldHead) (fields : List SelectionField) :
      Prunes (.nested head fields) (.leaf head)
  | nested (head : FieldHead) {fields fields' : List SelectionField}
      (each : List.Forall₂ Prunes fields fields') :
      Prunes (.nested head fields) (.nested head fields')

/-- The second set has the fields of the first, in order, each maybe pruned. -/
def SelectionSet.Prunes (set set' : SelectionSet) : Prop :=
  List.Forall₂ SelectionField.Prunes set.fields set'.fields

theorem SelectionField.Prunes.of_none (head : FieldHead) (selection : Option SelectionSet) :
    Prunes (make head selection) (make head none) := by
  cases selection with
  | none => exact .leaf head
  | some set => exact .cut head set.fields

theorem SelectionField.Prunes.of_rel (head : FieldHead) {selection selection' : Option SelectionSet}
    (related : Option.Rel SelectionSet.Prunes selection selection') :
    Prunes (make head selection) (make head selection') := by
  cases related with
  | none => exact .leaf head
  | some each => exact .nested head each

/-! ## The two registries -/

variable {S : Schema} {registry registry' : Registry}

/-- Every type that is registered in the second is registered in the first. -/
def Registry.Extends (registry' registry : Registry) : Prop :=
  ∀ key, registry.contains key = true → registry'.contains key = true

theorem Registry.Extends.refl (registry : Registry) : registry.Extends registry :=
  fun _ held => held

theorem Registry.extends_registerAll (registry : Registry) (keys : List TypeKey) :
    (registry.registerAll keys).Extends registry := by
  intro key registered
  rw [contains_registerAll, registered, Bool.true_or]

theorem Registry.extends_register (registry : Registry) (key : TypeKey) :
    (registry.register key).Extends registry := registry.extends_registerAll [key]

/-- With more types registered, a type is what it was or it is a leaf. -/
theorem Schema.classifyWithin_of_extends (more : registry'.Extends registry) {fuel : Nat}
    {i : S.Ref} {c : Classification S.size}
    (classified : S.classifyWithin registry fuel i = some c) :
    S.classifyWithin registry' fuel i = some c ∨
      ∃ key, S.classifyWithin registry' fuel i = some (.scalar key) := by
  induction fuel generalizing i with
  | zero => exact absurd classified (by simp [classifyWithin])
  | succ fuel ih =>
    cases stops : registry'.contains (S.key i) with
    | true => exact Or.inr ⟨S.key i, by simp [classifyWithin, stops]⟩
    | false =>
      -- not registered now, so not registered before either: both unwrap one step further
      have free : registry.contains (S.key i) = false := by
        by_contra held
        exact absurd (more _ (by simpa using held)) (by simp [stops])
      cases form : (S.descriptor i).form with
      | scalar => exact Or.inr ⟨S.key i, by simp [classifyWithin, stops, form]⟩
      | collection j =>
        have inside := ih (i := j) (by simpa [classifyWithin, free, form] using classified)
        simpa [classifyWithin, stops, form] using inside
      | optional j =>
        have inside := ih (i := j) (by simpa [classifyWithin, free, form] using classified)
        simpa [classifyWithin, stops, form] using inside
      | composite members =>
        refine Or.inl ?_
        simpa [classifyWithin, free, stops, form] using classified

/-! ## The two expansions -/

namespace Expansion

variable (e : Expansion S) {stack : List TypeKey} {path : List String} {i root : S.Ref}

/-- The same expansion against another registry. -/
def against (e : Expansion S) (registry : Registry) : Expansion S := { e with registry }

/-- What is selected with more types registered, given the same of every composite. -/
theorem select_of_extends (more : registry'.Extends e.registry)
    (composites : ∀ j set, e.expand stack path j = .ok set →
      ∃ set', (e.against registry').expand stack path j = .ok set' ∧ set.Prunes set')
    {selection : Option SelectionSet} (done : e.select stack path i = .ok selection) :
    ∃ selection', (e.against registry').select stack path i = .ok selection' ∧
      (Option.Rel SelectionSet.Prunes selection selection' ∨
        (∃ key, S.classify registry' i = some (.scalar key)) ∧ selection' = none) := by
  have leaf : ∀ key, S.classify registry' i = some (.scalar key) →
      (e.against registry').select stack path i = .ok none :=
    fun key scalar => (e.against registry').select_of_scalar scalar
  rcases e.select_eq_ok_iff.1 done with ⟨key, scalar, rfl⟩ | ⟨j, set, composite, expanded, rfl⟩
  · have still : ∃ key', S.classify registry' i = some (.scalar key') := by
      rcases Schema.classifyWithin_of_extends more scalar with same | leaf
      · exact ⟨key, same⟩
      · exact leaf
    obtain ⟨key', scalar'⟩ := still
    exact ⟨none, leaf key' scalar', Or.inl .none⟩
  · rcases Schema.classifyWithin_of_extends more composite with same | ⟨key, scalar'⟩
    · obtain ⟨set', expanded', pruned⟩ := composites j set expanded
      refine ⟨some set', ?_, Or.inl (.some pruned)⟩
      rw [(e.against registry').select_of_composite same, expanded']
      rfl
    · exact ⟨none, leaf key scalar', Or.inr ⟨⟨key, scalar'⟩, rfl⟩⟩

/-- **An expansion that succeeds still does with more types registered**, and gives the same tree
    but for selections that are cut off. -/
theorem expand_of_extends (more : registry'.Extends e.registry) {set : SelectionSet}
    (done : e.expand stack path i = .ok set) :
    ∃ set', (e.against registry').expand stack path i = .ok set' ∧ set.Prunes set' := by
  induction stack, i using S.stackInduction generalizing path set with
  | visited stack i open' =>
    rw [e.expand_eq_of_visited stack path i open'] at done
    exact absurd done (by simp)
  | fresh stack i closed ih =>
    obtain ⟨-, fields⟩ := e.expand_eq_ok_iff.1 done
    -- member by member: the field's head does not depend on the registry
    have member : ∀ m f, e.field (S.key i :: stack) path m = .ok f →
        ∃ f', (e.against registry').field (S.key i :: stack) path m = .ok f' ∧ f.Prunes f' := by
      intro m f hf
      obtain ⟨selection, selected, rfl⟩ := e.field_eq_ok_iff.1 hf
      obtain ⟨selection', selected', pruned⟩ :=
        e.select_of_extends more (fun j set expanded => ih j expanded) selected
      refine ⟨_, (e.against registry').field_eq_ok_iff.2 ⟨selection', selected', rfl⟩, ?_⟩
      rcases pruned with related | ⟨-, rfl⟩
      · exact .of_rel (e.fieldHead m) related
      · exact .of_none (e.fieldHead m) selection
    obtain ⟨fields', expanded', pruned⟩ := exists_forall₂ fields member
    exact ⟨⟨fields'⟩, (e.against registry').expand_eq_ok_iff.2 ⟨closed, expanded'⟩, pruned⟩

/-- An expansion fails for a cycle, or at a type whose wrappers never end. -/
theorem eq_cyclicShape_or_endlessWrapper {error : QueryError}
    (failed : e.expand stack path i = .error error) :
    (∃ type path, error = .cyclicShape type path) ∨
      ∃ j, S.classify e.registry j = none ∧ error = .endlessWrapper (S.key j) := by
  induction stack, i using S.stackInduction generalizing path error with
  | visited stack i open' =>
    rw [e.expand_eq_of_visited stack path i open'] at failed
    exact Or.inl ⟨_, _, (Except.error.inj failed).symm⟩
  | fresh stack i closed ih =>
    rcases e.expand_eq_error_iff.1 failed with ⟨-, rfl⟩ | ⟨-, k, m, -, failed, -⟩
    · exact Or.inl ⟨_, _, rfl⟩
    rcases e.select_eq_error_iff.1 failed with ⟨endless, rfl⟩ | ⟨j, -, deeper⟩
    · exact Or.inr ⟨m.type, endless, rfl⟩
    · exact ih j deeper

/-- A root that does not compile meets a cycle, or a chain of wrappers that never ends. -/
theorem root_eq_error {error : QueryError} (failed : e.root root = .error error) :
    (∃ type path, error = .cyclicShape type path) ∨
      (∃ type, error = .endlessWrapper type) ∧ ¬ S.WrappersEnd e.registry := by
  have endless : ∀ j, S.classify e.registry j = none → ¬ S.WrappersEnd e.registry := by
    intro j unclassified ends
    obtain ⟨c, classified⟩ := Schema.classify_of_wrappersEnd ends j
    exact absurd (unclassified.symm.trans classified) (by simp)
  rcases e.select_eq_error_iff.1 (map_eq_error_iff.1 failed) with ⟨h, rfl⟩ | ⟨c, -, deeper⟩
  · exact Or.inr ⟨⟨_, rfl⟩, endless root h⟩
  · rcases e.eq_cyclicShape_or_endlessWrapper deeper with cyclic | ⟨j, h, rfl⟩
    · exact Or.inl cyclic
    · exact Or.inr ⟨⟨_, rfl⟩, endless j h⟩

/-- A root that compiles still does with more types registered. -/
theorem root_of_extends (more : registry'.Extends e.registry) {set : SelectionSet}
    (done : e.root root = .ok set) :
    ∃ set', (e.against registry').root root = .ok set' ∧
      (set.Prunes set' ∨
        (∃ key, S.classify registry' root = some (.scalar key)) ∧ set' = ⟨[]⟩) := by
  obtain ⟨selection, selected, rfl⟩ := map_eq_ok_iff.1 done
  obtain ⟨selection', selected', pruned⟩ := e.select_of_extends more
    (fun j set expanded => e.expand_of_extends more expanded) selected
  refine ⟨selection'.getD ⟨[]⟩, map_eq_ok_iff.2 ⟨selection', selected', rfl⟩, ?_⟩
  rcases pruned with related | ⟨scalar, rfl⟩
  · left
    cases related with
    | none => exact List.Forall₂.nil
    | some pruned => exact pruned
  · exact Or.inr ⟨scalar, rfl⟩

/-- A root that fails for a cycle with more types registered fails for a cycle with fewer, unless
    it meets wrappers that never end. -/
theorem cyclicShape_of_extends (more : registry'.Extends e.registry) {type : TypeKey}
    {path : List String} (failed : (e.against registry').root root = .error (.cyclicShape type path)) :
    (∃ type' path', e.root root = .error (.cyclicShape type' path')) ∨
      (∃ type', e.root root = .error (.endlessWrapper type')) ∧ ¬ S.WrappersEnd e.registry := by
  cases outcome : e.root root with
  | ok set =>
    -- it would compile with more types registered, too
    obtain ⟨set', done, -⟩ := e.root_of_extends more outcome
    exact absurd (failed.symm.trans done) (by simp)
  | error error =>
    rcases e.root_eq_error outcome with ⟨type', path', rfl⟩ | ⟨⟨type', rfl⟩, endless⟩
    · exact Or.inl ⟨type', path', rfl⟩
    · exact Or.inr ⟨⟨type', rfl⟩, endless⟩

/-- **Registering more types only prunes.** A root that compiles still compiles with more types
    registered, into the same tree with some nested selections cut off, or into the empty set if
    the root has become a leaf. And where wrappers end, a root that fails for a cycle with more types
    registered fails for a cycle with fewer. Where they do not, it does so exactly if the expansion
    with fewer finishes within some bounds. -/
theorem prunes_of_extends (more : registry'.Extends e.registry) (root : S.Ref) :
    (∀ set, e.root root = .ok set →
      ∃ set', (e.against registry').root root = .ok set' ∧
        (set.Prunes set' ∨
          (∃ key, S.classify registry' root = some (.scalar key)) ∧ set' = ⟨[]⟩)) ∧
    (S.WrappersEnd e.registry → ∀ type path,
      (e.against registry').root root = .error (.cyclicShape type path) →
        ∃ type' path', e.root root = .error (.cyclicShape type' path')) ∧
    ∀ type path, (e.against registry').root root = .error (.cyclicShape type path) →
      ((∃ type' path', e.root root = .error (.cyclicShape type' path')) ↔
        ∃ capacity steps, e.rootWithin capacity steps root ≠ .error .unfinished) := by
  refine ⟨fun set done => e.root_of_extends more done, fun ends type path failed => ?_,
    fun type path failed => ?_⟩
  · rcases e.cyclicShape_of_extends more failed with cyclic | ⟨-, endless⟩
    · exact cyclic
    · exact absurd ends endless
  · rw [e.rootWithin_finishes_iff]
    constructor
    · rintro ⟨type', path', cyclic⟩ type'' endless
      exact absurd (cyclic.symm.trans endless) (by simp)
    · intro finishes
      rcases e.cyclicShape_of_extends more failed with cyclic | ⟨⟨type', endless⟩, -⟩
      · exact cyclic
      · exact absurd endless (finishes type')

end Expansion

/-- With items registered, a pair loses what was selected of them and nothing else. -/
theorem pairs.selection_pruned :
    (Registry.builtin.register (pairs.key item)).Extends expansion.registry ∧
      ∃ set', (expansion.against (Registry.builtin.register (pairs.key item))).root pair =
          .ok set' ∧
        (selection.Prunes set' ∨
          (∃ key, pairs.classify (Registry.builtin.register (pairs.key item)) pair =
            some (.scalar key)) ∧ set' = ⟨[]⟩) := by
  have more : (Registry.builtin.register (pairs.key item)).Extends expansion.registry :=
    Registry.extends_registerAll .builtin [pairs.key item]
  exact ⟨more, (expansion.prunes_of_extends more pair).1 selection (root_eq ..)⟩

/-- A composite with itself behind a collection of itself. -/
def winding : Schema :=
  let whole : Fin 2 := ⟨0, Nat.two_pos⟩
  let turns : Fin 2 := .last 1
  .ofDeclarations fun i =>
    if i = turns then (⟨24, "Turns"⟩, .collection turns)
    else (⟨23, "Winding"⟩, .composite
      [⟨⟨⟨23, "Winding"⟩, "turns"⟩, none, turns⟩, ⟨⟨⟨23, "Winding"⟩, "core"⟩, none, whole⟩])

namespace winding

def whole : winding.Ref := (⟨0, Nat.two_pos⟩ : Fin 2)
def turns : winding.Ref := Fin.last 1

def expansion : Expansion winding := ⟨.builtin, .empty, [], ⟨.preserve⟩⟩

/-- The registry that holds the collection besides. -/
def registered : Registry := Registry.builtin.register (winding.key turns)

/-- With the collection registered the cycle behind it is reported. With fewer types registered
    it is not: the expansion stays with the collection and finishes within no bounds. -/
theorem cycle_unreported :
    registered.Extends expansion.registry ∧
      (expansion.against registered).root whole =
        .error (.cyclicShape ⟨23, "Winding"⟩ ["core"]) ∧
      (∀ capacity steps, expansion.rootWithin capacity steps whole = .error .unfinished) ∧
      ¬ ∃ type path, expansion.root whole = .error (.cyclicShape type path) := by
  have endless : expansion.root whole = .error (.endlessWrapper ⟨24, "Turns"⟩) := by
    rw [expansion.root_of_composite (j := whole) rfl, expansion.expand_eq_mapM rfl]
    rfl
  refine ⟨Registry.extends_register .builtin _, ?_, fun capacity steps => ?_, ?_⟩
  · let e := expansion.against registered
    have core : ∀ path, e.select [winding.key whole] path whole =
        .error (.cyclicShape (winding.key whole) path) := by
      intro path
      rw [e.select_of_composite (j := whole) rfl, e.expand_eq_of_visited _ _ _ rfl]
      rfl
    refine (e.root_of_composite (j := whole) rfl).trans ?_
    refine e.expand_eq_error_iff.2 (Or.inr ⟨rfl, 1, _, rfl, core _, ?_⟩)
    -- the collection before it is a leaf now
    have leaf : winding.classify registered turns = some (.scalar (winding.key turns)) := rfl
    intro k first m declared
    obtain rfl : k = 0 := by omega
    obtain rfl := Option.some.inj declared
    exact ⟨none, e.select_of_scalar leaf⟩
  · by_contra finished
    exact expansion.rootWithin_finishes_iff.1 ⟨capacity, steps, finished⟩ _ endless
  · rintro ⟨type, path, cyclic⟩
    exact absurd (cyclic.symm.trans endless) (by simp)

end winding

/-! ## Registries of the same types -/

/-- Of a registry a classification reads which of the family's keys it holds. -/
theorem Schema.classify_congr
    (same : ∀ i, registry'.contains (S.key i) = registry.contains (S.key i)) (i : S.Ref) :
    S.classify registry' i = S.classify registry i := by
  have within : ∀ fuel i, S.classifyWithin registry' fuel i = S.classifyWithin registry fuel i := by
    intro fuel
    induction fuel with
    | zero => exact fun _ => rfl
    | succ fuel ih =>
      intro i
      unfold classifyWithin
      rw [same]
      simp only [ih]
  exact within S.size i

namespace Expansion

theorem root_against_of_same (e : Expansion S)
    (same : ∀ i, registry'.contains (S.key i) = e.registry.contains (S.key i)) (i : S.Ref) :
    (e.against registry').root i = e.root i :=
  root_of_same (Schema.classify_congr same) fun _ => rfl

end Expansion

end TypedQuery
