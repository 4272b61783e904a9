import TypedQuery.Proofs.Query.Expansion
import TypedQuery.Proofs.Shape.Route

/-!
# `Produces` — a field anywhere in a tree is what its member alone would give

A compiled tree and the family it was compiled from are read by the same places: a list of positions
leads to a field of the one and to a member of the other. At every places there is a field exactly
when there is a member, and the field is the member's: its name, alias and arguments are those the
expansion gives the member, and its selection is none for a leaf and otherwise what **the member's
type gives when it is compiled as a root of its own** (`root_produces`). What stands around a field,
before it or above it, therefore has no part in what is selected of it.
-/

set_option autoImplicit false

namespace TypedQuery

open Outcome

variable {S : Schema}

/-- The field at the end of places, each a position among the fields selected of the one before. -/
def SelectionSet.fieldAt? (set : SelectionSet) : List Nat → Option SelectionField
  | [] => none
  | [k] => set.fields[k]?
  | k :: rest => (set.fields[k]?).bind fun f => f.selection.bind fun sub => sub.fieldAt? rest

namespace Expansion

variable (e : Expansion S) {root : S.Ref} {set : SelectionSet}

/-- The field of a member, wherever the member stands. -/
structure Produces (m : Member S.size) (f : SelectionField) : Prop where
  head : f.head = e.fieldHead m
  /-- Nothing is selected of leaves, and of leaves only. -/
  leaf : f.selection = none ↔ ∃ key, S.classify e.registry m.type = some (.scalar key)
  /-- What is selected is what the member's type selects on its own. -/
  alone : ∀ sub, f.selection = some sub → e.root m.type = .ok sub

/-- The root of a type is what is selected of it, or the empty set. -/
theorem root_of_select {sub : SelectionSet} {i : S.Ref} (h : e.select [] [] i = .ok (some sub)) :
    e.root i = .ok sub := by
  rw [root, h]
  rfl

theorem produces_of_select {m : Member S.size} {f : SelectionField} (head : f.head = e.fieldHead m)
    (alone : e.select [] [] m.type = .ok f.selection) : e.Produces m f := by
  refine ⟨head, ?_, fun sub h => e.root_of_select (h ▸ alone)⟩
  constructor
  · intro none
    rcases e.select_eq_ok_iff.1 alone with ⟨key, leaf, -⟩ | ⟨j, sub, -, -, some⟩
    · exact ⟨key, leaf⟩
    · exact absurd (none.symm.trans some) (by simp)
  · rintro ⟨key, leaf⟩
    rw [e.select_of_scalar leaf] at alone
    exact (Except.ok.inj alone).symm

/-- The fields of a compiled root are those of its members, each selected on its own. -/
theorem forall₂_of_root (done : e.root root = .ok set) :
    List.Forall₂ (fun m f => f.head = e.fieldHead m ∧ e.select [] [] m.type = .ok f.selection)
      (S.selectedMembers e.registry root) set.fields := by
  obtain ⟨selection, selected, rfl⟩ := map_eq_ok_iff.1 done
  rcases e.select_eq_ok_iff.1 selected with ⟨key, leaf, rfl⟩ | ⟨c, set, composite, expanded, rfl⟩
  · rw [Schema.selectedMembers_of_scalar leaf]
    exact .nil
  · rw [Schema.selectedMembers_of_composite composite]
    obtain ⟨-, fields⟩ := e.expand_eq_ok_iff.1 expanded
    refine fields.imp fun m f hf => ?_
    obtain ⟨selection, selected, rfl⟩ := e.field_eq_ok_iff.1 hf
    rw [SelectionField.head_make, SelectionField.selection_make]
    exact ⟨rfl, e.select_alone selected⟩

/-- At every places a compiled root has the field of the member there. -/
theorem rel_fieldAt?_of_root (done : e.root root = .ok set) (places : List Nat) :
    Option.Rel e.Produces (S.memberAt? e.registry root places) (set.fieldAt? places) := by
  induction places generalizing root set with
  | nil => exact .none
  | cons k rest ih =>
    have here := rel_getElem?_of_forall₂ (e.forall₂_of_root done) k
    cases rest with
    | nil =>
      unfold Schema.memberAt? SelectionSet.fieldAt?
      generalize (S.selectedMembers e.registry root)[k]? = member, set.fields[k]? = field at here ⊢
      cases here with
      | none => exact .none
      | some hf => exact .some (e.produces_of_select hf.1 hf.2)
    | cons k' rest =>
      unfold Schema.memberAt? SelectionSet.fieldAt?
      generalize (S.selectedMembers e.registry root)[k]? = member, set.fields[k]? = field at here ⊢
      cases here with
      | none => exact .none
      | @some m f hf =>
        show Option.Rel e.Produces (S.memberAt? e.registry m.type (k' :: rest))
          (f.selection.bind fun sub => sub.fieldAt? (k' :: rest))
        cases selection : f.selection with
        | some sub => exact ih (e.root_of_select (selection ▸ hf.2))
        | none =>
          -- below a leaf there are no members either
          obtain ⟨key, leaf⟩ := (e.produces_of_select hf.1 hf.2).leaf.1 selection
          rw [Schema.memberAt?_of_scalar leaf]
          exact .none

/-- Types with the same descriptor expand to the same. -/
theorem expand_congr {stack : List TypeKey} {path : List String} {i j : S.Ref}
    (same : S.descriptor i = S.descriptor j) : e.expand stack path i = e.expand stack path j := by
  have sameKey : S.key i = S.key j := congrArg Descriptor.key same
  cases h : stack.any (· == S.key i) with
  | true =>
    rw [e.expand_eq_of_visited stack path i h,
      e.expand_eq_of_visited stack path j (sameKey ▸ h), sameKey]
  | false => rw [e.expand_eq_mapM h, e.expand_eq_mapM (sameKey ▸ h), sameKey, same]

/-- The selection of a composite member is the expansion of the composite alone. -/
theorem Produces.selection_eq {m : Member S.size} {f : SelectionField} (h : e.Produces m f)
    {j : S.Ref} (composite : S.classify e.registry m.type = some (.composite j)) :
    ∃ sub, f.selection = some sub ∧ e.expand [] [] j = .ok sub := by
  cases selection : f.selection with
  | none =>
    obtain ⟨key, leaf⟩ := h.leaf.1 selection
    exact absurd (composite.symm.trans leaf) (by simp)
  | some sub =>
    have alone := h.alone sub selection
    rw [e.root_of_composite composite] at alone
    exact ⟨sub, rfl, alone⟩

/-- **Compilation is compositional and context free.** At every places a compiled root has the field
    that the member there produces, and none where there is no member. Two fields whose members
    unwrap to one composite, in this tree or in any other the expansion compiles, have equal
    selections. -/
theorem root_produces (done : e.root root = .ok set) :
    (∀ places,
      Option.Rel e.Produces (S.memberAt? e.registry root places) (set.fieldAt? places)) ∧
    ∀ root' set', e.root root' = .ok set' → ∀ places places' m m' f f' j j',
      S.memberAt? e.registry root places = some m → set.fieldAt? places = some f →
      S.memberAt? e.registry root' places' = some m' → set'.fieldAt? places' = some f' →
      S.classify e.registry m.type = some (.composite j) →
      S.classify e.registry m'.type = some (.composite j') →
      S.descriptor j = S.descriptor j' → f.selection = f'.selection := by
  refine ⟨e.rel_fieldAt?_of_root done, ?_⟩
  intro root' set' done' places places' m m' f f' j j' hm hf hm' hf' hj hj' same
  have produced := e.rel_fieldAt?_of_root done places
  have produced' := e.rel_fieldAt?_of_root done' places'
  rw [hm, hf, Option.rel_some_some] at produced
  rw [hm', hf', Option.rel_some_some] at produced'
  obtain ⟨sub, selection, expanded⟩ := produced.selection_eq e hj
  obtain ⟨sub', selection', expanded'⟩ := produced'.selection_eq e hj'
  rw [e.expand_congr same, expanded'] at expanded
  rw [selection, selection', Except.ok.inj expanded]

end Expansion

/-- Pairs of an item and a list of items. -/
def pairs : Schema :=
  .ofDeclarations fun i : Fin 4 => match i with
    | 0 => (Builtin.int32.key, .scalar)
    | 1 => (⟨23, "Item"⟩, .composite [⟨⟨⟨23, "Item"⟩, "id"⟩, none, 0⟩])
    | 2 => (⟨24, "Vec<Item>"⟩, .collection 1)
    | 3 => (⟨25, "Pair"⟩, .composite
        [⟨⟨⟨25, "Pair"⟩, "foo"⟩, none, 1⟩, ⟨⟨⟨25, "Pair"⟩, "bar"⟩, some "bars", 2⟩])

namespace pairs

def item : pairs.Ref := (1 : Fin 4)
def pair : pairs.Ref := (3 : Fin 4)

/-- The members of an item and of a pair. -/
def itemId : Member pairs.size := ⟨⟨⟨23, "Item"⟩, "id"⟩, none, (0 : Fin 4)⟩
def pairFoo : Member pairs.size := ⟨⟨⟨25, "Pair"⟩, "foo"⟩, none, item⟩
def pairBar : Member pairs.size := ⟨⟨⟨25, "Pair"⟩, "bar"⟩, some "bars", (2 : Fin 4)⟩

/-- What a pair expands to, whatever the metadata and the naming. -/
theorem root_eq (metadata : Metadata) (arguments : Arguments) (config : QueryConfig) :
    let e : Expansion pairs := ⟨.builtin, metadata, arguments, config⟩
    e.root pair = .ok ⟨[.nested (e.fieldHead pairFoo) [.leaf (e.fieldHead itemId)],
      .nested (e.fieldHead pairBar) [.leaf (e.fieldHead itemId)]]⟩ := by
  intro e
  have items : ∀ stack path, stack.any (· == pairs.key item) = false →
      e.expand stack path item = .ok ⟨[.leaf (e.fieldHead itemId)]⟩ := by
    intro stack path closed
    rw [e.expand_eq_mapM closed]
    rfl
  rw [e.root_of_composite (j := pair) rfl]
  refine e.expand_eq_ok_iff.2 ⟨rfl, .cons ?_ (.cons ?_ .nil)⟩
  · refine e.field_eq_ok_iff.2 ⟨some ⟨[.leaf (e.fieldHead itemId)]⟩, ?_, rfl⟩
    exact (e.select_of_composite rfl).trans (congrArg (Except.map some) (items _ _ rfl))
  · refine e.field_eq_ok_iff.2 ⟨some ⟨[.leaf (e.fieldHead itemId)]⟩, ?_, rfl⟩
    exact (e.select_of_composite rfl).trans (congrArg (Except.map some) (items _ _ rfl))

/-- The expansion of pairs without metadata. -/
def expansion : Expansion pairs := ⟨.builtin, .empty, [], ⟨.preserve⟩⟩

/-- What is selected of a pair. -/
def selection : SelectionSet :=
  ⟨[.nested ⟨"foo", none, []⟩ [.leaf ⟨"id", none, []⟩],
    .nested ⟨"bars", none, []⟩ [.leaf ⟨"id", none, []⟩]]⟩

/-- An item and a list of items in one pair: the fields at both places are those their members
    produce, and what is selected of the one is selected of the other. -/
theorem expansion_produces :
    expansion.root pair = .ok selection ∧
      (∀ places, Option.Rel expansion.Produces (pairs.memberAt? .builtin pair places)
        (selection.fieldAt? places)) ∧
      (selection.fieldAt? [0]).map (·.selection) = (selection.fieldAt? [1]).map (·.selection) := by
  have done : expansion.root pair = .ok selection := root_eq ..
  obtain ⟨produced, repeated⟩ := expansion.root_produces done
  refine ⟨done, produced, congrArg some ?_⟩
  exact repeated pair selection done [0] [1] pairFoo pairBar _ _ item item rfl rfl rfl rfl rfl rfl rfl

end pairs

end TypedQuery
