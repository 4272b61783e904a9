import TypedQuery.Proofs.Query.Cycles
import TypedQuery.Proofs.Query.Leaves
import TypedQuery.Proofs.Query.Termination
import TypedQuery.Proofs.Shape.Layers

/-!
# Wrapping — layers around types do not show in what is compiled

Two families that differ in layers alone are expanded side by side. What is selected of a type and
of what covers it is the same, given the same of the composites that they come to
(`mapError_select_on`), and composites that stand for each other have members that do. Layers never
reach the stack, which holds keys of composites, nor the path, which holds names of members. So the
two expansions are **the same at every stack and path** (`mapError_expand_on`), a cycle included
that is closed through layers.

A type whose wrappers never end has no selection in either family. The error names the type the
search began at, which may be a layer in the one family and what it covers in the other, so results
are compared up to that name: `Alike`.
-/

set_option autoImplicit false

namespace TypedQuery

open Outcome Schema

variable {S S' : Schema} {registry : Registry} {place : S.Ref → S'.Ref}

/-- The same success or the same failure; of wrappers without end, which are no answer, only that
    they are met. -/
structure Alike {α : Type} (r r' : Except QueryError α) : Prop where
  ok : ∀ a, r' = .ok a ↔ r = .ok a
  failed : ∀ error, (∀ type, error ≠ .endlessWrapper type) → (r' = .error error ↔ r = .error error)
  endless : (∃ type, r' = .error (.endlessWrapper type)) ↔ ∃ type, r = .error (.endlessWrapper type)

theorem alike_of_mapError_eq {α : Type} {r r' : Except QueryError α}
    (same : r'.mapError Halt.ofError = r.mapError Halt.ofError) : Alike r r' := by
  have failed : ∀ {x : Except QueryError α} {error : QueryError},
      (∀ type, error ≠ .endlessWrapper type) →
      (x.mapError Halt.ofError = .error (.failed error) ↔ x = .error error) := by
    intro x error plain
    rw [mapError_eq_error_iff]
    simp only [Halt.ofError_eq_failed_iff]
    exact ⟨fun ⟨_, h, same, _⟩ => same ▸ h, fun h => ⟨error, h, rfl, plain⟩⟩
  have unfinished : ∀ {x : Except QueryError α},
      x.mapError Halt.ofError = .error .unfinished ↔
        ∃ type, x = .error (.endlessWrapper type) := by
    intro x
    rw [mapError_eq_error_iff]
    simp only [Halt.ofError_eq_unfinished_iff]
    exact ⟨fun ⟨_, h, type, same⟩ => ⟨type, same ▸ h⟩, fun ⟨type, h⟩ => ⟨_, h, type, rfl⟩⟩
  refine ⟨fun a => ?_, fun error plain => ?_, ?_⟩
  · rw [← mapError_eq_ok_iff (f := Halt.ofError), same, mapError_eq_ok_iff]
  · rw [← failed plain, same, failed plain]
  · rw [← unfinished, same, unfinished]

/-! ## Two expansions side by side -/

namespace Expansion

/-- The same expansion of another family. Metadata and arguments are kept by the identities of
    members, which families may share. -/
def on (e : Expansion S) (S' : Schema) : Expansion S' :=
  ⟨e.registry, e.metadata, e.arguments, e.config⟩

variable (e : Expansion S) {stack : List TypeKey} {path : List String}

theorem fieldHead_on {m : Member S.size} {m' : Member S'.size}
    (stands : MemberRewraps registry place m m') : (e.on S').fieldHead m' = e.fieldHead m := by
  unfold fieldHead on Member.name
  rw [stands.id, stands.rename]

/-- What is selected of what covers a type, given the same of the composites. -/
theorem mapError_select_on (rewraps : S.Rewraps S' e.registry place) {i : S.Ref} {i' : S'.Ref}
    (covers : S'.Covers e.registry i' (place i))
    (composites : ∀ j, ((e.on S').expand stack path (place j)).mapError Halt.ofError =
      (e.expand stack path j).mapError Halt.ofError) :
    ((e.on S').select stack path i').mapError Halt.ofError =
      (e.select stack path i).mapError Halt.ofError := by
  have classified := rewraps.rel_classify_of_covers covers
  unfold select
  rw [show (e.on S').registry = e.registry from rfl]
  generalize S.classify e.registry i = here, S'.classify e.registry i' = there at classified ⊢
  cases classified with
  | none => rfl
  | some corresponds =>
    cases corresponds with
    | scalar key => rfl
    | @composite j j' same =>
      show (((e.on S').expand stack path j').map some).mapError Halt.ofError =
        ((e.expand stack path j).map some).mapError Halt.ofError
      rw [(e.on S').expand_congr same, mapError_map, mapError_map, composites j]

/-- **Layers show in no expansion.** The induction is along the expansion of the first family; the
    second has the same keys on its stack all the way. -/
theorem mapError_expand_on (rewraps : S.Rewraps S' e.registry place) (i : S.Ref) :
    ((e.on S').expand stack path (place i)).mapError Halt.ofError =
      (e.expand stack path i).mapError Halt.ofError := by
  induction stack, i using S.stackInduction generalizing path with
  | visited stack i open' =>
    have there : stack.any (· == S'.key (place i)) = true := by rwa [rewraps.key]
    rw [(e.on S').expand_eq_of_visited stack path (place i) there,
      e.expand_eq_of_visited stack path i open', rewraps.key]
  | fresh stack i closed ih =>
    have there : stack.any (· == S'.key (place i)) = false := by rwa [rewraps.key]
    rw [(e.on S').mapError_expand there, e.mapError_expand closed, rewraps.key]
    apply congrArg (Except.map SelectionSet.mk)
    refine (mapM_congr ((rewraps.members i).imp fun m m' stands => ?_)).symm
    have name : m'.name = m.name := congrArg FieldId.name stands.id
    rw [name, e.fieldHead_on stands, e.mapError_select_on rewraps stands.type fun j => ih j]

theorem mapError_root_on (rewraps : S.Rewraps S' e.registry place) {i : S.Ref} {i' : S'.Ref}
    (covers : S'.Covers e.registry i' (place i)) :
    ((e.on S').root i').mapError Halt.ofError = (e.root i).mapError Halt.ofError := by
  unfold root
  rw [mapError_map, mapError_map,
    e.mapError_select_on rewraps covers fun j => e.mapError_expand_on rewraps j]

end Expansion

/-! ## Queries -/

namespace Query

variable {q : Query S} {before : Registry}

/-- The same query over a type of another family. -/
def on (q : Query S) (root : S'.Ref) : Query S' := ⟨root, q.encoder, q.config, q.metadata⟩

theorem registry_compile_on (q : Query S) (root : S'.Ref) (before : Registry) :
    ((q.on root).compile before).registry = (q.compile before).registry := by
  rw [registry_compile, registry_compile]
  rfl

theorem mapError_outcome_on (rewraps : S.Rewraps S' (q.compile before).registry place)
    {root' : S'.Ref} (covers : S'.Covers (q.compile before).registry root' (place q.root)) :
    ((q.on root').compile before).outcome.mapError Halt.ofError =
      (q.compile before).outcome.mapError Halt.ofError := by
  cases encoded : (q.metadata.encodeParameters q.encoder).outcome with
  | error error =>
    rw [outcome_compile_of_error encoded, outcome_compile_of_error (q := q.on root') encoded]
  | ok arguments =>
    rw [outcome_compile_of_ok encoded, outcome_compile_of_ok (q := q.on root') encoded,
      registry_compile_on]
    exact Expansion.mapError_root_on ⟨_, q.metadata, arguments, q.config⟩ rewraps covers

end Query

/-- **Wrappers and pointers are invisible.** Let a second family differ from a first in layers
    alone: the types of members, and what wrappers hold, may be covered by any number of unregistered
    collections and optionals and of pointers, and so may the root. Then the two roots compile
    alike, whatever the metadata, the arguments and the naming: into the same selection, or into the
    same cycle under the same path. And so do two queries that differ in that, as selections and as
    texts, whatever their encoder, if the registry is the one that encoding leaves. -/
theorem compile_rewrapped {root : S.Ref} {root' : S'.Ref}
    (rewraps : S.Rewraps S' registry place) (covers : S'.Covers registry root' (place root)) :
    (∀ metadata arguments config,
      Alike ((⟨registry, metadata, arguments, config⟩ : Expansion S).root root)
        ((⟨registry, metadata, arguments, config⟩ : Expansion S').root root')) ∧
    ∀ (encoder : Encoder) (config : QueryConfig) (metadata : Metadata) (before : Registry),
      ((⟨root, encoder, config, metadata⟩ : Query S).compile before).registry = registry →
      ((⟨root', encoder, config, metadata⟩ : Query S').compile before).registry = registry ∧
      Alike ((⟨root, encoder, config, metadata⟩ : Query S).compile before).outcome
        ((⟨root', encoder, config, metadata⟩ : Query S').compile before).outcome ∧
      Alike ((⟨root, encoder, config, metadata⟩ : Query S).text before)
        ((⟨root', encoder, config, metadata⟩ : Query S').text before) := by
  constructor
  · intro metadata arguments config
    let e : Expansion S := ⟨registry, metadata, arguments, config⟩
    exact alike_of_mapError_eq (e.mapError_root_on rewraps covers)
  · intro encoder config metadata before left
    let q : Query S := ⟨root, encoder, config, metadata⟩
    have outcomes : ((q.on root').compile before).outcome.mapError Halt.ofError =
        (q.compile before).outcome.mapError Halt.ofError :=
      Query.mapError_outcome_on (left ▸ rewraps) (left ▸ covers)
    refine ⟨(q.registry_compile_on root' before).trans left, alike_of_mapError_eq outcomes, ?_⟩
    apply alike_of_mapError_eq
    show (((q.on root').compile before).outcome.map SelectionSet.text).mapError Halt.ofError =
      ((q.compile before).outcome.map SelectionSet.text).mapError Halt.ofError
    rw [mapError_map, mapError_map, outcomes]

/-! ## Declared pointers -/

section Declared

variable {n : Nat} {declared : Fin n → TypeKey × Declaration n} {i target : Fin n}
  {d : Descriptor n}

theorem Declaration.resolve_succ {fuel : Nat} (resolved : resolve declared fuel i = some d) :
    resolve declared (fuel + 1) i = some d := by
  induction fuel generalizing i with
  | zero => exact absurd resolved nofun
  | succ fuel ih =>
    unfold resolve at resolved ⊢
    split at resolved
    · exact resolved
    · exact resolved
    · exact resolved
    · exact resolved
    · exact ih resolved

/-- A declared pointer that leads to a type is a layer around what it points to. -/
theorem Schema.layer_of_pointer (pointer : (declared i).2 = .pointer target)
    (leads : Declaration.resolve declared n i = some d) :
    (ofDeclarations declared).Layer registry i target := by
  obtain ⟨m, rfl⟩ : ∃ m, n = m + 1 := ⟨n - 1, by have := i.isLt; omega⟩
  have onward : Declaration.resolve declared (m + 1) target = some d := by
    rw [resolve_of_pointer pointer] at leads
    exact Declaration.resolve_succ leads
  refine Or.inr ?_
  show (Declaration.resolve declared (m + 1) i).getD _ =
    (Declaration.resolve declared (m + 1) target).getD _
  rw [leads, onward]
  rfl

end Declared

/-- Authors and books that refer to each other directly. -/
def shelf : Schema :=
  .ofDeclarations fun i : Fin 3 => match i with
    | 0 => (Builtin.string.key, .scalar)
    | 1 => (⟨23, "Author"⟩, .composite
        [⟨⟨⟨23, "Author"⟩, "name"⟩, none, 0⟩, ⟨⟨⟨23, "Author"⟩, "books"⟩, none, 2⟩])
    | 2 => (⟨24, "Book"⟩, .composite
        [⟨⟨⟨24, "Book"⟩, "title"⟩, none, 0⟩, ⟨⟨⟨24, "Book"⟩, "author"⟩, none, 1⟩])

namespace shelf

def author : shelf.Ref := (1 : Fin 3)
def book : shelf.Ref := (2 : Fin 3)

/-- The library has the types of the shelf in the same places, and the layers behind them. -/
def inLibrary (i : shelf.Ref) : library.Ref := Fin.castLE (by decide : 3 ≤ 5) i

def boxedAuthor : library.Ref := Fin.last 4

theorem covers_author : library.Covers .builtin boxedAuthor (inLibrary author) := by
  have layer : library.Layer .builtin (4 : Fin 5) (1 : Fin 5) := layer_of_pointer rfl rfl
  exact .single layer

theorem rewraps_library : shelf.Rewraps library .builtin inLibrary := by
  have text : library.Covers .builtin (0 : Fin 5) (inLibrary (0 : Fin 3)) := .refl
  have books : library.Covers .builtin (3 : Fin 5) (inLibrary book) :=
    .single (Or.inl ⟨rfl, Or.inl rfl⟩)
  constructor
  · intro i
    match i with
    | (0 : Fin 3) | (1 : Fin 3) | (2 : Fin 3) => rfl
  · intro i
    match i with
    | (0 : Fin 3) => exact .scalar
    | (1 : Fin 3) => exact .composite (.cons ⟨rfl, rfl, text⟩ (.cons ⟨rfl, rfl, books⟩ .nil))
    | (2 : Fin 3) =>
      exact .composite (.cons ⟨rfl, rfl, text⟩ (.cons ⟨rfl, rfl, covers_author⟩ .nil))

/-- A list of books and a pointer to their author close the same cycle as the book and the author
    themselves. -/
theorem cycle_rewrapped :
    shelf.Rewraps library .builtin inLibrary ∧
      library.Covers .builtin boxedAuthor (inLibrary author) ∧
      ((⟨boxedAuthor, .default, .default, .empty⟩ : Query library).compile .builtin).outcome =
        .error (.cyclicShape ⟨23, "Author"⟩ ["books", "author"]) := by
  refine ⟨rewraps_library, covers_author, ?_⟩
  let q : Query shelf := ⟨author, .default, .default, .empty⟩
  have within : q.compileWithin .builtin 2 3 =
      .error (.failed (.cyclicShape ⟨23, "Author"⟩ ["books", "author"])) := rfl
  have cyclic : (q.compile .builtin).outcome =
      .error (.cyclicShape ⟨23, "Author"⟩ ["books", "author"]) := by
    rcases q.compileWithin_below .builtin 2 3 with unfinished | whole
    · exact absurd (within.symm.trans unfinished) (by simp)
    · obtain ⟨error, failed, same⟩ := mapError_eq_error_iff.1 (whole.symm.trans within)
      rw [failed, (Halt.ofError_eq_failed_iff.1 same).1]
  obtain ⟨-, queries⟩ := compile_rewrapped rewraps_library covers_author
  obtain ⟨-, alike, -⟩ := queries .default .default .empty .builtin rfl
  exact (alike.failed _ (by simp)).2 cyclic

end shelf

end TypedQuery
