import TypedQuery.Proofs.Query.Attachment
import TypedQuery.Proofs.Query.Pruning

/-!
# `compileWithin` — which compilations end

Compiling is a function, so of wrappers without end it says something, too: `endlessWrapper`. A
compilation within bounds says that it is unfinished, whatever the bounds, and agrees with compiling
otherwise (`compileWithin_below`, `compileWithin_finishes_iff`). So **compiling ends for every root
exactly where no chain of wrappers is endless**, and then within bounds that do not depend on the
query (`compile_ends_iff`). The stack finds out composites that contain themselves; nothing finds
out a collection of itself.
-/

set_option autoImplicit false

namespace TypedQuery

open Outcome

variable {S : Schema}

namespace Query

variable {q : Query S} {registry : Registry}

/-- Compiles with room for `capacity` composites on the stack, and with at most `steps` wrappers
    taken off a type. -/
def compileWithin (q : Query S) (registry : Registry) (capacity steps : Nat) :
    Except Halt SelectionSet :=
  let encoding := q.metadata.encodeParameters q.encoder
  match encoding.outcome with
  | .error error => .error (.failed (.encode error))
  | .ok arguments =>
    (Expansion.mk (registry.registerAll encoding.registered) q.metadata arguments q.config :
      Expansion S).rootWithin capacity steps q.root

theorem compileWithin_of_ok {arguments : Arguments} {capacity steps : Nat}
    (encoded : (q.metadata.encodeParameters q.encoder).outcome = .ok arguments) :
    q.compileWithin registry capacity steps =
      (Expansion.mk (q.compile registry).registry q.metadata arguments q.config :
        Expansion S).rootWithin capacity steps q.root := by
  rw [registry_compile]
  unfold compileWithin
  dsimp only
  rw [encoded]

theorem compileWithin_of_error {error : EncodeError} {capacity steps : Nat}
    (failed : (q.metadata.encodeParameters q.encoder).outcome = .error error) :
    q.compileWithin registry capacity steps =
      (q.compile registry).outcome.mapError Halt.ofError := by
  rw [outcome_compile_of_error failed]
  unfold compileWithin
  dsimp only
  rw [failed]
  rfl

/-- A run that is not finished is the only one that says less than compiling does. -/
theorem compileWithin_below (q : Query S) (registry : Registry) (capacity steps : Nat) :
    Halt.Below (q.compileWithin registry capacity steps)
      ((q.compile registry).outcome.mapError Halt.ofError) := by
  cases encoded : (q.metadata.encodeParameters q.encoder).outcome with
  | error error => exact Or.inr (compileWithin_of_error encoded)
  | ok arguments =>
    rw [compileWithin_of_ok encoded, outcome_compile_of_ok encoded]
    exact Expansion.rootWithin_below _ capacity steps q.root

/-- **The bounds of the family are enough for any query.** -/
theorem compileWithin_eq (q : Query S) (registry : Registry) :
    q.compileWithin registry S.compositeKeys.card S.size =
      (q.compile registry).outcome.mapError Halt.ofError := by
  cases encoded : (q.metadata.encodeParameters q.encoder).outcome with
  | error error => exact compileWithin_of_error encoded
  | ok arguments =>
    rw [compileWithin_of_ok encoded, outcome_compile_of_ok encoded]
    exact Expansion.rootWithin_eq _ q.root

/-- A query finishes within some bounds unless it meets wrappers that never end. -/
theorem compileWithin_finishes_iff :
    (∃ capacity steps, q.compileWithin registry capacity steps ≠ .error .unfinished) ↔
      ∀ type, (q.compile registry).outcome ≠ .error (.endlessWrapper type) :=
  Halt.finishes_iff (q.compileWithin_below registry) (q.compileWithin_eq registry)

theorem outcome_compile_of_unclassified (encodes : q.metadata.Encodes q.encoder)
    (unclassified : S.classify (q.compile registry).registry q.root = none) :
    (q.compile registry).outcome = .error (.endlessWrapper (S.key q.root)) := by
  obtain ⟨arguments, encoded, -⟩ := Metadata.encodeParameters_ok encodes
  rw [outcome_compile_of_ok encoded]
  exact map_eq_error_iff.2 (Expansion.select_eq_error_iff _ |>.2 (Or.inl ⟨unclassified, rfl⟩))

/-- Where wrappers end, what encodes compiles, but for cycles. -/
theorem outcome_compile_of_wrappersEnd (encodes : q.metadata.Encodes q.encoder)
    (ends : S.WrappersEnd (q.compile registry).registry) :
    (∃ set, (q.compile registry).outcome = .ok set) ∨
      ∃ type path, (q.compile registry).outcome = .error (.cyclicShape type path) := by
  obtain ⟨arguments, encoded, -⟩ := Metadata.encodeParameters_ok encodes
  rw [outcome_compile_of_ok encoded]
  cases outcome : (Expansion.mk (q.compile registry).registry q.metadata arguments q.config :
      Expansion S).root q.root with
  | ok set => exact Or.inl ⟨set, rfl⟩
  | error error =>
    rcases Expansion.root_eq_error _ outcome with ⟨type, path, rfl⟩ | ⟨-, endless⟩
    · exact Or.inr ⟨type, path, rfl⟩
    · exact absurd ends endless

/-- **Compiling ends exactly where wrappers do.** Against the registry that encoding leaves, these
    are the same: no chain of wrappers is endless; every type is classified within some number of
    steps; every root compiles within some bounds. Then it compiles with at most as many composites
    on the stack as the family has keys of composites, and with at most as many wrappers taken off a
    type as it has types, into a selection or into a cycle. -/
theorem compile_ends_iff (encodes : q.metadata.Encodes q.encoder) :
    (S.WrappersEnd (q.compile registry).registry ↔
      ∀ i, ∃ steps c, S.classifyWithin (q.compile registry).registry steps i = some c) ∧
    (S.WrappersEnd (q.compile registry).registry ↔
      ∀ root : S.Ref, ∃ capacity steps,
        ({ q with root } : Query S).compileWithin registry capacity steps ≠ .error .unfinished) ∧
    (S.WrappersEnd (q.compile registry).registry →
      (∃ set, (q.compile registry).outcome = .ok set ∧
        q.compileWithin registry S.compositeKeys.card S.size = .ok set) ∨
      ∃ type path, (q.compile registry).outcome = .error (.cyclicShape type path) ∧
        q.compileWithin registry S.compositeKeys.card S.size =
          .error (.failed (.cyclicShape type path))) := by
  have sameRegistry : ∀ root : S.Ref,
      (({ q with root } : Query S).compile registry).registry = (q.compile registry).registry := by
    intro root
    rw [registry_compile, registry_compile]
  refine ⟨?_, ?_, ?_⟩
  · rw [Schema.wrappersEnd_iff]
    refine forall_congr' fun i => Option.isSome_iff_exists.trans ⟨?_, ?_⟩
    · rintro ⟨c, classified⟩
      exact ⟨S.size, c, classified⟩
    · rintro ⟨steps, c, classified⟩
      exact ⟨c, Schema.classify_of_classifyWithin classified⟩
  · constructor
    · intro ends root
      apply compileWithin_finishes_iff.2
      intro type endless
      rcases outcome_compile_of_wrappersEnd (q := { q with root }) encodes
        (sameRegistry root ▸ ends) with ⟨set, done⟩ | ⟨type', path, cyclic⟩
      · exact absurd (done.symm.trans endless) (by simp)
      · exact absurd (cyclic.symm.trans endless) (by simp)
    · intro finishes
      apply Schema.wrappersEnd_iff.2
      intro i
      by_contra unclassified
      rw [Option.not_isSome_iff_eq_none] at unclassified
      -- a type that is wrapped for ever is a root that does not finish
      rw [← sameRegistry i] at unclassified
      have endless :=
        outcome_compile_of_unclassified (q := { q with root := i }) encodes unclassified
      exact compileWithin_finishes_iff.1 (finishes i) _ endless
  · intro ends
    rw [q.compileWithin_eq registry]
    rcases outcome_compile_of_wrappersEnd encodes ends with ⟨set, done⟩ | ⟨type, path, cyclic⟩
    · exact Or.inl ⟨set, done, by rw [done]; rfl⟩
    · exact Or.inr ⟨type, path, cyclic, by rw [cyclic]; rfl⟩

end Query

/-- A query over pairs compiles with room for two composites on the stack, its parameters and all. -/
theorem pairs.query_ends :
    query.metadata.Encodes query.encoder ∧ pairs.WrappersEnd (query.compile .builtin).registry ∧
      query.compileWithin .builtin 2 4 = .ok attachedSelection := by
  have encodes : query.metadata.Encodes query.encoder := Metadata.encodes_iff.2 ⟨_, rfl⟩
  have ends : pairs.WrappersEnd (query.compile .builtin).registry := by decide
  refine ⟨encodes, ends, ?_⟩
  obtain ⟨-, -, within⟩ := query.compile_ends_iff encodes
  rcases within ends with ⟨set, done, within⟩ | ⟨type, path, cyclic, -⟩
  · obtain rfl := Except.ok.inj (outcome_compile_query.symm.trans done)
    exact within
  · exact absurd (outcome_compile_query.symm.trans cyclic) (by simp)

/-- A composite whose only member is a collection of itself. -/
def spiral : Schema :=
  .ofDeclarations fun i : Fin 2 => match i with
    | 0 => (⟨23, "Spiral"⟩, .composite [⟨⟨⟨23, "Spiral"⟩, "turns"⟩, none, 1⟩])
    | 1 => (⟨24, "Turns"⟩, .collection 1)

namespace spiral

def whole : spiral.Ref := (0 : Fin 2)
def turns : spiral.Ref := (1 : Fin 2)

def query : Query spiral := ⟨whole, .default, .default, .empty⟩

/-- The collection is never classified, and the query over the composite never finishes. -/
theorem never_ends :
    query.metadata.Encodes query.encoder ∧
      (∀ steps, spiral.classifyWithin .builtin steps turns = none) ∧
      ∀ capacity steps, query.compileWithin .builtin capacity steps = .error .unfinished := by
  have again : ∀ n : Nat, spiral.Wraps .builtin turns turns := fun _ => ⟨rfl, Or.inl rfl⟩
  have endless : (query.compile .builtin).outcome = .error (.endlessWrapper ⟨24, "Turns"⟩) := by
    have encoded : (query.metadata.encodeParameters query.encoder).outcome = .ok [] := rfl
    rw [Query.outcome_compile_of_ok encoded]
    rw [Expansion.root_of_composite (j := whole) _ rfl, Expansion.expand_eq_mapM _ rfl]
    rfl
  refine ⟨fun id p mem => absurd mem List.not_mem_nil, ?_, ?_⟩
  · intro steps
    exact Schema.classifyWithin_of_chain again steps 0
  · intro capacity steps
    rcases query.compileWithin_below .builtin capacity steps with unfinished | same
    · exact unfinished
    · rw [same, endless]
      rfl

end spiral

end TypedQuery
