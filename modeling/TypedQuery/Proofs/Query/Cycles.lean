import TypedQuery.Proofs.Query.Encoding
import TypedQuery.Proofs.Query.Expansion
import TypedQuery.Proofs.Shape.Route
import TypedQuery.Proofs.Shape.Unwrapping

/-!
# Cycles — which routes end an expansion, and which one is reported

An expansion that succeeds has no route that comes back (`not_reenters_of_expand`). One that fails,
where all wrappers end, fails for a route that does, and the error names the first of these: the key
of the composite the route ends at, and the declared names of the members on the way
(`firstReentry_of_expand`). Both are inductions along the expansion with an arbitrary stack; for a
query the stack is empty, so what a route comes back to is a composite on that same route.
-/

set_option autoImplicit false

namespace TypedQuery

open Outcome Schema

variable {S : Schema}

namespace Expansion

variable (e : Expansion S) {stack : List TypeKey} {path : List String} {i : S.Ref}

/-- No route through a successful expansion comes back. -/
theorem not_reenters_of_expand {set : SelectionSet} (done : e.expand stack path i = .ok set) :
    ∀ route, S.Route e.registry i route → ¬ Reenters stack (S.keysAlong i route) := by
  induction stack, i using S.stackInduction generalizing path set with
  | visited stack i found =>
    rw [e.expand_eq_of_visited stack path i found] at done
    exact absurd done (by simp)
  | fresh stack i closed ih =>
    intro route isRoute reenters
    cases isRoute with
    | nil => exact absurd (reenters_singleton.1 reenters) (by simp [closed])
    | @cons _ stop rest declared leads onward =>
      -- the rest of the route runs inside the expansion of the first stop, with one more key open
      obtain ⟨-, fields⟩ := e.expand_eq_ok_iff.1 done
      obtain ⟨f, -, hf⟩ := exists_getElem?_of_forall₂ fields declared
      obtain ⟨selection, selected, -⟩ := e.field_eq_ok_iff.1 hf
      rw [e.select_of_composite leads, map_eq_ok_iff] at selected
      obtain ⟨sub, expanded, -⟩ := selected
      exact ih stop.type expanded rest onward (reenters_cons.1 reenters)

/-- Where wrappers end, a failing expansion reports the first route that comes back. -/
theorem firstReentry_of_expand (ends : S.WrappersEnd e.registry) {error : QueryError}
    (failed : e.expand stack path i = .error error) :
    ∃ route, S.FirstReentry e.registry stack i route ∧
      error = .cyclicShape (S.key (endOf i route)) (path ++ namesAlong route) := by
  induction stack, i using S.stackInduction generalizing path error with
  | visited stack i found =>
    rw [e.expand_eq_of_visited stack path i found] at failed
    refine ⟨[], .here found, ?_⟩
    rw [namesAlong, List.map_nil, List.append_nil]
    exact (Except.error.inj failed).symm
  | fresh stack i closed ih =>
    rcases e.expand_eq_error_iff.1 failed with ⟨found, -⟩ | ⟨-, k, m, declared, failed, earlier⟩
    · exact absurd found (by simp [closed])
    rcases e.select_eq_error_iff.1 failed with ⟨endless, -⟩ | ⟨j, leads, deeper⟩
    · obtain ⟨c, classified⟩ := classify_of_wrappersEnd ends m.type
      exact absurd (endless.symm.trans classified) (by simp)
    -- the member that fails is the first stop; those before it succeeded, and no route through
    -- an expansion that succeeded comes back
    obtain ⟨rest, first, rfl⟩ := ih j deeper
    refine ⟨⟨k, m, j⟩ :: rest, .step closed declared leads first ?_, ?_⟩
    · intro k' hk' m' declared' j' leads' other isRoute
      obtain ⟨selection, selected⟩ := earlier k' hk' m' declared'
      rw [e.select_of_composite leads', map_eq_ok_iff] at selected
      obtain ⟨set, expanded, -⟩ := selected
      exact e.not_reenters_of_expand expanded other isRoute
    · rw [List.append_assoc]
      rfl

end Expansion

/-- A route from a root type that comes back to a composite it has passed. -/
def Schema.ComesBack (S : Schema) (registry : Registry) (root : S.Ref) (route : List S.Stop) :
    Prop :=
  ∃ c, S.classify registry root = some (.composite c) ∧ S.Route registry c route ∧
    Reenters [] (S.keysAlong c route)

namespace Expansion

variable (e : Expansion S) {root : S.Ref}

/-- A root that compiles has no route that comes back. -/
theorem not_comesBack_of_root {set : SelectionSet} (done : e.root root = .ok set)
    (route : List S.Stop) : ¬ S.ComesBack e.registry root route := by
  rintro ⟨c, composite, isRoute, reenters⟩
  obtain ⟨selection, selected, -⟩ := map_eq_ok_iff.1 done
  rw [e.select_of_composite composite, map_eq_ok_iff] at selected
  obtain ⟨set, expanded, -⟩ := selected
  exact e.not_reenters_of_expand expanded route isRoute reenters

/-- A root that does not compile has a first route that comes back, and it is reported. -/
theorem firstReentry_of_root (ends : S.WrappersEnd e.registry) {error : QueryError}
    (failed : e.root root = .error error) :
    ∃ c route, S.classify e.registry root = some (.composite c) ∧
      S.FirstReentry e.registry [] c route ∧
      error = .cyclicShape (S.key (endOf c route)) (namesAlong route) := by
  rcases e.select_eq_error_iff.1 (map_eq_error_iff.1 failed) with ⟨endless, -⟩ | ⟨c, composite, h⟩
  · obtain ⟨found, classified⟩ := classify_of_wrappersEnd ends root
    exact absurd (endless.symm.trans classified) (by simp)
  · obtain ⟨route, first, rfl⟩ := e.firstReentry_of_expand ends h
    exact ⟨c, route, composite, first, rfl⟩

end Expansion

/-- **Cycle detection is exact and reports the first offender.** Where wrappers end and all
    parameters encode, compiling ends with a selection or with a cyclic shape. It is a cyclic shape
    exactly when some route of members from the root comes back to a composite that it has passed;
    what is reported are the key of the composite at the end of the first such route and the declared
    names along it. The registry is the one that encoding leaves. -/
theorem compile_cyclicShape_iff_comesBack (q : Query S) (registry : Registry)
    (ends : S.WrappersEnd (q.compile registry).registry)
    (encodes : q.metadata.Encodes q.encoder) :
    ((∃ set, (q.compile registry).outcome = .ok set) ∨
      ∃ type path, (q.compile registry).outcome = .error (.cyclicShape type path)) ∧
    ((∃ type path, (q.compile registry).outcome = .error (.cyclicShape type path)) ↔
      ∃ route, S.ComesBack (q.compile registry).registry q.root route) ∧
    ∀ error, (q.compile registry).outcome = .error error →
      ∃ c route, S.classify (q.compile registry).registry q.root = some (.composite c) ∧
        S.FirstReentry (q.compile registry).registry [] c route ∧
        error = .cyclicShape (S.key (endOf c route)) (namesAlong route) ∧
        error.message =
          "cyclic shape: type " ++ (S.key (endOf c route)).shortName ++ " re-entered at '" ++
            ".".intercalate (namesAlong route) ++ "'" := by
  obtain ⟨arguments, encoded, -⟩ := Metadata.encodeParameters_ok encodes
  rw [Query.outcome_compile_of_ok encoded]
  let e : Expansion S := ⟨(q.compile registry).registry, q.metadata, arguments, q.config⟩
  have reported : ∀ error, e.root q.root = .error error → _ :=
    fun error failed => e.firstReentry_of_root ends failed
  refine ⟨?_, ⟨?_, ?_⟩, ?_⟩
  · show (∃ set, e.root q.root = .ok set) ∨ _
    cases outcome : e.root q.root with
    | ok set => exact Or.inl ⟨set, rfl⟩
    | error error =>
      obtain ⟨c, route, -, -, rfl⟩ := reported error outcome
      exact Or.inr ⟨_, _, rfl⟩
  · rintro ⟨type, path, failed⟩
    obtain ⟨c, route, composite, first, -⟩ := reported _ failed
    exact ⟨route, c, composite, first.isRoute, first.reenters⟩
  · rintro ⟨route, back⟩
    cases outcome : e.root q.root with
    | ok set => exact absurd back (e.not_comesBack_of_root outcome route)
    | error error =>
      obtain ⟨c, route, -, -, rfl⟩ := reported error outcome
      exact ⟨_, _, rfl⟩
  · intro error failed
    obtain ⟨c, route, composite, first, rfl⟩ := reported error failed
    exact ⟨c, route, composite, first, rfl, rfl⟩

/-- Authors with a list of books, and books with a pointer to their author. -/
def library : Schema :=
  .ofDeclarations fun i : Fin 5 => match i with
    | 0 => (Builtin.string.key, .scalar)
    | 1 => (⟨23, "Author"⟩, .composite
        [⟨⟨⟨23, "Author"⟩, "name"⟩, none, 0⟩, ⟨⟨⟨23, "Author"⟩, "books"⟩, none, 3⟩])
    | 2 => (⟨24, "Book"⟩, .composite
        [⟨⟨⟨24, "Book"⟩, "title"⟩, none, 0⟩, ⟨⟨⟨24, "Book"⟩, "author"⟩, none, 4⟩])
    | 3 => (⟨25, "Vec<Book>"⟩, .collection 2)
    | 4 => (⟨26, "Box<Author>"⟩, .pointer 1)

/-- A parameter for the books of an author. -/
def library.booksLimit : Metadata where
  aliases := []
  parameters := [(⟨⟨23, "Author"⟩, "books"⟩, [("limit", .int 10)])]
  distinct_aliases := Entries.distinct_nil
  distinct_fields := List.pairwise_singleton ..
  distinct_names field mem := by
    rw [List.mem_singleton.1 mem]
    exact List.pairwise_singleton ..

/-- A query over authors with some of their books. -/
def library.authors : Query library := ⟨(1 : Fin 5), .default, .default, booksLimit⟩

/-- An author's books lead back to an author, through a list and a pointer. -/
theorem authors_comesBack :
    library.WrappersEnd (library.authors.compile .builtin).registry ∧
      library.authors.metadata.Encodes library.authors.encoder ∧
      ∃ type path,
        (library.authors.compile .builtin).outcome = .error (.cyclicShape type path) := by
  have ends : library.WrappersEnd (library.authors.compile .builtin).registry := by decide
  have encodes : library.authors.metadata.Encodes library.authors.encoder :=
    Metadata.encodes_iff.2 ⟨_, rfl⟩
  refine ⟨ends, encodes, ?_⟩
  refine (compile_cyclicShape_iff_comesBack library.authors .builtin ends encodes).2.1.2 ?_
  let books : library.Stop := ⟨1, ⟨⟨⟨23, "Author"⟩, "books"⟩, none, (3 : Fin 5)⟩, (2 : Fin 5)⟩
  let author : library.Stop := ⟨1, ⟨⟨⟨24, "Book"⟩, "author"⟩, none, (4 : Fin 5)⟩, (4 : Fin 5)⟩
  refine ⟨[books, author], (1 : Fin 5), rfl, .cons rfl rfl (.cons rfl rfl (.nil _)), ?_⟩
  exact ⟨[⟨23, "Author"⟩, ⟨24, "Book"⟩], ⟨23, "Author"⟩, rfl, rfl⟩

end TypedQuery
