import TypedQuery.Proofs.Query.Attachment
import TypedQuery.Proofs.Selection.Names

/-!
# `Renders` — what is set for a member, and what is read of the text

A query that compiles shows at each field what was set for its member: the name, the alias, and the
literals of the parameters under their names (`renders_of_compile`). The encoder sees to the
literals. Aliases and parameter names go into the text as they were given, so **the text is read
back as what was set exactly where these are names** (`text_reads_back_iff`); with any other the
same text is that of another selection, or of none.
-/

set_option autoImplicit false

namespace TypedQuery

open Outcome

variable {S : Schema}

namespace Query

variable {q : Query S} {registry : Registry} {set : SelectionSet} {m : Member S.size}
  {f : SelectionField}

/-- The name under which a member is selected. -/
def fieldName (q : Query S) (m : Member S.size) : String :=
  m.rename.getD (q.config.fieldCase.apply m.name)

/-- The field shows what is set for the member. -/
structure Renders (q : Query S) (m : Member S.size) (f : SelectionField) : Prop where
  name : f.name = q.fieldName m
  aliasName : f.aliasName = q.metadata.aliasOf m.id
  arguments : q.encoder.Literals (q.metadata.storedParameters m.id) f.arguments

/-- What is set for the member, its alias unless blank and its parameters, has names for names. -/
structure SetsNames (q : Query S) (m : Member S.size) : Prop where
  aliasName : ∀ aliasName ∈ q.metadata.aliasOf m.id, Text.isName aliasName.toList = true
  parameters : ∀ p ∈ q.metadata.storedParameters m.id, Text.isName p.1.toList = true

/-- **At every places a compiled query has the field that the member there renders to.** -/
theorem renders_of_compile (done : (q.compile registry).outcome = .ok set) (places : List Nat) :
    Option.Rel q.Renders (S.memberAt? (q.compile registry).registry q.root places)
      (set.fieldAt? places) := by
  cases encoded : (q.metadata.encodeParameters q.encoder).outcome with
  | error error =>
    rw [outcome_compile_of_error encoded] at done
    exact absurd done (by simp)
  | ok arguments =>
    rw [outcome_compile_of_ok encoded] at done
    have produced := Expansion.rel_fieldAt?_of_root _ done places
    dsimp only at produced
    generalize S.memberAt? (q.compile registry).registry q.root places = member,
      set.fieldAt? places = field at produced ⊢
    cases produced with
    | none => exact .none
    | @some m f produced =>
      have literals :=
        Metadata.literals_of_encodeFields q.metadata.distinct_fields encoded m.id
      refine .some ⟨congrArg FieldHead.name produced.head,
        congrArg FieldHead.aliasName produced.head, ?_⟩
      rw [SelectionField.arguments, produced.head]
      exact literals

theorem Renders.hasLiterals (renders : q.Renders m f) (default : q.encoder = .default) :
    f.head.HasLiterals := by
  intro argument mem
  have literals := renders.arguments
  rw [default] at literals
  obtain ⟨p, -, -, encoded⟩ := exists_mem_of_forall₂ literals.flip mem
  exact ⟨p.2, encoded⟩

theorem Renders.named_iff (renders : q.Renders m f)
    (isName : Text.isName (q.fieldName m).toList = true) : f.head.Named ↔ q.SetsNames m := by
  have sameAlias : f.head.aliasName = q.metadata.aliasOf m.id := renders.aliasName
  constructor
  · intro named
    refine ⟨fun aliasName mem => named.aliasName aliasName (sameAlias ▸ mem), ?_⟩
    intro p mem
    obtain ⟨argument, listed, same, -⟩ := exists_mem_of_forall₂ renders.arguments mem
    exact same ▸ named.arguments argument listed
  · intro sets
    refine ⟨?_, fun aliasName mem => sets.aliasName aliasName (sameAlias ▸ mem), ?_⟩
    · rw [show f.head.name = q.fieldName m from renders.name]
      exact isName
    · intro argument mem
      obtain ⟨p, listed, same, -⟩ := exists_mem_of_forall₂ renders.arguments.flip mem
      exact same ▸ sets.parameters p listed

/-- **Where a text is read back as what was set.** If the names under which members are selected are
    names, and parameters are encoded by default, the text of a query is that of a selection with
    the fields of the members, the aliases and the parameter names as they were set. It is read as
    that selection exactly when, for every member that is rendered, the alias and the names of the
    parameters are names. -/
theorem text_reads_back_iff (default : q.encoder = .default)
    (names : ∀ places m, S.memberAt? (q.compile registry).registry q.root places = some m →
      Text.isName (q.fieldName m).toList = true)
    {text : String} (got : q.text registry = .ok text) :
    ∃ set, (q.compile registry).outcome = .ok set ∧ text = set.text ∧
      (∀ places, Option.Rel q.Renders (S.memberAt? (q.compile registry).registry q.root places)
        (set.fieldAt? places)) ∧
      (SelectionSet.ofText? text = some set ↔
        ∀ places m, S.memberAt? (q.compile registry).registry q.root places = some m →
          q.SetsNames m) := by
  obtain ⟨set, done, rfl⟩ := map_eq_ok_iff.1 got
  have renders := renders_of_compile done
  have member : ∀ places f, set.fieldAt? places = some f →
      ∃ m, S.memberAt? (q.compile registry).registry q.root places = some m ∧ q.Renders m f := by
    intro places f found
    have related := renders places
    rw [found] at related
    cases here : S.memberAt? (q.compile registry).registry q.root places with
    | none => rw [here] at related; cases related
    | some m =>
      rw [here, Option.rel_some_some] at related
      exact ⟨m, rfl, related⟩
  have literals : set.Everywhere FieldHead.HasLiterals := by
    apply SelectionSet.everywhere_iff.2
    intro places f found
    obtain ⟨m, -, rendered⟩ := member places f found
    exact rendered.hasLiterals default
  refine ⟨set, done, rfl, renders, ?_⟩
  rw [SelectionSet.ofText?_text_iff literals, SelectionSet.everywhere_iff]
  constructor
  · intro named places m here
    have related := renders places
    rw [here] at related
    cases found : set.fieldAt? places with
    | none => rw [found] at related; cases related
    | some f =>
      rw [found, Option.rel_some_some] at related
      exact (related.named_iff (names places m here)).1 (named places f found)
  · intro sets places f found
    obtain ⟨m, here, rendered⟩ := member places f found
    exact (rendered.named_iff (names places m here)).2 (sets places m here)

end Query

namespace pairs

/-- The aliases and the parameters of pairs are read back as they were attached. -/
theorem query_reads_back :
    query.text .builtin = .ok attachedSelection.text ∧
      SelectionSet.ofText? attachedSelection.text = some attachedSelection := by
  have got : query.text .builtin = .ok attachedSelection.text :=
    congrArg (Except.map SelectionSet.text) outcome_compile_query
  refine ⟨got, ?_⟩
  -- both conditions are checked for all members of the family, wherever they are found
  have names : ∀ i, ∀ m ∈ (pairs.descriptor i).members,
      Text.isName (query.fieldName m).toList = true := by decide
  have sets : ∀ i, ∀ m ∈ (pairs.descriptor i).members,
      (query.metadata.aliasOf m.id).all (fun aliasName => Text.isName aliasName.toList) = true ∧
        (query.metadata.storedParameters m.id).all (fun p => Text.isName p.1.toList) = true := by
    decide
  obtain ⟨set, done, -, -, readBack⟩ := query.text_reads_back_iff rfl
    (fun _ m found => by
      obtain ⟨c, route, -, -, -, mem⟩ := Schema.exists_route_of_memberAt? found
      exact names _ m mem) got
  obtain rfl := Except.ok.inj (outcome_compile_query.symm.trans done)
  apply readBack.2
  intro places m found
  obtain ⟨c, route, -, -, -, mem⟩ := Schema.exists_route_of_memberAt? found
  obtain ⟨aliasName, parameters⟩ := sets _ m mem
  exact ⟨fun a given => (Option.all_eq_true _ _).1 aliasName a given, List.all_eq_true.1 parameters⟩

/-- An alias that says what a selection and another field would, and a parameter name that says
    what another parameter would. -/
def intrusions : List Attachment :=
  [⟨"foo", [.setAlias "items\x7bid\x7d foo"]⟩, ⟨"bar", [.addParameter "x:1,y" (.int 2)]⟩]

def intruded : Query pairs := (Query.new pair .default ⟨.preserve⟩).attachAll intrusions

/-- What is read of its text: a field more, and a parameter more. -/
def misread : SelectionSet :=
  ⟨[.nested ⟨"foo", some "items", []⟩ [.leaf ⟨"id", none, []⟩],
    .nested ⟨"foo", none, []⟩ [.leaf ⟨"id", none, []⟩],
    .nested ⟨"bars", none, [("x", "1"), ("y", "2")]⟩ [.leaf ⟨"id", none, []⟩]]⟩

theorem intruded_misread :
    (intruded.compile .builtin).outcome =
        .ok ⟨[.nested ⟨"foo", some "items\x7bid\x7d foo", []⟩ [.leaf ⟨"id", none, []⟩],
          .nested ⟨"bars", none, [("x:1,y", "2")]⟩ [.leaf ⟨"id", none, []⟩]]⟩ ∧
      intruded.text .builtin = .ok
        "\x7bfoo:items\x7bid\x7d foo\x7bid\x7d bars(x:1,y:2)\x7bid\x7d\x7d" ∧
      SelectionSet.ofText? "\x7bfoo:items\x7bid\x7d foo\x7bid\x7d bars(x:1,y:2)\x7bid\x7d\x7d" =
        some misread := by
  have encoded : (intruded.metadata.encodeParameters intruded.encoder).outcome =
      .ok [(pairBar.id, [("x:1,y", "2")])] := rfl
  have done : (intruded.compile .builtin).outcome =
      .ok ⟨[.nested ⟨"foo", some "items\x7bid\x7d foo", []⟩ [.leaf ⟨"id", none, []⟩],
        .nested ⟨"bars", none, [("x:1,y", "2")]⟩ [.leaf ⟨"id", none, []⟩]]⟩ := by
    rw [Query.outcome_compile_of_ok encoded,
      Query.registry_compile_of_isPure Encoder.isPure_default]
    exact root_eq ..
  refine ⟨done, congrArg (Except.map SelectionSet.text) done, ?_⟩
  have item : (SelectionField.leaf ⟨"id", none, []⟩).WellFormed := .leaf ⟨by decide, nofun, nofun⟩
  have first : (FieldHead.mk "foo" (some "items") []).WellFormed := by
    refine ⟨by decide, fun aliasName given => ?_, nofun⟩
    obtain rfl := Option.some.inj given
    decide
  have second : (FieldHead.mk "foo" none []).WellFormed := ⟨by decide, nofun, nofun⟩
  have third : (FieldHead.mk "bars" none [("x", "1"), ("y", "2")]).WellFormed := by
    refine ⟨by decide, nofun, List.forall_mem_cons.2 ⟨⟨by decide, .int 1, rfl⟩, ?_⟩⟩
    exact List.forall_mem_singleton.2 ⟨by decide, .int 2, rfl⟩
  have wf : misread.WellFormed := by
    refine List.forall_mem_cons.2 ⟨.nested first (List.forall_mem_singleton.2 item), ?_⟩
    refine List.forall_mem_cons.2 ⟨.nested second (List.forall_mem_singleton.2 item), ?_⟩
    exact List.forall_mem_singleton.2 (.nested third (List.forall_mem_singleton.2 item))
  have text : misread.text =
      "\x7bfoo:items\x7bid\x7d foo\x7bid\x7d bars(x:1,y:2)\x7bid\x7d\x7d" := by rfl
  rw [← text]
  exact SelectionSet.ofText?_text wf

end pairs

end TypedQuery
