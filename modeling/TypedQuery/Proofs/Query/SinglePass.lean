import TypedQuery.Proofs.Query.Attachment

/-!
# `SinglePass` — the text of a query, written in one walk

`Query.text` works in stages: it encodes all parameters into a table, expands the root into a tree,
and then writes the tree. A single pass writes the same text with neither table nor tree: it goes
through the members in declaration order and writes name, alias, parameters and what is nested, each
parameter encoded where it is written.

The two stop for different reasons first, a single pass at the first failure on its way and a query at
its parameters whatever their fields. **Where all parameters encode they agree, in text and in error;
and a query fails to encode exactly when some parameter it holds does** (`text_eq_singlePass`).
-/

set_option autoImplicit false

namespace TypedQuery

open Outcome

variable {S : Schema}

/-- What a single pass reads. -/
structure SinglePass (S : Schema) where
  registry : Registry
  metadata : Metadata
  encoder : Encoder
  config : QueryConfig

namespace SinglePass

variable (w : SinglePass S)

/-- The name a member is rendered under. -/
def nameText (m : Member S.size) : String :=
  match m.rename with
  | some rename => rename
  | none => w.config.fieldCase.apply m.name

/-- The alias after its colon, if one is set that is not blank. -/
def aliasText (id : FieldId) : String :=
  match w.metadata.aliases.lookup id with
  | some aliasName => if Text.isBlankText aliasName.toList then "" else ":" ++ aliasName
  | none => ""

/-- A parameter: its name, a colon and its literal. -/
def parameterText (parameter : String × Value) : Except QueryError String :=
  match (w.encoder.encode parameter.2).outcome with
  | .ok literal => .ok (parameter.1 ++ ":" ++ literal)
  | .error error => .error (.encode error)

/-- The parameters between parentheses, commas between them, if there are any. -/
def parametersText (id : FieldId) : Except QueryError String :=
  match w.metadata.storedParameters id with
  | [] => .ok ""
  | parameters => do
    let texts ← parameters.mapM w.parameterText
    .ok ("(" ++ ",".intercalate texts ++ ")")

/-- What is written of a type, nothing of a leaf. `stack` holds the keys of the composites around
    it and `path` the declared names of the members on the way. -/
def typeText (w : SinglePass S) (stack : List TypeKey) (path : List String) (i : S.Ref) :
    Except QueryError (Option String) :=
  match S.classify w.registry i with
  | none => .error (.endlessWrapper (S.key i))
  | some (.scalar _) => .ok none
  | some (.composite j) =>
    if _ : stack.any (· == S.key j) = true then
      .error (.cyclicShape (S.key j) path)
    else do
      let emitted ← (S.descriptor j).members.mapM fun m => do
        let parameters ← w.parametersText m.id
        let nested ← w.typeText (S.key j :: stack) (path ++ [m.name]) m.type
        .ok (w.nameText m ++ w.aliasText m.id ++ parameters ++ nested.getD "")
      .ok (some ("\x7b" ++ " ".intercalate emitted ++ "\x7d"))
termination_by S.unvisited stack
decreasing_by exact S.unvisited_cons_lt stack j (by simpa using ‹¬ stack.any (· == S.key j) = true›)

/-- The text of a root type; that of a leaf selects nothing. -/
def text (root : S.Ref) : Except QueryError String :=
  (w.typeText [] [] root).map fun written => written.getD "\x7b\x7d"

/-! ## One step of the walk -/

/-- What is written of a member. -/
def memberText (stack : List TypeKey) (path : List String) (m : Member S.size) :
    Except QueryError String := do
  let parameters ← w.parametersText m.id
  let nested ← w.typeText stack (path ++ [m.name]) m.type
  .ok (w.nameText m ++ w.aliasText m.id ++ parameters ++ nested.getD "")

/-- What is written of the members of a composite. -/
def bracedText (members : List String) : String := "\x7b" ++ " ".intercalate members ++ "\x7d"

variable {stack : List TypeKey} {path : List String} {i j : S.Ref}

theorem typeText_of_visited (composite : S.classify w.registry i = some (.composite j))
    (found : stack.any (· == S.key j) = true) :
    w.typeText stack path i = .error (.cyclicShape (S.key j) path) := by
  rw [typeText, composite]
  exact dif_pos found

theorem typeText_of_fresh (composite : S.classify w.registry i = some (.composite j))
    (closed : stack.any (· == S.key j) = false) :
    w.typeText stack path i =
      ((S.descriptor j).members.mapM (w.memberText (S.key j :: stack) path)).map
        (some ∘ bracedText) := by
  rw [typeText, composite]
  show dite _ _ _ = _
  rw [dif_neg (by simp [closed])]
  show ((S.descriptor j).members.mapM (w.memberText (S.key j :: stack) path) >>= _) = _
  cases (S.descriptor j).members.mapM (w.memberText (S.key j :: stack) path) <;> rfl

end SinglePass

/-! ## The pieces of a field -/

/-- A field is written as its head and what is nested in it. -/
theorem SelectionField.text_make (head : FieldHead) (selection : Option SelectionSet) :
    (SelectionField.make head selection).text =
      head.text ++ (selection.map SelectionSet.text).getD "" := by
  cases selection with
  | none => simp [make, SelectionField.text]
  | some set =>
    simp [make, SelectionField.text, SelectionSet.text, texts_eq_map, String.append_assoc]

/-- An expansion and a single pass over the same query: all but the arguments are the same, and the
    arguments are the literals of the parameters. -/
structure Expansion.Matches (e : Expansion S) (w : SinglePass S) : Prop where
  registry : e.registry = w.registry
  metadata : e.metadata = w.metadata
  config : e.config = w.config
  literals : ∀ id, w.encoder.Literals (w.metadata.storedParameters id)
    ((e.arguments.lookup id).getD [])

namespace Expansion.Matches

variable {e : Expansion S} {w : SinglePass S} (same : e.Matches w)

include same

theorem nameText_eq (m : Member S.size) : w.nameText m = (e.fieldHead m).name := by
  unfold SinglePass.nameText Expansion.fieldHead
  rw [same.config]
  cases m.rename <;> rfl

theorem aliasText_eq (m : Member S.size) : w.aliasText m.id = (e.fieldHead m).aliasText := by
  unfold SinglePass.aliasText Expansion.fieldHead FieldHead.aliasText Metadata.aliasOf
  rw [same.metadata]
  cases w.metadata.aliases.lookup m.id with
  | none => rfl
  | some aliasName =>
    show (if Text.isBlankText aliasName.toList then "" else ":" ++ aliasName) = _
    rw [Option.filter_some]
    cases Text.isBlankText aliasName.toList <;> rfl

/-- Encoded parameters are written as the arguments they became. -/
theorem parametersText_eq (m : Member S.size) :
    w.parametersText m.id = .ok (e.fieldHead m).argumentsText := by
  have written : ∀ {parameters : List (String × Value)} {arguments : List (String × String)},
      w.encoder.Literals parameters arguments →
      parameters.mapM w.parameterText = .ok (arguments.map FieldHead.argumentText) := by
    intro parameters arguments literals
    rw [mapM_eq_ok_iff, List.forall₂_map_right_iff]
    refine List.Forall₂.imp (fun p a hpa => ?_) literals
    unfold SinglePass.parameterText FieldHead.argumentText
    rw [hpa.2, hpa.1]
  have literals := same.literals m.id
  unfold SinglePass.parametersText FieldHead.argumentsText Expansion.fieldHead
  generalize w.metadata.storedParameters m.id = parameters,
    (e.arguments.lookup m.id).getD [] = arguments at literals
  cases literals with
  | nil => rfl
  | cons first rest =>
    show (List.mapM w.parameterText (_ :: _) >>= _) = _
    rw [written (List.Forall₂.cons first rest)]
    rfl

/-- What is written of a member is the text of its field, given the same of its type. -/
theorem memberText_eq {stack : List TypeKey} {path : List String} {m : Member S.size}
    (deeper : (e.select stack (path ++ [m.name]) m.type).map (Option.map SelectionSet.text) =
      w.typeText stack (path ++ [m.name]) m.type) :
    (e.field stack path m).map SelectionField.text = w.memberText stack path m := by
  unfold Expansion.field SinglePass.memberText
  rw [same.parametersText_eq, ← deeper, same.nameText_eq, same.aliasText_eq]
  cases e.select stack (path ++ [m.name]) m.type with
  | error error => rfl
  | ok selection => exact congrArg Except.ok (SelectionField.text_make _ selection)

/-- Leaves and wrappers without end are the same on both sides, so only composites matter. -/
theorem typeText_eq_of_composite {stack : List TypeKey} {path : List String} {i : S.Ref}
    (composites : ∀ j, S.classify w.registry i = some (.composite j) →
      (e.select stack path i).map (Option.map SelectionSet.text) = w.typeText stack path i) :
    (e.select stack path i).map (Option.map SelectionSet.text) = w.typeText stack path i := by
  cases classified : S.classify w.registry i with
  | none =>
    rw [SinglePass.typeText, Expansion.select, same.registry, classified]
    rfl
  | some c =>
    cases c with
    | scalar key =>
      rw [SinglePass.typeText, Expansion.select, same.registry, classified]
      rfl
    | composite j => exact composites j classified

/-- **A single pass writes the text of what is selected**, from any stack and path. -/
theorem typeText_eq (stack : List TypeKey) (path : List String) (i : S.Ref) :
    (e.select stack path i).map (Option.map SelectionSet.text) = w.typeText stack path i := by
  suffices composites : ∀ (stack : List TypeKey) (j : S.Ref), ∀ path i,
      S.classify w.registry i = some (.composite j) →
      (e.select stack path i).map (Option.map SelectionSet.text) = w.typeText stack path i by
    exact same.typeText_eq_of_composite fun j => composites stack j path i
  intro stack j
  induction stack, j using S.stackInduction with
  | visited stack j found =>
    intro path i composite
    rw [w.typeText_of_visited composite found,
      e.select_of_composite (same.registry ▸ composite), e.expand_eq_of_visited stack path j found]
    rfl
  | fresh stack j closed ih =>
    intro path i composite
    have member : ∀ m, (e.field (S.key j :: stack) path m).map SelectionField.text =
        w.memberText (S.key j :: stack) path m := by
      intro m
      apply same.memberText_eq
      exact same.typeText_eq_of_composite fun j' => ih j' _ _
    -- both sides are one traversal of the same members
    rw [w.typeText_of_fresh composite closed, e.select_of_composite (same.registry ▸ composite),
      e.expand_eq_mapM closed, ← funext member, ← map_mapM]
    cases (S.descriptor j).members.mapM (e.field (S.key j :: stack) path) <;> rfl

/-- A root is written as the selection it compiles to. -/
theorem text_eq (root : S.Ref) : (e.root root).map SelectionSet.text = w.text root := by
  unfold Expansion.root SinglePass.text
  rw [← same.typeText_eq]
  cases e.select [] [] root with
  | error error => rfl
  | ok selection => cases selection <;> rfl

end Expansion.Matches

namespace Query

/-- The single pass over what a query reads. -/
def singlePass (q : Query S) (registry : Registry) : SinglePass S :=
  ⟨registry, q.metadata, q.encoder, q.config⟩

/-- **A query is written as by a single pass.** With an encoder that only encodes, and where
    wrappers end: once all parameters encode, the text is that of the single pass, and so is the error,
    which is a cyclic shape. The text fails for the encoding exactly when some stored parameter does
    not encode, be its field rendered or not, and be the shape cyclic or not. -/
theorem text_eq_singlePass (q : Query S) (registry : Registry) (pure : q.encoder.IsPure)
    (ends : S.WrappersEnd registry) :
    (q.metadata.Encodes q.encoder →
      q.text registry = (q.singlePass registry).text q.root ∧
        ((∃ written, q.text registry = .ok written) ∨
          ∃ type path, q.text registry = .error (.cyclicShape type path))) ∧
    ((∃ error, q.text registry = .error (.encode error)) ↔
      ∃ id, ∃ p ∈ q.metadata.storedParameters id, ∃ error,
        (q.encoder.encode p.2).outcome = .error error) := by
  have walked : q.metadata.Encodes q.encoder →
      q.text registry = (q.singlePass registry).text q.root ∧
        ((∃ written, q.text registry = .ok written) ∨
          ∃ type path, q.text registry = .error (.cyclicShape type path)) := by
    intro encodes
    obtain ⟨arguments, encoded, literals⟩ := Metadata.encodeParameters_ok encodes
    let e : Expansion S := ⟨registry, q.metadata, arguments, q.config⟩
    have expanded : q.text registry = (e.root q.root).map SelectionSet.text := by
      rw [text, outcome_compile_of_ok encoded, registry_compile_of_isPure pure]
    have same : e.Matches (q.singlePass registry) := ⟨rfl, rfl, rfl, literals⟩
    refine ⟨expanded.trans (same.text_eq q.root), ?_⟩
    rw [expanded]
    cases outcome : e.root q.root with
    | ok set => exact Or.inl ⟨set.text, rfl⟩
    | error error =>
      obtain ⟨c, route, -, -, rfl⟩ := e.firstReentry_of_root ends outcome
      exact Or.inr ⟨_, _, rfl⟩
  refine ⟨walked, ?_, ?_⟩
  · rintro ⟨error, failed⟩
    apply Metadata.encodeParameters_fails_iff.1
    -- had all parameters encoded, the error would be a cyclic shape
    cases outcome : (q.metadata.encodeParameters q.encoder).outcome with
    | error error => exact ⟨error, rfl⟩
    | ok arguments =>
      rcases (walked (Metadata.encodes_iff.2 ⟨arguments, outcome⟩)).2 with ⟨_, h⟩ | ⟨_, _, h⟩
      · exact absurd (h.symm.trans failed) (by simp)
      · exact absurd (h.symm.trans failed) (by simp)
  · intro fails
    obtain ⟨error, failed⟩ := Metadata.encodeParameters_fails_iff.2 fails
    refine ⟨error, ?_⟩
    rw [text, outcome_compile_of_error failed]
    rfl

end Query

/-- The alias and the parameters stand in the text, and the items below carry none. -/
theorem pairs.query_text_eq :
    query.encoder.IsPure ∧ pairs.WrappersEnd .builtin ∧ query.metadata.Encodes query.encoder ∧
      (query.singlePass .builtin).text query.root =
        .ok "\x7bfoo:first\x7bid\x7d bars(limit:10,sorted:true)\x7bid\x7d\x7d" := by
  have ends : pairs.WrappersEnd .builtin := by decide
  have encodes : query.metadata.Encodes query.encoder := Metadata.encodes_iff.2 ⟨_, rfl⟩
  refine ⟨Encoder.isPure_default, ends, encodes, ?_⟩
  rw [← ((Query.text_eq_singlePass query .builtin Encoder.isPure_default ends).1 encodes).1]
  rw [Query.text, outcome_compile_query]
  rfl

end TypedQuery
