import TypedQuery.Proofs.Query.Encoding
import TypedQuery.Proofs.Query.Pruning
import TypedQuery.Proofs.Query.Steps

/-!
# `record`, `registeredOn` — what a query owes to its own past

In a session registries are shared by number and everything else is copied, so what compiling a
query gives could depend on any of the steps so far. Two accounts say what it does depend on:

* `record` is a query's own history: its root, the config and the encoder it was built with or was
  given last, and the operations on its fields, those on the query it was cloned from included if
  they came before the clone;
* `registeredOn` lists the types registered on a registry, through whichever builder or query.

Both look up in the session of that moment which builder or query a step names, and a new query has
the number of queries before it. The steps say that, too: builders come and change by the steps on
builders alone (`builders_after`), and `length_queries_after` counts queries.

Here the second account is shown to be right: **a registry holds the builtin types and those
registered on it, whatever else was done** (`contains_registry_after`), as long as encoders encode and
nothing else.
-/

set_option autoImplicit false

namespace TypedQuery

variable {S : Schema}

/-- Does one thing to a field; a parameter that is refused leaves everything as it is. -/
def Metadata.operate (m : Metadata) : FieldId × Change → Metadata
  | (id, .setAlias aliasName) => m.setAlias id aliasName
  | (id, .addParameter name value) =>
    match m.addParameter id name value with
    | .ok changed => changed
    | .error _ => m

namespace Session

/-! ## The two accounts -/

/-- What a query was built with, and what was done to it or given to it since. -/
structure Record (S : Schema) where
  registry : Nat
  root : S.Ref
  config : QueryConfig
  encoder : Encoder
  operations : List (FieldId × Change)

/-- The record of a query that a builder has just built. -/
def Record.new (builder : Builder) (root : S.Ref) : Record S :=
  ⟨builder.registry, root, builder.config, builder.encoder, []⟩

/-- One more operation. -/
def Record.operate (r : Record S) (id : FieldId) (change : Change) : Record S :=
  { r with operations := r.operations ++ [(id, change)] }

/-- The query that a record describes: the operations done one after the other, from no metadata. -/
def Record.query (r : Record S) : Query S :=
  ⟨r.root, r.encoder, r.config, r.operations.foldl Metadata.operate .empty⟩

/-- The record of a query, by its number. A new query has the number of queries before it. -/
def record : List (Step S) → Nat → Option (Record S)
  | [], _ => none
  | .build b root :: past, q =>
    if q = (after past).queries.length then ((after past).builders[b]?).map (Record.new · root)
    else record past q
  | .buildDefault root :: past, q =>
    if q = (after past).queries.length then some (.new (.on processWide) root) else record past q
  | .cloneQuery p :: past, q =>
    if q = (after past).queries.length then record past p else record past q
  | .setAlias p field aliasName :: past, q =>
    if q = p then (record past q).map (·.operate field (.setAlias aliasName)) else record past q
  | .addParameter p field name value :: past, q =>
    if q = p then (record past q).map (·.operate field (.addParameter name value))
    else record past q
  | .configureQuery p config :: past, q =>
    if q = p then (record past q).map fun r => { r with config } else record past q
  | .equipQuery p encoder :: past, q =>
    if q = p then (record past q).map fun r => { r with encoder } else record past q
  | _ :: past, q => record past q

/-- The registry on which a step registers a type, and the type. -/
def Step.registration? (s : Session S) : Step S → Option (Nat × TypeKey)
  | .register b type => (s.builders[b]?).map fun builder => (builder.registry, type)
  | .registerThrough q type => (s.queries[q]?).map fun query => (query.registry, type)
  | .registerProcessWide type => some (processWide, type)
  | _ => none

/-- The types registered on a registry, by its number. -/
def registeredOn : List (Step S) → Nat → List TypeKey
  | [], _ => []
  | step :: past, r =>
    match step.registration? (after past) with
    | some (r', type) => if r = r' then type :: registeredOn past r else registeredOn past r
    | none => registeredOn past r

/-- The query that a step gives another config, another encoder or other metadata. -/
def Step.target? : Step S → Option Nat
  | .setAlias q .. => some q
  | .addParameter q .. => some q
  | .configureQuery q _ => some q
  | .equipQuery q _ => some q
  | _ => none

/-- An encoder that the step brings in only encodes. -/
def Step.IsPure : Step S → Prop
  | .equipBuilder _ encoder => encoder.IsPure
  | .equipQuery _ encoder => encoder.IsPure
  | .encodeFor _ encoder _ => encoder.IsPure
  | _ => True

/-! ## Builders and numbers -/

def registryCount : List (Step S) → Nat
  | [] => 2
  | .newBuilder .fresh :: past => registryCount past + 1
  | _ :: past => registryCount past

/-- The builder that a source gives, of so many registries and with these builders. -/
def BuilderSource.made? (registries : Nat) (builders : List Builder) :
    BuilderSource → Option Builder
  | .fresh => some (.on registries)
  | .processWide => some (.on Session.processWide)
  | .sharing b => (builders[b]?).map fun builder => .on builder.registry
  | .clone b => builders[b]?

/-- The builders, by the steps on builders. -/
def buildersOf : List (Step S) → List Builder
  | [] => [.on 1]
  | .newBuilder source :: past =>
    buildersOf past ++ (source.made? (registryCount past) (buildersOf past)).toList
  | .configureBuilder b config :: past =>
    (buildersOf past).modify b fun builder => { builder with config }
  | .equipBuilder b encoder :: past =>
    (buildersOf past).modify b fun builder => { builder with encoder }
  | _ :: past => buildersOf past

def queryCount : List (Step S) → Nat
  | [] => 0
  | .build b _ :: past =>
    if b < (buildersOf past).length then queryCount past + 1 else queryCount past
  | .buildDefault _ :: past => queryCount past + 1
  | .cloneQuery q :: past => if q < queryCount past then queryCount past + 1 else queryCount past
  | _ :: past => queryCount past

/-- The steps say how many registries there are, which builders, and how many queries. -/
theorem accounted_after (past : List (Step S)) :
    (after past).registries.length = registryCount past ∧
      (after past).builders = buildersOf past ∧
      (after past).queries.length = queryCount past := by
  induction past with
  | nil => exact ⟨rfl, rfl, rfl⟩
  | cons step past ih =>
    obtain ⟨registries, builders, queries⟩ := ih
    have kept := And.intro registries (And.intro builders queries)
    have onRegistry : ∀ r f, ((after past).onRegistry r f).registries.length = registryCount past :=
      fun r f => (List.length_modify ..).trans registries
    have onQuery : ∀ q f, ((after past).onQuery q f).queries.length = queryCount past :=
      fun q f => (List.length_modify ..).trans queries
    have addQuery : ∀ query, ((after past).addQuery query).queries.length = queryCount past + 1 :=
      fun query => (List.length_append ..).trans (congrArg (· + 1) queries)
    rw [after_cons]
    cases step with
    | newBuilder source =>
      rw [buildersOf, ← builders, ← registries]
      cases source with
      | fresh => exact ⟨(List.length_append ..).trans (congrArg (· + 1) registries), rfl, queries⟩
      | processWide => exact ⟨registries, rfl, queries⟩
      | sharing b =>
        rw [Session.step, BuilderSource.made?]
        cases (after past).builders[b]? with
        | none => exact ⟨registries, (List.append_nil _).symm, queries⟩
        | some builder => exact ⟨registries, rfl, queries⟩
      | clone b =>
        rw [Session.step, BuilderSource.made?]
        cases (after past).builders[b]? with
        | none => exact ⟨registries, (List.append_nil _).symm, queries⟩
        | some builder => exact ⟨registries, rfl, queries⟩
    | configureBuilder b config =>
      rw [buildersOf, ← builders]
      exact ⟨registries, rfl, queries⟩
    | equipBuilder b encoder =>
      rw [buildersOf, ← builders]
      exact ⟨registries, rfl, queries⟩
    | build b root =>
      rw [Session.step, queryCount, ← builders]
      cases found : (after past).builders[b]? with
      | none =>
        rw [if_neg (Nat.not_lt.2 (List.getElem?_eq_none_iff.1 found))]
        exact kept
      | some builder =>
        rw [if_pos (List.getElem?_eq_some_iff.1 found).1]
        exact ⟨registries, builders, addQuery _⟩
    | buildDefault root => exact ⟨registries, builders, addQuery _⟩
    | cloneQuery q =>
      rw [Session.step, queryCount, ← queries]
      cases found : (after past).queries[q]? with
      | none =>
        rw [if_neg (Nat.not_lt.2 (List.getElem?_eq_none_iff.1 found))]
        exact ⟨registries, builders, rfl⟩
      | some query =>
        rw [if_pos (List.getElem?_eq_some_iff.1 found).1, queries]
        exact ⟨registries, builders, addQuery _⟩
    | register b type =>
      rw [Session.step]
      cases (after past).builders[b]? with
      | none => exact kept
      | some builder => exact ⟨onRegistry builder.registry _, builders, queries⟩
    | registerThrough q type =>
      rw [Session.step]
      cases (after past).queries[q]? with
      | none => exact kept
      | some query => exact ⟨onRegistry query.registry _, builders, queries⟩
    | registerProcessWide type => exact ⟨onRegistry processWide _, builders, queries⟩
    | setAlias q field aliasName => exact ⟨registries, builders, onQuery q _⟩
    | addParameter q field name value => exact ⟨registries, builders, onQuery q _⟩
    | configureQuery q config => exact ⟨registries, builders, onQuery q _⟩
    | equipQuery q encoder => exact ⟨registries, builders, onQuery q _⟩
    | compile q =>
      rw [Session.step]
      cases (after past).queries[q]? with
      | none => exact kept
      | some query => exact ⟨onRegistry query.registry _, builders, queries⟩
    | encodeFor b encoder value =>
      rw [Session.step]
      cases (after past).builders[b]? with
      | none => exact kept
      | some builder => exact ⟨onRegistry builder.registry _, builders, queries⟩

/-- **Builders come and change by the steps on builders alone.** -/
theorem builders_after (past : List (Step S)) : (after past).builders = buildersOf past :=
  (accounted_after past).2.1

theorem length_queries_after (past : List (Step S)) :
    (after past).queries.length = queryCount past :=
  (accounted_after past).2.2

/-! ## What registries hold -/

section Changes

variable {s : Session S} {step : Step S} {r : Nat} {f : Registry → Registry} {type : TypeKey}

/-- A registration changes its registry by the type that is registered. -/
theorem change?_of_registration (registers : step.registration? s = some (r, type)) :
    step.change? s = some (r, (·.register type)) := by
  cases step with
  | register b type' =>
    obtain ⟨builder, found, same⟩ := Option.map_eq_some_iff.1 registers
    obtain ⟨rfl, rfl⟩ := Prod.mk.inj same
    rw [Step.change?, found]
    rfl
  | registerThrough q type' =>
    obtain ⟨query, found, same⟩ := Option.map_eq_some_iff.1 registers
    obtain ⟨rfl, rfl⟩ := Prod.mk.inj same
    rw [Step.change?, found]
    rfl
  | registerProcessWide type' =>
    obtain ⟨rfl, rfl⟩ := Prod.mk.inj (Option.some.inj registers)
    rfl
  | _ => exact absurd registers (by simp [Step.registration?])

/-- Where encoders only encode, a step that is no registration leaves its registry as it is. -/
theorem change_eq_of_isPure (inOrder : s.InOrder Encoder.IsPure) (pure : step.IsPure)
    (aside : step.registration? s = none) (changes : step.change? s = some (r, f)) :
    f (s.registry r) = s.registry r := by
  cases step with
  | compile q =>
    obtain ⟨query, found, same⟩ := Option.map_eq_some_iff.1 changes
    obtain ⟨rfl, rfl⟩ := Prod.mk.inj same
    exact Query.registry_compile_of_isPure (inOrder.queries _ (List.mem_of_getElem? found)).2
  | encodeFor b encoder value =>
    obtain ⟨builder, -, same⟩ := Option.map_eq_some_iff.1 changes
    obtain ⟨rfl, rfl⟩ := Prod.mk.inj same
    show (s.registry builder.registry).registerAll (encoder.encode value).registered = _
    rw [pure value]
    rfl
  | register b type =>
    rw [Step.change?, Option.map_eq_none_iff.1 aside] at changes
    exact absurd changes (by simp)
  | registerThrough q type =>
    rw [Step.change?, Option.map_eq_none_iff.1 aside] at changes
    exact absurd changes (by simp)
  | registerProcessWide type => exact absurd aside (by simp [Step.registration?])
  | _ => exact absurd changes (by simp [Step.change?])

/-- **A step whose encoders only encode changes registries by its registration alone.** -/
theorem registry_step_of_isPure (inOrder : s.InOrder Encoder.IsPure) (pure : step.IsPure)
    (r : Nat) :
    (s.step step).registry r =
      match step.registration? s with
      | some (r', type) => if r = r' then (s.registry r).register type else s.registry r
      | none => s.registry r := by
  rw [registry_step inOrder]
  cases registers : step.registration? s with
  | some registration => rw [change?_of_registration registers]
  | none =>
    cases changes : step.change? s with
    | none => rfl
    | some change =>
      dsimp only
      split
      · rename_i here
        rw [here]
        exact change_eq_of_isPure inOrder pure registers changes
      · rfl

end Changes

theorem inOrder_after_of_isPure {past : List (Step S)} (pure : ∀ step ∈ past, step.IsPure) :
    (after past).InOrder Encoder.IsPure := by
  apply inOrder_after Encoder.isPure_default
  intro step mem
  have brings := pure step mem
  cases step with
  | equipBuilder b encoder => exact brings
  | equipQuery q encoder => exact brings
  | _ => exact trivial

/-- A registry holds the builtin types and those registered on it. -/
theorem contains_registry_after {past : List (Step S)} (pure : ∀ step ∈ past, step.IsPure)
    (r : Nat) (key : TypeKey) :
    ((after past).registry r).contains key =
      (Registry.builtin.contains key || (registeredOn past r).any (key == ·)) := by
  induction past with
  | nil =>
    have fresh : (after ([] : List (Step S))).registry r = .builtin := by
      match r with
      | 0 => rfl
      | 1 => rfl
      | r + 2 => rfl
    rw [fresh]
    exact (Bool.or_false _).symm
  | cons step past ih =>
    have before := fun s mem => pure s (List.mem_cons_of_mem step mem)
    rw [after_cons, registry_step_of_isPure (inOrder_after_of_isPure before)
      (pure step List.mem_cons_self)]
    unfold registeredOn
    cases step.registration? (after past) with
    | none => exact ih before
    | some registration =>
      obtain ⟨r', type⟩ := registration
      dsimp only
      split
      · rw [Registry.contains_register, ih before, List.any_cons, Bool.or_assoc]
        congr 1
        exact Bool.or_comm ..
      · exact ih before

end Session
end TypedQuery
