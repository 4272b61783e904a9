import TypedQuery.Query.Basic

/-!
# `Session` — builders and queries over shared registries

A session holds registries, builders and queries. Builders and queries refer to registries by
number, so that a registration made through one is seen by all that share the registry; config,
encoder and metadata are copied. Registry number 0 is the process-wide one.
-/

set_option autoImplicit false

namespace TypedQuery

/-- The settings with which queries are built. -/
structure Builder where
  registry : Nat
  config : QueryConfig
  encoder : Encoder

/-- A builder of default settings on a registry. -/
def Builder.on (registry : Nat) : Builder := ⟨registry, QueryConfig.default, Encoder.default⟩

/-- A query together with the registry it is compiled against. -/
structure BoundQuery (S : Schema) where
  registry : Nat
  query : Query S

/-- The query of a root with a builder's settings and no metadata. -/
def Builder.build {S : Schema} (b : Builder) (root : S.Ref) : BoundQuery S :=
  ⟨b.registry, ⟨root, b.encoder, b.config, .empty⟩⟩

/-- Registries, builders and queries, each in order of creation. -/
structure Session (S : Schema) where
  registries : List Registry
  builders : List Builder
  queries : List (BoundQuery S)

namespace Session

variable {S : Schema}

/-- The number of the process-wide registry. -/
def processWide : Nat := 0

/-- The process-wide registry, and one builder on a fresh registry of its own. -/
def initial : Session S := ⟨[.builtin, .builtin], [.on 1], []⟩

/-- A registry by its number. -/
def registry (s : Session S) (r : Nat) : Registry := s.registries.getD r .builtin

/-- The result of compiling a query now. -/
def compiled (s : Session S) (q : BoundQuery S) : Compiled :=
  q.query.compile (s.registry q.registry)

/-- Where a new builder gets its registry and settings from. -/
inductive BuilderSource where
  /-- A fresh registry and default settings. -/
  | fresh
  /-- The process-wide registry and default settings. -/
  | processWide
  /-- A builder's registry and default settings. -/
  | sharing (builder : Nat)
  /-- A builder's registry and settings. -/
  | clone (builder : Nat)

/-- One step of a session. Builders and queries are named by their numbers; a number that is not
    in use makes the step do nothing. -/
inductive Step (S : Schema) where
  | newBuilder (source : BuilderSource)
  | configureBuilder (builder : Nat) (config : QueryConfig)
  | equipBuilder (builder : Nat) (encoder : Encoder)
  /-- Builds a query with a builder's settings. -/
  | build (builder : Nat) (root : S.Ref)
  /-- Builds a query of default settings on the process-wide registry. -/
  | buildDefault (root : S.Ref)
  | cloneQuery (query : Nat)
  /-- Registers a type through a builder. -/
  | register (builder : Nat) (type : TypeKey)
  /-- Registers a type through a query, on the registry it is compiled against. -/
  | registerThrough (query : Nat) (type : TypeKey)
  /-- Registers a type on the process-wide registry. -/
  | registerProcessWide (type : TypeKey)
  | setAlias (query : Nat) (field : FieldId) (aliasName : String)
  /-- Adds a parameter; a refused one leaves the query as it is. -/
  | addParameter (query : Nat) (field : FieldId) (name : String) (value : Value)
  | configureQuery (query : Nat) (config : QueryConfig)
  | equipQuery (query : Nat) (encoder : Encoder)
  /-- Compiles a query, which registers what its encoder asks for. -/
  | compile (query : Nat)
  /-- Runs an encoder on a value for a builder's registry. -/
  | encodeFor (builder : Nat) (encoder : Encoder) (value : Value)

/-- Changes one registry. -/
def onRegistry (s : Session S) (r : Nat) (f : Registry → Registry) : Session S :=
  { s with registries := s.registries.modify r f }

/-- Changes one builder. -/
def onBuilder (s : Session S) (b : Nat) (f : Builder → Builder) : Session S :=
  { s with builders := s.builders.modify b f }

/-- Changes one query, its registry apart. -/
def onQuery (s : Session S) (q : Nat) (f : Query S → Query S) : Session S :=
  { s with queries := s.queries.modify q fun bound => { bound with query := f bound.query } }

/-- Adds a query. -/
def addQuery (s : Session S) (q : BoundQuery S) : Session S :=
  { s with queries := s.queries ++ [q] }

/-- Adds a builder. -/
def addBuilder (s : Session S) (b : Builder) : Session S :=
  { s with builders := s.builders ++ [b] }

/-- The session after a step. -/
def step (s : Session S) : Step S → Session S
  | .newBuilder .fresh =>
    { s.addBuilder (.on s.registries.length) with registries := s.registries ++ [.builtin] }
  | .newBuilder .processWide => s.addBuilder (.on processWide)
  | .newBuilder (.sharing b) =>
    match s.builders[b]? with
    | some builder => s.addBuilder (.on builder.registry)
    | none => s
  | .newBuilder (.clone b) =>
    match s.builders[b]? with
    | some builder => s.addBuilder builder
    | none => s
  | .configureBuilder b config => s.onBuilder b fun builder => { builder with config }
  | .equipBuilder b encoder => s.onBuilder b fun builder => { builder with encoder }
  | .build b root =>
    match s.builders[b]? with
    | some builder => s.addQuery (builder.build root)
    | none => s
  | .buildDefault root => s.addQuery ((Builder.on processWide).build root)
  | .cloneQuery q =>
    match s.queries[q]? with
    | some query => s.addQuery query
    | none => s
  | .register b type =>
    match s.builders[b]? with
    | some builder => s.onRegistry builder.registry (·.register type)
    | none => s
  | .registerThrough q type =>
    match s.queries[q]? with
    | some query => s.onRegistry query.registry (·.register type)
    | none => s
  | .registerProcessWide type => s.onRegistry processWide (·.register type)
  | .setAlias q field aliasName => s.onQuery q (·.setAlias field aliasName)
  | .addParameter q field name value =>
    s.onQuery q fun query =>
      match query.addParameter field name value with
      | .ok changed => changed
      | .error _ => query
  | .configureQuery q config => s.onQuery q fun query => { query with config }
  | .equipQuery q encoder => s.onQuery q fun query => { query with encoder }
  | .compile q =>
    match s.queries[q]? with
    | some query => s.onRegistry query.registry fun _ => (s.compiled query).registry
    | none => s
  | .encodeFor b encoder value =>
    match s.builders[b]? with
    | some builder =>
      s.onRegistry builder.registry (·.registerAll (encoder.encode value).registered)
    | none => s

/-- The session after steps, one after the other. -/
def run (s : Session S) (steps : List (Step S)) : Session S := steps.foldl step s

end Session

end TypedQuery
