import TypedQuery.Query.Expansion
import TypedQuery.Query.Selector
import TypedQuery.Selection.Text

/-!
# `Query` — a root type with the metadata of its fields

Metadata is attached to fields that are selected by name or given by their identity. Compiling
first encodes all parameters, registers what the encoder asks for, and only then walks the types,
against the registry as it is by then.
-/

set_option autoImplicit false

namespace TypedQuery

/-- A query over one root type of a family. -/
structure Query (S : Schema) where
  root : S.Ref
  encoder : Encoder
  config : QueryConfig
  metadata : Metadata

/-- What compiling leaves: the registry, grown by what the encoder asked for, and the outcome. -/
structure Compiled where
  registry : Registry
  outcome : Except QueryError SelectionSet

namespace Query

variable {S : Schema}

/-- The descriptor of the root. -/
def descriptor (q : Query S) : Descriptor S.size := S.descriptor q.root

/-- The identity of the member that a selector names. -/
def select (q : Query S) (selector : String) : Except QueryError FieldId :=
  (Selector.resolve q.descriptor selector).map (·.id)

/-- Sets the alias of a field. -/
def setAlias (q : Query S) (id : FieldId) (aliasName : String) : Query S :=
  { q with metadata := q.metadata.setAlias id aliasName }

/-- Adds a parameter to a field. -/
def addParameter (q : Query S) (id : FieldId) (name : String) (value : Value) :
    Except QueryError (Query S) :=
  (q.metadata.addParameter id name value).map fun metadata => { q with metadata }

/-- Compiles into a selection. -/
def compile (q : Query S) (registry : Registry) : Compiled :=
  let encoding := q.metadata.encodeParameters q.encoder
  let registry := registry.registerAll encoding.registered
  match encoding.outcome with
  | .error e => ⟨registry, .error (.encode e)⟩
  | .ok arguments =>
    ⟨registry, (Expansion.mk registry q.metadata arguments q.config : Expansion S).root q.root⟩

/-- Compiles into text. -/
def text (q : Query S) (registry : Registry) : Except QueryError String :=
  (q.compile registry).outcome.map SelectionSet.text

end Query

end TypedQuery
