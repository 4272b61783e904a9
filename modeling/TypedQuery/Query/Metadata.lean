import TypedQuery.Query.Error
import TypedQuery.Text.Blank
import TypedQuery.Value.Encoder

/-!
# `Metadata` — the aliases and parameters of a query's fields

Metadata is kept per member identity: at most one alias, the last one set, and parameters in
order of insertion, each name at most once. A blank alias is kept but reads as none.
-/

set_option autoImplicit false

namespace TypedQuery

/-- The literals of the arguments, per member identity. -/
abbrev Arguments : Type := List (FieldId × List (String × String))

/-- The aliases and parameters of the fields of one query. -/
structure Metadata where
  aliases : List (FieldId × String)
  parameters : List (FieldId × List (String × Value))
  /-- A field has one alias. -/
  distinct_aliases : Entries.Distinct aliases
  /-- A field has one list of parameters. -/
  distinct_fields : Entries.Distinct parameters
  /-- A field has one parameter of a name. -/
  distinct_names : ∀ field ∈ parameters, Entries.Distinct field.2

namespace Metadata

/-- No alias and no parameter. -/
def empty : Metadata := ⟨[], [], Entries.distinct_nil, Entries.distinct_nil, by simp⟩

instance : Inhabited Metadata := ⟨empty⟩

/-- Every parameter stored for a field. -/
def storedParameters (m : Metadata) (id : FieldId) : List (String × Value) :=
  (m.parameters.lookup id).getD []

/-- Equal identities have the same parameters. -/
theorem storedParameters_congr (m : Metadata) {id other : FieldId} (same : (id == other) = true) :
    m.storedParameters id = m.storedParameters other := by
  unfold storedParameters
  rw [Entries.lookup_congr same]

/-- The parameters of a field have distinct names. -/
theorem distinct_storedParameters (m : Metadata) (id : FieldId) :
    Entries.Distinct (m.storedParameters id) := by
  unfold storedParameters
  cases h : m.parameters.lookup id with
  | none => exact Entries.distinct_nil
  | some stored =>
    obtain ⟨k, -, mem⟩ := Entries.mem_of_lookup_eq_some h
    exact m.distinct_names (k, stored) mem

/-- Sets the alias of a field; the last one set counts. -/
def setAlias (m : Metadata) (id : FieldId) (aliasName : String) : Metadata :=
  { m with
    aliases := Entries.put id aliasName m.aliases
    distinct_aliases := m.distinct_aliases.put id aliasName }

/-- Adds a parameter to a field; a name that the field already has is refused. -/
def addParameter (m : Metadata) (id : FieldId) (name : String) (value : Value) :
    Except QueryError Metadata :=
  let stored := m.storedParameters id
  if h : (Entries.keys stored).contains name then .error (.duplicateParameter id name)
  else .ok { m with
    parameters := Entries.put id (stored ++ [(name, value)]) m.parameters
    distinct_fields := m.distinct_fields.put id _
    distinct_names := by
      intro field mem
      rcases Entries.mem_put mem with kept | added
      · exact m.distinct_names field kept
      · rw [added]
        exact (m.distinct_storedParameters id).concat (by simpa using h) value }

/-- An alias is found under the field it was set for, and all else as before. -/
theorem lookup_setAlias (m : Metadata) (id other : FieldId) (aliasName : String) :
    (m.setAlias id aliasName).aliases.lookup other =
      if other == id then some aliasName else m.aliases.lookup other :=
  Entries.lookup_put id other aliasName m.aliases

/-- A parameter is stored after those of its field, and nothing else changes. -/
theorem addParameter_eq_ok {m m' : Metadata} {id : FieldId} {name : String} {value : Value}
    (h : m.addParameter id name value = .ok m') :
    m'.aliases = m.aliases ∧ ∀ other, m'.storedParameters other =
      if other == id then m.storedParameters id ++ [(name, value)]
      else m.storedParameters other := by
  unfold addParameter at h
  dsimp only at h
  split at h
  · exact absurd h (by simp)
  · obtain rfl := Except.ok.inj h
    refine ⟨rfl, fun other => ?_⟩
    unfold storedParameters
    rw [Entries.lookup_put]
    split <;> rfl

/-- A parameter is refused exactly when its field has one of that name. -/
theorem addParameter_fails_iff {m : Metadata} {id : FieldId} {name : String} {value : Value} :
    (∃ error, m.addParameter id name value = .error error) ↔
      (Entries.keys (m.storedParameters id)).contains name = true := by
  unfold addParameter
  dsimp only
  split
  · rename_i taken
    exact ⟨fun _ => taken, fun _ => ⟨_, rfl⟩⟩
  · rename_i fresh
    exact ⟨fun ⟨_, refused⟩ => absurd refused (by simp), fun taken => absurd taken fresh⟩

/-- The alias of a field, unless it is blank. -/
def aliasOf (m : Metadata) (id : FieldId) : Option String :=
  (m.aliases.lookup id).filter fun aliasName => !Text.isBlankText aliasName.toList

/-- The parameters of a field in order of insertion, if there are any. -/
def parametersOf (m : Metadata) (id : FieldId) : Option (List (String × Value)) :=
  (m.parameters.lookup id).filter (!·.isEmpty)

/-- No alias was ever set, and no parameter added. -/
def isEmpty (m : Metadata) : Bool :=
  m.aliases.isEmpty && m.parameters.all (·.2.isEmpty)

/-- Encodes the parameters of the given fields, field by field, up to the first failure. -/
def encodeFields (encoder : Encoder) :
    List (FieldId × List (String × Value)) → Encoding Arguments
  | [] => .done []
  | (id, parameters) :: rest =>
    if parameters.isEmpty then encodeFields encoder rest
    else
      (encoder.encodeAll parameters).andThen fun arguments =>
        (encodeFields encoder rest).andThen fun others => .done ((id, arguments) :: others)

/-- Encodes every stored parameter, whether its field will be rendered or not. -/
def encodeParameters (m : Metadata) (encoder : Encoder) : Encoding Arguments :=
  encodeFields encoder m.parameters

end Metadata

end TypedQuery
