/-!
# `SelectionSet` — the fields selected of one type

A selection set is a list of fields. A field has a name, maybe an alias, arguments whose values
are already literals, and, unless it is a leaf, a selection of its own. An empty selection is not
the same as none.
-/

set_option autoImplicit false

namespace TypedQuery

/-- What a field carries besides its nested selection. -/
structure FieldHead where
  /-- The name under which the field is selected. -/
  name : String
  /-- The remote field that the name stands for. -/
  aliasName : Option String
  /-- Names and literals, in order. -/
  arguments : List (String × String)
  deriving DecidableEq

/-- A selected field. -/
inductive SelectionField where
  /-- A field without a nested selection. -/
  | leaf (head : FieldHead)
  /-- A field with the fields selected of it. -/
  | nested (head : FieldHead) (fields : List SelectionField)

/-- The fields selected of one type. -/
structure SelectionSet where
  fields : List SelectionField

namespace SelectionField

/-- What the field carries besides its nested selection. -/
def head : SelectionField → FieldHead
  | leaf head => head
  | nested head _ => head

/-- The name under which the field is selected. -/
def name (f : SelectionField) : String := f.head.name

/-- The remote field that the name stands for. -/
def aliasName (f : SelectionField) : Option String := f.head.aliasName

/-- The names and literals of the arguments, in order. -/
def arguments (f : SelectionField) : List (String × String) := f.head.arguments

/-- The nested selection; none of a leaf. -/
def selection : SelectionField → Option SelectionSet
  | leaf _ => none
  | nested _ fields => some ⟨fields⟩

/-- The field of a head and a nested selection. -/
def make (head : FieldHead) : Option SelectionSet → SelectionField
  | none => leaf head
  | some set => nested head set.fields

@[simp] theorem head_make (head : FieldHead) (set : Option SelectionSet) :
    (make head set).head = head := by
  cases set <;> rfl

@[simp] theorem selection_make (head : FieldHead) (set : Option SelectionSet) :
    (make head set).selection = set := by
  cases set <;> rfl

end SelectionField

namespace SelectionSet

/-- The first field of a name. -/
def field? (s : SelectionSet) (name : String) : Option SelectionField :=
  s.fields.find? (·.name == name)

/-- No field is selected. -/
def isEmpty (s : SelectionSet) : Bool := s.fields.isEmpty

/-- Follows names from selection to selection; nothing at the end of no names. -/
def lookup (s : SelectionSet) : List String → Option SelectionField
  | [] => none
  | [name] => s.field? name
  | name :: rest =>
    match s.field? name with
    | none => none
    | some field =>
      match field.selection with
      | none => none
      | some set => set.lookup rest

end SelectionSet

end TypedQuery
