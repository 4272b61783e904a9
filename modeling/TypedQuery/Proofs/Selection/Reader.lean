import TypedQuery.Proofs.Literal.Basic
import TypedQuery.Selection.Text

/-!
# `SelectionSet.ofText?` — a reader of selections

The grammar of the output in three lines: a selection is fields between braces, one space apart; a
field is a name, maybe an alias behind a colon, maybe arguments between parentheses, at least one,
and maybe a selection; an argument is a name, a colon and a literal. The reader follows it and knows
no more of a literal than where it ends: **the text of a literal is kept as it stands**, which is
what a selection holds. As with literals, `depth` bounds how far selections are nested, and the
length of the text is enough.
-/

set_option autoImplicit false

namespace TypedQuery

/-- Reads a literal for its text. -/
def Literal.readRaw : Reader String := fun cs =>
  (read cs).map fun r =>
    (String.ofList (cs.take (cs.length - r.2.length)), cs.drop (cs.length - r.2.length))

namespace FieldHead

/-- Reads an alias, if a colon opens one. -/
def readAlias : Reader (Option String) := fun cs =>
  if cs.head? = some ':' then (Reader.name cs.tail).map fun r => (some r.1, r.2)
  else some (none, cs)

/-- Reads arguments, if a parenthesis opens some. -/
def readArguments : Reader (List (String × String)) := fun cs =>
  if cs.head? = some '(' then
    (Reader.list (Reader.entry Literal.readRaw) ',' ')' cs.tail).filter fun r => !r.1.isEmpty
  else some ([], cs)

/-- Reads what stands before a nested selection. -/
def read : Reader FieldHead := fun cs => do
  let name ← Reader.name cs
  let aliasName ← readAlias name.2
  let arguments ← readArguments aliasName.2
  some (⟨name.1, aliasName.1, arguments.1⟩, arguments.2)

end FieldHead

/-- Reads a field, with its selection if a brace opens one. -/
def SelectionField.readWithin : Nat → Reader SelectionField
  | 0, _ => none
  | depth + 1, cs => do
    let head ← FieldHead.read cs
    if head.2.head? = some '\x7b' then
      (Reader.list (readWithin depth) ' ' '\x7d' head.2.tail).map fun r => (nested head.1 r.1, r.2)
    else some (leaf head.1, head.2)

/-- The selection of a text, of which nothing may be left. -/
def SelectionSet.ofText? (text : String) : Option SelectionSet := do
  let inside ← Reader.expect '\x7b' text.toList
  let fields ← Reader.list (SelectionField.readWithin inside.length) ' ' '\x7d' inside
  if fields.2 = [] then some ⟨fields.1⟩ else none

/-! ## Selections that the grammar is of -/

/-- Names are names, and the literals are those of values. -/
structure FieldHead.WellFormed (h : FieldHead) : Prop where
  name : Text.isName h.name.toList = true
  aliasName : ∀ aliasName ∈ h.aliasName, Text.isName aliasName.toList = true
  arguments : ∀ argument ∈ h.arguments,
    Text.isName argument.1.toList = true ∧ ∃ v : Value, v.literal = .ok argument.2

/-- A field with well-formed heads all the way down. -/
inductive SelectionField.WellFormed : SelectionField → Prop where
  | leaf {head : FieldHead} : head.WellFormed → WellFormed (.leaf head)
  | nested {head : FieldHead} {fields : List SelectionField} : head.WellFormed →
    (∀ field ∈ fields, WellFormed field) → WellFormed (.nested head fields)

def SelectionSet.WellFormed (s : SelectionSet) : Prop := ∀ field ∈ s.fields, field.WellFormed

end TypedQuery
