import TypedQuery.Selection.Basic

/-!
# `SelectionSet.text` — the text of a selection

Fields stand between braces, one space apart. A field is its name, its alias after a colon, its
arguments between parentheses, and its nested selection, each only where there is one.
-/

set_option autoImplicit false

namespace TypedQuery

/-- The alias after its colon. -/
def FieldHead.aliasText (h : FieldHead) : String :=
  match h.aliasName with
  | none => ""
  | some aliasName => ":" ++ aliasName

/-- An argument: its name, a colon and its literal. -/
def FieldHead.argumentText (argument : String × String) : String :=
  argument.1 ++ ":" ++ argument.2

/-- The arguments between parentheses, commas between them; nothing when there are none. -/
def FieldHead.argumentsText (h : FieldHead) : String :=
  match h.arguments with
  | [] => ""
  | arguments => "(" ++ ",".intercalate (arguments.map argumentText) ++ ")"

/-- All that stands before the nested selection. -/
def FieldHead.text (h : FieldHead) : String := h.name ++ h.aliasText ++ h.argumentsText

namespace SelectionField

mutual

/-- The text of a field. -/
def text : SelectionField → String
  | leaf head => head.text
  | nested head fields => head.text ++ "\x7b" ++ " ".intercalate (texts fields) ++ "\x7d"

/-- The texts of fields, one by one. -/
def texts : List SelectionField → List String
  | [] => []
  | field :: rest => text field :: texts rest

end

theorem texts_eq_map (fields : List SelectionField) : texts fields = fields.map text := by
  induction fields with
  | nil => rfl
  | cons field rest ih => simp [texts, ih]

end SelectionField

/-- The text of a selection. -/
def SelectionSet.text (s : SelectionSet) : String :=
  "\x7b" ++ " ".intercalate (s.fields.map SelectionField.text) ++ "\x7d"

end TypedQuery
