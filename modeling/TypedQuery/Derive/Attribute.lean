import TypedQuery.Derive.Grammar.Reader
import TypedQuery.Derive.Item

/-!
# `gather` — reading the options of an item from its attributes

The entries of all attribute lists are read in order. An entry of an unknown name, a second one
of a known name and a value that does not fit are errors; none of them ends the reading, so that
all errors come out together, in the order of the entries.
-/

set_option autoImplicit false

namespace TypedQuery.Derive

/-- Options read so far, and errors in the order in which they were found. -/
structure Gathered (α : Type) where
  options : α
  errors : List DeriveError

namespace Gathered

variable {α : Type}

/-- With an error in front of the others. -/
def after (e : DeriveError) (g : Gathered α) : Gathered α := { g with errors := e :: g.errors }

end Gathered

/-- Reads entries with the given known names; `set` puts the value of a known entry into the
    options and `seen` holds the names already read. -/
def gather {α : Type} (known : List String)
    (set : α → String → MetaValue → Except DeriveError α) (seen : List String) (options : α) :
    List MetaItem → Gathered α
  | [] => ⟨options, []⟩
  | .invalid e :: rest => (gather known set seen options rest).after e
  | .named name value :: rest =>
    if !known.contains name then
      (gather known set seen options rest).after (.unknownField name known)
    else if seen.contains name then
      (gather known set seen options rest).after (.duplicateField name)
    else match set options name value with
      | .ok options => gather known set (name :: seen) options rest
      | .error e => (gather known set (name :: seen) options rest).after e

/-! ## Values -/

namespace MetaValue

/-- A flag: a bare word, a truth value, or a truth value in quotes. -/
def flag : MetaValue → Except DeriveError Bool
  | word => .ok true
  | bool b => .ok b
  | text "true" => .ok true
  | text "false" => .ok false
  | text s => .error (.unknownValue s)
  | list => .error (.unexpectedFormat "list")
  | other kind => .error (.unexpectedType kind)

/-- A text in quotes. -/
def string : MetaValue → Except DeriveError String
  | text s => .ok s
  | word => .error (.unexpectedFormat "word")
  | list => .error (.unexpectedFormat "list")
  | bool _ => .error (.unexpectedType "bool")
  | other kind => .error (.unexpectedType kind)

/-- A path in quotes. -/
def path : MetaValue → Except DeriveError (List Token)
  | text s =>
    match Grammar.readText? Grammar.path s with
    | some tokens => .ok tokens
    | none => .error (.unknownValue s)
  | word => .error (.unexpectedFormat "word")
  | list => .error (.unexpectedFormat "list")
  | bool _ => .error (.unexpectedType "bool")
  | other kind => .error (.unexpectedType kind)

end MetaValue

/-! ## The options of items, fields and variants -/

/-- The options of an item: to be a leaf, and the path of the library in the generated code. -/
structure ItemOptions where
  scalar : Bool
  library : Option (List Token)

/-- The options of a field: a name of its own, and to be left out. -/
structure FieldOptions where
  rename : Option String
  skip : Bool

/-- The options of a variant: a literal of its own. -/
structure VariantOptions where
  rename : Option String

/-- The options of an item and their errors. -/
def Item.options (item : Item) : Gathered ItemOptions :=
  gather ["scalar", "crate"]
    (fun options name value =>
      if name == "scalar" then value.flag.map fun scalar => { options with scalar }
      else value.path.map fun path => { options with library := some path })
    [] ⟨false, none⟩ item.attributes.flatten

/-- The options of a field and their errors. -/
def Field.options (field : Field) : Gathered FieldOptions :=
  gather ["rename", "skip"]
    (fun options name value =>
      if name == "rename" then value.string.map fun other => { options with rename := some other }
      else value.flag.map fun skip => { options with skip })
    [] ⟨none, false⟩ field.attributes.flatten

/-- The options of a variant and their errors. -/
def Variant.options (variant : Variant) : Gathered VariantOptions :=
  gather ["rename"]
    (fun _ _ value => value.string.map fun other => ⟨some other⟩)
    [] ⟨none⟩ variant.attributes.flatten

end TypedQuery.Derive
