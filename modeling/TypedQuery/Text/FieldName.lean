import TypedQuery.Text.Cluster
import TypedQuery.Text.Identifier
import TypedQuery.Text.LetterCase

/-!
# `FieldCase` — how a declared member name becomes a field name

A declared name is snake case: words joined by underscores. Camel case lower-cases the first
word, capitalises the others and joins them; words are kept even where they are empty, so a
leading underscore leaves an empty first word and everything after it is capitalised.
-/

set_option autoImplicit false

namespace TypedQuery.Text

/-! ## Words -/

/-- The words of a text: it is cut at every underscore that is a cluster of its own, and the
    pieces between the cuts are kept, the empty ones too. `previous` is the character before
    the text, if there is one. -/
def wordsAfter (previous : Option Char) : List Char → List (List Char)
  | [] => [[]]
  | c :: rest =>
    if c == '_' && !previous.any attachesForward && !rest.head?.any attachesBack then
      [] :: wordsAfter (some c) rest
    else
      match wordsAfter (some c) rest with
      | [] => [[c]]
      | word :: others => (c :: word) :: others

/-- The words of a snake-case text. -/
def snakeWords (cs : List Char) : List (List Char) := wordsAfter none cs

/-- A word with its first character in upper case and the others in lower case. -/
def capitalize : List Char → List Char
  | [] => []
  | c :: rest => upper c ++ lowerText rest

/-- Words joined in camel case. -/
def camelWords : List (List Char) → List Char
  | [] => []
  | word :: others => lowerText word ++ (others.map capitalize).flatten

/-- A snake-case text in camel case. -/
def camel (cs : List Char) : List Char := camelWords (snakeWords cs)

/-- A text with its first character in lower case. -/
def lowerFirst : List Char → List Char
  | [] => []
  | c :: rest => lower c ++ rest

end TypedQuery.Text

namespace TypedQuery

/-- The policies by which a declared member name becomes a field name. -/
inductive FieldCase where
  /-- `created_at` becomes `createdAt`. -/
  | camel
  /-- The first character in lower case, the others as declared. -/
  | lowerFirst
  /-- As declared. -/
  | preserve
  deriving DecidableEq, Inhabited

namespace FieldCase

/-- The rule of a policy on the characters of an unmarked name. -/
def convert : FieldCase → List Char → List Char
  | camel => Text.camel
  | lowerFirst => Text.lowerFirst
  | preserve => id

/-- The field name of a declared member name. -/
def apply (case : FieldCase) (name : String) : String :=
  String.ofList (case.convert (Text.unmarked name.toList))

end FieldCase

end TypedQuery
