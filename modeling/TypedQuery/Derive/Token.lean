/-!
# `Token` — generated code as trees of tokens

A token is a word, a literal or an operator, or a group between delimiters. Tokens are written
one space apart; a group between parentheses or brackets has no space inside its delimiters.
-/

set_option autoImplicit false

namespace TypedQuery.Derive

/-- What a group stands between. -/
inductive Delimiter where
  | parenthesis
  | bracket
  | brace
  deriving DecidableEq

/-- A token, or a group of tokens. -/
inductive Token where
  | atom (text : String)
  | group (delimiter : Delimiter) (content : List Token)

namespace Delimiter

/-- The delimiters with the spaces that stand inside them around some content. -/
def wrap (d : Delimiter) (content : String) : String :=
  match d with
  | parenthesis => "(" ++ content ++ ")"
  | bracket => "[" ++ content ++ "]"
  | brace => if content.isEmpty then "\x7b \x7d" else "\x7b " ++ content ++ " \x7d"

end Delimiter

namespace Token

mutual

/-- The text of a token. -/
def text : Token → String
  | atom text => text
  | group delimiter content => delimiter.wrap (" ".intercalate (texts content))

/-- The texts of tokens, one by one. -/
def texts : List Token → List String
  | [] => []
  | token :: rest => text token :: texts rest

end

/-- The text of a sequence of tokens. -/
def render (tokens : List Token) : String := " ".intercalate (texts tokens)

/-! ## Building -/

/-- One atom for every text. -/
def atoms (texts : List String) : List Token := texts.map atom

/-- A group between parentheses. -/
def paren (content : List Token) : Token := group .parenthesis content

/-- A group between brackets. -/
def bracket (content : List Token) : Token := group .bracket content

/-- A group between braces. -/
def brace (content : List Token) : Token := group .brace content

/-- Sequences with a separator between each two. -/
def joined (separator : String) (parts : List (List Token)) : List Token :=
  [atom separator].intercalate parts

/-- Sequences with a separator after each. -/
def terminated (separator : String) (parts : List (List Token)) : List Token :=
  parts.flatMap (· ++ [atom separator])

/-- Parts of a path, after another path. -/
def pathTo (start : List Token) (parts : List String) : List Token :=
  start ++ parts.flatMap fun part => [atom "::", atom part]

/-- Tokens between angle brackets. -/
def angled (content : List Token) : List Token := atom "<" :: content ++ [atom ">"]

end Token

end TypedQuery.Derive
