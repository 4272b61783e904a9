import TypedQuery.Derive.Token

/-!
# `Grammar` — what source text may consist of, as data

A grammar describes sequences of source tokens by ordered choice: of two alternatives the second
counts only where the first does not apply. It also says how what was read is written again:
some tokens are left out, some are added, and in a list between angle brackets lifetimes come
first. Grammars that contain themselves do so through the name of a rule.
-/

set_option autoImplicit false

namespace TypedQuery.Derive

/-- The names of the rules through which grammars contain each other. -/
inductive Rule where
  /-- A type; with `sums` it may be a sum of bounds. -/
  | type (sums : Bool)
  /-- Generic arguments in angle brackets. -/
  | arguments
  /-- A bound on a type. -/
  | bound
  /-- A generic parameter. -/
  | parameter
  /-- An expression; with `structs` a name may be followed by the fields of a struct. -/
  | expression (structs : Bool)
  /-- An expression without binary operators at its top. -/
  | operand (structs : Bool)
  /-- A condition with its blocks. -/
  | conditional
  /-- The body of an arm of a match. -/
  | body
  /-- A pattern without alternatives at its top. -/
  | pattern
  /-- What stands in a block. -/
  | statement
  /-- An item. -/
  | item
  /-- What is named by an import. -/
  | imports

/-- A description of sequences of source tokens. -/
inductive Grammar where
  | nothing
  /-- Punctuation characters that are written together. -/
  | mark (text : String)
  /-- A word. -/
  | word (text : String)
  /-- A word that is no keyword. -/
  | name
  /-- Any word. -/
  | anyWord
  | lifetime
  /-- A literal, or one of the words for a truth value. -/
  | literal
  /-- A literal that is a number. -/
  | number
  /-- Numbers of fields with points between them, which may be one literal. -/
  | positions
  /-- A group whose content is described. -/
  | group (delimiter : Delimiter) (content : Grammar)
  /-- A group of any content, kept as it is written. -/
  | keptGroup (delimiter : Delimiter)
  /-- The end of the text or of the group. -/
  | finish
  | both (first second : Grammar)
  | either (first second : Grammar)
  /-- One after the other, as often as possible. -/
  | many (entry : Grammar)
  /-- Nothing, where the given grammar applies. -/
  | ahead (g : Grammar)
  /-- Nothing, where the given grammar does not apply. -/
  | notAhead (g : Grammar)
  /-- What is read and left out. -/
  | silent (g : Grammar)
  /-- What is added without being read. -/
  | added (text : String)
  /-- What is kept as it is written. -/
  | asWritten (g : Grammar)
  /-- Entries with commas between them up to a closing angle bracket, the lifetimes first. -/
  | lifetimesFirst (lifetimes others : Grammar)
  | rule (r : Rule)

namespace Grammar

/-- One after the other. -/
def inOrder : List Grammar → Grammar
  | [] => nothing
  | [g] => g
  | g :: rest => both g (inOrder rest)

/-- The first that applies. -/
def oneOf : List Grammar → Grammar
  | [] => notAhead nothing
  | [g] => g
  | g :: rest => either g (oneOf rest)

/-- What may be missing. -/
def optional (g : Grammar) : Grammar := either g nothing

/-- The first of the words that applies. -/
def wordOf (words : List String) : Grammar := oneOf (words.map word)

/-- The first of the operators that applies. -/
def markOf (marks : List String) : Grammar := oneOf (marks.map mark)

/-- Words that may be missing, each by itself. -/
def optionalWords (words : List String) : Grammar := inOrder (words.map fun w => optional (word w))

/-- Entries with a separator between each two; there is at least one, and the separator may also
    stand after the last. -/
def separated (separator : String) (entry : Grammar) : Grammar :=
  inOrder [entry, many (both (mark separator) entry), optional (mark separator)]

/-- Entries with commas between them. -/
def list (entry : Grammar) : Grammar := optional (separated "," entry)

/-- A group between parentheses. -/
def parens (content : Grammar) : Grammar := group .parenthesis content

/-- A group between brackets. -/
def brackets (content : Grammar) : Grammar := group .bracket content

/-- A group between braces. -/
def braces (content : Grammar) : Grammar := group .brace content

/-- A group of any kind, kept as it is written. -/
def anyGroup : Grammar :=
  oneOf [keptGroup .parenthesis, keptGroup .bracket, keptGroup .brace]

/-- A colon that is not the first of a pair. -/
def colon : Grammar := both (notAhead (mark "::")) (mark ":")

/-! ## Names that are common to types, expressions and items -/

/-- A name with its qualifying names, none of which has arguments. -/
def plainPath : Grammar :=
  let part := either name (wordOf ["super", "self", "Self", "crate"])
  inOrder [optional (mark "::"), part, many (both (mark "::") part)]

/-- A macro with what it is applied to. -/
def macroCall : Grammar := inOrder [plainPath, notAhead (mark "!="), mark "!", anyGroup]

/-- The inside of an attribute. -/
def attributeContent : Grammar :=
  inOrder [either (word "unsafe") plainPath,
    oneOf [anyGroup, both (mark "=") (rule (.expression true)), nothing]]

/-- Attributes in front of what they describe. -/
def attributes : Grammar := many (both (mark "#") (brackets attributeContent))

/-- Attributes inside of what they describe. -/
def innerAttributes : Grammar :=
  many (inOrder [mark "#", mark "!", brackets attributeContent])

end Grammar

end TypedQuery.Derive
