import TypedQuery.Derive.Grammar.Expressions

/-!
# Items and statements

Items stand in blocks among the statements. Lists of parameters and of predicates that are empty
are left out.
-/

set_option autoImplicit false

namespace TypedQuery.Derive.Grammar

/-- A visibility. -/
def visibility : Grammar :=
  both (word "pub") (optional (parens
    (either (wordOf ["crate", "self", "super"]) (both (word "in") plainPath))))

/-! ## Functions -/

/-- The value that a method is called on. -/
def receiver : Grammar :=
  either
    (inOrder [mark "&", optional lifetime, optional (word "mut"), word "self", notAhead (mark ":")])
    (inOrder [optional (word "mut"), word "self", notAhead (mark "::"),
      optional (both (mark ":") anyType)])

/-- A parameter of a function. -/
def functionArgument : Grammar :=
  both attributes (oneOf [
    mark "...",
    receiver,
    inOrder [pattern, colon, either (mark "...") anyType]])

/-- A function. -/
def function : Grammar :=
  inOrder [optionalWords ["const", "async"], optional (wordOf ["unsafe", "safe"]),
    optional convention, word "fn", name, optional parameters, parens (list functionArgument),
    optional (both (mark "->") anyType), predicates, either block (mark ";")]

/-! ## Values and types -/

/-- A constant. -/
def constant : Grammar :=
  inOrder [word "const", either name (word "_"), optional parameters, colon, anyType,
    optional (both (mark "=") expression), predicates, mark ";"]

/-- A static variable. -/
def staticVariable : Grammar :=
  inOrder [word "static", optional (word "mut"), name, colon, anyType,
    optional (both (mark "=") expression), mark ";"]

/-- A type under another name. -/
def typeName : Grammar :=
  inOrder [word "type", name, optional parameters, declaredBounds, predicates,
    optional (both (mark "=") anyType), predicates, mark ";"]

/-- Fields with names. -/
def namedFields : Grammar :=
  braces (list (inOrder [attributes, optional visibility, either name (word "_"), colon, anyType]))

/-- Fields without names. -/
def unnamedFields : Grammar :=
  parens (list (inOrder [attributes, optional visibility, anyType]))

/-- A struct. -/
def struct : Grammar :=
  inOrder [word "struct", name, optional parameters,
    either (inOrder [unnamedFields, predicates, mark ";"])
      (both predicates (either namedFields (mark ";")))]

/-- An enumeration. The visibility of a variant is left out. -/
def enumeration : Grammar :=
  inOrder [word "enum", name, optional parameters, predicates,
    braces (list (inOrder [attributes, silent (optional visibility), name,
      optional (either namedFields unnamedFields), optional (both (mark "=") expression)]))]

/-- A union. -/
def union : Grammar := inOrder [word "union", name, optional parameters, predicates, namedFields]

/-! ## Traits and implementations -/

/-- What stands in a trait, in an implementation or in a foreign block. -/
def member : Grammar :=
  both attributes (either
    (inOrder [optional visibility, optional (word "default"),
      oneOf [function, constant, staticVariable, typeName]])
    (both macroCall (optional (mark ";"))))

/-- Members between braces. -/
def members : Grammar := braces (both innerAttributes (many member))

/-- A trait. -/
def trait : Grammar :=
  inOrder [optionalWords ["unsafe", "auto"], word "trait", name, optional parameters,
    declaredBounds, oneOf [inOrder [mark "=", optional bounds, predicates, mark ";"],
      both predicates members]]

/-- An implementation. -/
def implementation : Grammar :=
  inOrder [optionalWords ["default", "unsafe"], word "impl", optional parameters,
    optional (word "const"), optional (mark "!"), anyType,
    optional (both (word "for") anyType), predicates, members]

/-! ## Modules and imports -/

/-- What is named by an import. -/
def importsOf : Grammar :=
  oneOf [
    mark "*",
    braces (list (rule .imports)),
    both anyWord (oneOf [both (mark "::") (rule .imports),
      both (word "as") (either name (word "_")), nothing])]

/-- An import. -/
def importing : Grammar := inOrder [word "use", optional (mark "::"), rule .imports, mark ";"]

/-- Another library under a name. -/
def externLibrary : Grammar :=
  inOrder [word "extern", word "crate", either name (word "self"),
    optional (both (word "as") (either name (word "_"))), mark ";"]

/-- Declarations of foreign functions. -/
def foreign : Grammar := inOrder [optional (word "unsafe"), convention, members]

/-- A module. -/
def submodule : Grammar :=
  inOrder [optional (word "unsafe"), word "mod", name,
    either (mark ";") (braces (both innerAttributes (many (rule .item))))]

/-- A macro that takes a name. -/
def namedMacro : Grammar :=
  inOrder [plainPath, mark "!", either name (word "try"), anyGroup, optional (mark ";")]

/-- An item. -/
def itemOf : Grammar :=
  both attributes (either
    (both (optional visibility) (oneOf [importing, externLibrary, foreign, function, constant,
      staticVariable, submodule, typeName, struct, enumeration, union, trait, implementation]))
    namedMacro)

/-! ## Statements -/

/-- A binding of variables. -/
def letStatement : Grammar :=
  inOrder [word "let", pattern, optional (both colon anyType),
    optional (inOrder [mark "=", expression, optional (both (word "else") block)]), mark ";"]

/-- A macro with braces. -/
def bracedMacro : Grammar :=
  inOrder [plainPath, notAhead (mark "!="), mark "!", keptGroup .brace]

/-- A statement. An expression needs a semicolon unless it is the last one or ends with a block. -/
def statementOf : Grammar :=
  oneOf [
    mark ";",
    both attributes letStatement,
    rule .item,
    inOrder [attributes, either bracedMacro blockLike, notAhead continuation,
      optional (mark ";")],
    both expression (either (mark ";") finish)]

end TypedQuery.Derive.Grammar
