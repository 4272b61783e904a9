import TypedQuery.Derive.Grammar.Basic

/-!
# Types, bounds and paths

Between angle brackets every bracket is a token of its own, and so is every ampersand of a
reference to a reference. Arguments of a path stand directly behind a name among types, and after
a pair of colons among expressions.
-/

set_option autoImplicit false

namespace TypedQuery.Derive.Grammar

/-- A type that may be a sum of bounds. -/
def anyType : Grammar := rule (.type true)

/-- A type that is no sum. -/
def plainType : Grammar := rule (.type false)

/-! ## Paths -/

/-- Generic arguments. -/
def arguments : Grammar := rule .arguments

/-- Generic arguments after a pair of colons. -/
def colonArguments : Grammar := both (mark "::") arguments

/-- Generic arguments directly behind a name. -/
def directArguments : Grammar :=
  inOrder [notAhead (mark "<="), notAhead (mark "<<="), ahead (mark "<"), arguments]

/-- A part of a path with the arguments that it may have. -/
def pathPart (given : Grammar) : Grammar :=
  either (wordOf ["super", "self", "crate", "try"])
    (both (either name (word "Self")) (optional given))

/-- Further parts of a path. -/
def pathRest (part : Grammar) : Grammar :=
  many (inOrder [notAhead (both (mark "::") (keptGroup .parenthesis)), mark "::", part])

/-- The arguments of a part among types. -/
def typeArguments : Grammar := either directArguments colonArguments

/-- A part of a path among types. -/
def typePart : Grammar := pathPart typeArguments

/-- A path among types. -/
def path : Grammar := inOrder [optional (mark "::"), typePart, pathRest typePart]

/-- A path that starts with a type of its own. -/
def qualified (part : Grammar) : Grammar :=
  inOrder [mark "<", anyType, optional (both (word "as") path), mark ">", mark "::", part,
    pathRest part]

/-! ## Bounds -/

/-- Lifetimes that a bound holds for. -/
def forLifetimes : Grammar :=
  inOrder [word "for", mark "<", list (rule .parameter), mark ">"]

/-- Arguments in parentheses with a result, as those of functions. Colons in front of them are
    left out. -/
def callArguments : Grammar :=
  inOrder [optional (silent (mark "::")), parens (list anyType),
    optional (both (mark "->") plainType)]

/-- The trait of a bound after its modifiers. -/
def boundPath : Grammar := both path (optional callArguments)

/-- A trait as a bound. -/
def traitBound : Grammar :=
  inOrder [optional forLifetimes, optional (mark "?"), optional forLifetimes, boundPath]

/-- A trait as a bound in a constant context. -/
def constBound : Grammar :=
  asWritten (inOrder [optional forLifetimes,
    oneOf [brackets (word "const"), word "const", both (mark "~") (word "const")], boundPath])

/-- The parameters that a type may use. -/
def capture : Grammar :=
  inOrder [word "use", mark "<", lifetimesFirst lifetime anyWord, mark ">"]

/-- A bound that names a trait. -/
def namedBound : Grammar := oneOf [parens (either constBound traitBound), constBound, traitBound]

/-- A bound. -/
def bound : Grammar := either lifetime namedBound

/-- Bounds with plus signs between them. -/
def bounds : Grammar := separated "+" (rule .bound)

/-- Further bounds of a sum. -/
def boundsRest : Grammar :=
  both (many (both (mark "+") (rule .bound))) (optional (mark "+"))

/-- The bounds of an unnamed type, of which at least one names a trait. -/
def traitBounds (named : Grammar) (sums : Bool) : Grammar :=
  if sums then
    inOrder [many (both lifetime (mark "+")), named,
      many (both (mark "+") (either named (rule .bound))), optional (mark "+")]
  else named

/-- Bounds after a colon, which is left out if there are none. -/
def declaredBounds : Grammar := either (both (mark ":") bounds) (optional (silent (mark ":")))

/-! ## Arguments and parameters -/

/-- A value as an argument: a literal, or an expression in braces. -/
def constArgument : Grammar :=
  oneOf [literal, both (mark "-") number, braces (both innerAttributes (many (rule .statement)))]

/-- What follows the path of a type. -/
def typeRest (sums : Bool) : Grammar := if sums then boundsRest else nothing

/-- An argument that starts with a name: a binding, a bound on an associated type, or a type. -/
def namedArgument : Grammar :=
  oneOf [
    macroCall,
    both typePart (oneOf [
      inOrder [mark "=", either constArgument anyType],
      both colon (optional bounds),
      both (pathRest typePart) boundsRest])]

/-- An argument that is no lifetime. -/
def argument : Grammar := oneOf [constArgument, namedArgument, anyType]

/-- Arguments in angle brackets. -/
def argumentList : Grammar :=
  inOrder [mark "<", lifetimesFirst (both lifetime (notAhead (mark "+"))) argument, mark ">"]

/-- A lifetime as a parameter. -/
def lifetimeParameter : Grammar :=
  inOrder [attributes, lifetime,
    either (both (mark ":") (separated "+" lifetime)) (optional (silent (mark ":")))]

/-- A type or a value as a parameter. -/
def valueParameter : Grammar :=
  both attributes (oneOf [
    inOrder [word "const", name, mark ":", anyType, optional (both (mark "=") constArgument)],
    inOrder [either name (word "_"), declaredBounds, optional (both (mark "=") anyType)]])

/-- A generic parameter. -/
def parameter : Grammar := either lifetimeParameter valueParameter

/-- Parameters in angle brackets, which are left out if there are none. -/
def parameters : Grammar :=
  either (silent (both (mark "<") (mark ">")))
    (inOrder [mark "<", lifetimesFirst lifetimeParameter valueParameter, mark ">"])

/-- A predicate on types or lifetimes. -/
def predicate : Grammar :=
  oneOf [
    inOrder [lifetime, mark ":", optional (separated "+" lifetime)],
    inOrder [optional forLifetimes, anyType, mark ":", optional bounds]]

/-- Predicates after their keyword, which is left out if there are none. -/
def predicates : Grammar :=
  oneOf [both (word "where") (separated "," predicate), silent (word "where"), nothing]

/-! ## Types -/

/-- The calling convention of a function. -/
def convention : Grammar := both (word "extern") (optional literal)

/-- A parameter of a function type. -/
def functionParameter : Grammar :=
  both attributes (oneOf [
    mark "...",
    both (optional (inOrder [optional (word "mut"), either name (wordOf ["_", "self"]), colon]))
      (either (mark "...") anyType)])

/-- A function type. -/
def functionType : Grammar :=
  inOrder [optional (word "unsafe"), optional convention, word "fn",
    parens (list functionParameter), optional (both (mark "->") plainType)]

/-- What stands between the parentheses of a type: nothing, bounds, a type, or several. -/
def parenthesised : Grammar :=
  oneOf [
    both (ahead lifetime) (traitBounds namedBound true),
    both (ahead (mark "?")) traitBound,
    list anyType]

/-- A type. -/
def typeOf (sums : Bool) : Grammar :=
  oneOf [
    both (parens parenthesised) (typeRest sums),
    both (optional forLifetimes) functionType,
    inOrder [forLifetimes, path, typeRest sums],
    qualified typePart,
    macroCall,
    both path (typeRest sums),
    asWritten (inOrder [word "dyn", mark "*", traitBounds namedBound sums]),
    both (word "dyn") (traitBounds namedBound sums),
    brackets (both anyType (optional (both (mark ";") (rule (.expression true))))),
    inOrder [mark "*", wordOf ["const", "mut"], plainType],
    inOrder [mark "&", optional lifetime, optional (word "mut"), plainType],
    both (notAhead (mark "!=")) (mark "!"),
    both (word "impl") (traitBounds (either capture namedBound) sums),
    word "_",
    both (ahead lifetime) (traitBounds namedBound true)]

end TypedQuery.Derive.Grammar
