import TypedQuery.Derive.Grammar.Types

/-!
# Expressions, patterns and blocks

An operator between two operands may have several characters; in front of an operand every
character is an operator of its own, and so are the two bars around the parameters of a closure.
Which operator binds tighter does not matter here.
-/

set_option autoImplicit false

namespace TypedQuery.Derive.Grammar

/-- An expression that stands by itself. -/
def expression : Grammar := rule (.expression true)

/-- An expression in front of a block. -/
def header : Grammar := rule (.expression false)

/-- A block. -/
def block : Grammar := braces (both innerAttributes (many (rule .statement)))

/-- A part of a path among expressions. -/
def expressionPart : Grammar := pathPart (both (ahead (both (mark "::") (mark "<"))) colonArguments)

/-- A path among expressions. -/
def expressionPath : Grammar :=
  either (qualified expressionPart)
    (inOrder [optional (mark "::"), expressionPart, pathRest expressionPart])

/-! ## Patterns -/

/-- A pattern without alternatives. -/
def pattern : Grammar := rule .pattern

/-- A bar between alternatives. -/
def bar : Grammar := inOrder [notAhead (mark "||"), notAhead (mark "|="), mark "|"]

/-- A pattern with its alternatives. -/
def patterns : Grammar := inOrder [optional bar, pattern, many (both bar pattern)]

/-- The operator of a range in a pattern. Three points mean that the range includes its end. -/
def patternRange : Grammar :=
  oneOf [mark "..=", both (silent (mark "...")) (added "..="), mark ".."]

/-- The end of a range in a pattern. -/
def patternBound : Grammar :=
  oneOf [literal, both (mark "-") number, both (word "const") block, expressionPath]

/-- A name that a pattern binds, with the pattern that it stands for. -/
def binding : Grammar :=
  both
    (oneOf [
      inOrder [word "ref", optional (word "mut"), either name (word "self")],
      both (word "mut") (either name (word "self")),
      both (word "self") (notAhead (mark "::")),
      inOrder [name, notAhead (oneOf [markOf ["::", "!", ".."], keptGroup .brace,
        keptGroup .parenthesis])]])
    (optional (both (mark "@") pattern))

/-- A field of a pattern: a name or a number with a pattern, a name alone, or the rest. -/
def patternField : Grammar :=
  both attributes (oneOf [
    mark "..",
    inOrder [either name positions, colon, patterns],
    both (optionalWords ["box", "ref", "mut"]) name])

/-- A pattern. -/
def patternOf : Grammar :=
  oneOf [
    word "_",
    both (word "box") pattern,
    inOrder [mark "&", optional (word "mut"), pattern],
    parens (list patterns),
    brackets (list patterns),
    binding,
    macroCall,
    both patternBound (oneOf [
      both patternRange (optional patternBound),
      braces (list patternField),
      parens (list patterns),
      nothing]),
    both (markOf ["..=", ".."]) (optional patternBound)]

/-! ## Expressions with blocks -/

/-- A condition with its blocks. -/
def conditionalOf : Grammar :=
  inOrder [word "if", header, block,
    optional (both (word "else") (either (rule .conditional) block))]

/-- An arm of a match. A body that ends with a block needs no comma. -/
def arm : Grammar :=
  inOrder [attributes, patterns, optional (both (word "if") expression), mark "=>", rule .body,
    optional (mark ",")]

/-- What goes on after a block, so that the block is no statement of its own. -/
def continuation : Grammar := either (both (notAhead (mark "..")) (mark ".")) (mark "?")

/-- A match with its arms. -/
def matching : Grammar :=
  inOrder [word "match", header, braces (both innerAttributes (many arm))]

/-- A loop or a block, with its label. -/
def labelled : Grammar :=
  both (optional (both lifetime colon)) (oneOf [
    inOrder [word "while", header, block],
    inOrder [word "for", patterns, word "in", header, block],
    both (word "loop") block,
    block])

/-- An expression that ends with a block. -/
def blockLike : Grammar :=
  oneOf [rule .conditional, labelled, matching, both (wordOf ["unsafe", "const", "try"]) block]

/-- The body of an arm. -/
def bodyOf : Grammar := either (both blockLike (notAhead continuation)) expression

/-! ## Operands -/

/-- The fields of a struct: names or numbers with values, names alone, or the rest. -/
def structFields : Grammar :=
  braces (list (both attributes (either
    (both (mark "..") (optional expression))
    (both (either name positions) (optional (both colon expression))))))

/-- What may be missing behind a word or an operator: in front of a block it is no block. -/
def operandAfter (structs : Bool) (g : Grammar) : Grammar :=
  optional (if structs then g else both (notAhead (keptGroup .brace)) g)

/-- A closure. -/
def closure (structs : Bool) : Grammar :=
  inOrder [optional forLifetimes, optionalWords ["const", "static", "async", "move"], mark "|",
    list (inOrder [attributes, pattern, optional (both colon anyType)]), mark "|",
    either (inOrder [mark "->", anyType, block]) (rule (.expression structs))]

/-- An operand without operators in front of it or behind it. -/
def atom (structs : Bool) : Grammar :=
  oneOf [
    literal,
    inOrder [word "async", optional (word "move"), block],
    closure structs,
    blockLike,
    macroCall,
    both expressionPath (if structs then optional structFields else nothing),
    parens (list expression),
    brackets (optional (both expression
      (either (both (mark ";") expression)
        (both (many (both (mark ",") expression)) (optional (mark ",")))))),
    inOrder [word "break", optional lifetime, operandAfter structs (rule (.expression structs))],
    both (word "continue") (optional lifetime),
    both (wordOf ["return", "become", "yield"]) (operandAfter structs (rule (.expression structs))),
    inOrder [word "let", patterns, mark "=", rule (.expression structs)],
    both (markOf ["..=", ".."]) (operandAfter structs (rule (.operand structs))),
    word "_"]

/-- What may stand behind an operand: arguments, an index, a field or a method, a question mark. -/
def suffix : Grammar :=
  oneOf [
    parens (list expression),
    brackets expression,
    inOrder [notAhead (mark ".."), mark ".",
      oneOf [word "await", positions, both name (optional colonArguments)]],
    mark "?"]

/-- An operand with the operators in front of it and behind it. -/
def operandOf (structs : Bool) : Grammar :=
  both attributes (oneOf [
    inOrder [mark "&",
      optional (both (word "raw") (either (word "const") (ahead (word "mut")))),
      optional (word "mut"), rule (.operand structs)],
    both (markOf ["*", "!", "-"]) (rule (.operand structs)),
    both (atom structs) (many suffix)])

/-! ## Expressions -/

/-- The operators between two operands, longer ones before those that they start with. -/
def binaryOperators : List String :=
  ["+=", "-=", "*=", "/=", "%=", "^=", "&=", "|=", "<<=", ">>=", "&&", "||", "<<", ">>", "==", "<=",
    "!=", ">=", "+", "-", "*", "/", "%", "^", "&", "|", "<", ">"]

/-- An expression. -/
def expressionOf (structs : Bool) : Grammar :=
  both (rule (.operand structs)) (many (oneOf [
    both (markOf binaryOperators) (rule (.operand structs)),
    inOrder [notAhead (mark "=>"), mark "=", rule (.operand structs)],
    both (markOf ["..=", ".."]) (operandAfter structs (rule (.operand structs))),
    both (word "as") plainType]))

end TypedQuery.Derive.Grammar
