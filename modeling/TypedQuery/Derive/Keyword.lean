/-!
# `isKeyword` — the words that are no identifiers

Where an identifier is needed a keyword ends the reading. A word that is marked as raw is no
keyword, whatever follows its mark.
-/

set_option autoImplicit false

namespace TypedQuery.Derive

/-- The words that are no identifiers. -/
def keywords : List String :=
  ["_", "abstract", "as", "async", "await", "become", "box", "break", "const", "continue", "crate",
    "do", "dyn", "else", "enum", "extern", "false", "final", "fn", "for", "if", "impl", "in", "let",
    "loop", "macro", "match", "mod", "move", "mut", "override", "priv", "pub", "ref", "return",
    "Self", "self", "static", "struct", "super", "trait", "true", "try", "type", "typeof", "unsafe",
    "unsized", "use", "virtual", "where", "while", "yield"]

/-- The word is a keyword. -/
def isKeyword (word : String) : Bool := keywords.contains word

end TypedQuery.Derive
