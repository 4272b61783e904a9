import TypedQuery.Derive.Token

/-!
# `SourceToken` — the tokens of source text

Source text is a sequence of words, literals and punctuation characters and of groups of these
between delimiters. Of a punctuation character it matters whether another one follows it directly:
only then can the two be one operator.
-/

set_option autoImplicit false

namespace TypedQuery.Derive

/-- A token of source text, or a group of tokens. -/
inductive SourceToken where
  | word (text : String)
  | literal (text : String)
  /-- A punctuation character; `joined` if another one follows it directly. -/
  | mark (c : Char) (joined : Bool)
  | group (delimiter : Delimiter) (content : List SourceToken)

namespace SourceToken

/-- Writes a text directly in front of some code. -/
def prepend (text : String) : List Token → List Token
  | .atom other :: rest => .atom (text ++ other) :: rest
  | tokens => .atom text :: tokens

mutual

/-- A token in front of some code, as it stands in the source. -/
def writtenBefore (code : List Token) : SourceToken → List Token
  | word text => .atom text :: code
  | literal text => .atom text :: code
  | mark c joined =>
    if joined then prepend (String.singleton c) code else .atom (String.singleton c) :: code
  | group delimiter content => .group delimiter (written content) :: code

/-- Tokens as they stand in the source: punctuation stays together that is written together. -/
def written : List SourceToken → List Token
  | [] => []
  | token :: rest => writtenBefore (written rest) token

end

/-- Past the given punctuation characters, if the tokens start with them and they are written
    together. -/
def afterMarks? : List Char → List SourceToken → Option (List SourceToken)
  | [], tokens => some tokens
  | [c], mark d _ :: rest => if c == d then some rest else none
  | c :: cs, mark d joined :: rest => if c == d && joined then afterMarks? cs rest else none
  | _ :: _, _ => none

end SourceToken

end TypedQuery.Derive
