import TypedQuery.Derive.Grammar.Items
import TypedQuery.Derive.Keyword
import TypedQuery.Derive.Source.Lexer

/-!
# `Grammar.readText?` — what a text is according to a grammar

Reading takes tokens from the front of a sequence of source tokens and gives the tokens that they
are written as. It fails where the grammar does not apply, or when the depth of the reading
exceeds a bound that is computed from the length of the text.
-/

set_option autoImplicit false

namespace TypedQuery.Derive

/-- What a rule stands for. -/
def Rule.grammar : Rule → Grammar
  | type sums => .typeOf sums
  | arguments => .argumentList
  | bound => .bound
  | parameter => .parameter
  | expression structs => .expressionOf structs
  | operand structs => .operandOf structs
  | conditional => .conditionalOf
  | body => .bodyOf
  | pattern => .patternOf
  | statement => .statementOf
  | item => .itemOf
  | imports => .importsOf

/-! ## Lists between angle brackets -/

/-- An entry of a list between angle brackets, and whether a comma follows it. -/
structure ListEntry where
  lifetime : Bool
  tokens : List Token
  comma : Bool

namespace ListEntry

/-- Entries in order, with a comma after each but the last, which keeps its own. -/
def separated : List ListEntry → List Token
  | [] => []
  | [entry] => entry.tokens ++ if entry.comma then [.atom ","] else []
  | entry :: rest => entry.tokens ++ .atom "," :: separated rest

/-- The lifetimes before all other entries. -/
def lifetimesFirst (entries : List ListEntry) : List Token :=
  separated (entries.filter (·.lifetime) ++ entries.filter fun entry => !entry.lifetime)

end ListEntry

namespace Grammar

/-- The tokens of what was read, and the source tokens that are left. -/
abbrev Result := Option (List Token × List SourceToken)

/-! ## Single tokens -/

/-- Reads a word of some kind. -/
def readWord (admits : String → Bool) : List SourceToken → Result
  | .word w :: rest => if admits w then some ([.atom w], rest) else none
  | _ => none

/-- Reads a literal, or a word for a truth value. -/
def readLiteral : List SourceToken → Result
  | .literal text :: rest => some ([.atom text], rest)
  | .word w :: rest => if w == "true" || w == "false" then some ([.atom w], rest) else none
  | _ => none

/-- The literal is a number. -/
def isNumber (text : String) : Bool := text.toList.head?.any Char.isDigit

/-- Reads a lifetime. -/
def readLifetime : List SourceToken → Result
  | .mark '\'' _ :: .word w :: rest => some ([.atom ("'" ++ w)], rest)
  | _ => none

/-- Reads numbers of fields with points between them. -/
def readPositions : List SourceToken → Result
  | .literal text :: rest =>
    let numbers := text.splitOn "."
    if numbers.all fun n => !n.isEmpty && n.all Char.isDigit then
      some (Token.joined "." (numbers.map fun n => [.atom n]), rest)
    else none
  | _ => none

/-- Reads a group of a kind without looking into it. -/
def readGroup (delimiter : Delimiter) : List SourceToken → Result
  | .group d content :: rest =>
    if d = delimiter then some ([.group d (SourceToken.written content)], rest) else none
  | _ => none

/-! ## Grammars -/

mutual

/-- Reads what a grammar describes; `fuel` bounds the depth. -/
def read : Nat → Grammar → List SourceToken → Result
  | 0, _, _ => none
  | fuel + 1, g, source =>
    match g with
    | nothing => some ([], source)
    | mark text =>
      (SourceToken.afterMarks? text.toList source).map fun rest => ([.atom text], rest)
    | word text => readWord (· == text) source
    | name => readWord (!isKeyword ·) source
    | anyWord => readWord (fun _ => true) source
    | lifetime => readLifetime source
    | literal => readLiteral source
    | number =>
      match source with
      | .literal text :: rest => if isNumber text then some ([.atom text], rest) else none
      | _ => none
    | positions => readPositions source
    | group delimiter content =>
      match source with
      | .group d inside :: rest =>
        if d = delimiter then
          match read fuel content inside with
          | some (tokens, []) => some ([.group d tokens], rest)
          | _ => none
        else none
      | _ => none
    | keptGroup delimiter => readGroup delimiter source
    | finish => if source.isEmpty then some ([], []) else none
    | both first second =>
      match read fuel first source with
      | none => none
      | some (front, rest) => (read fuel second rest).map fun (back, rest) => (front ++ back, rest)
    | either first second => (read fuel first source).orElse fun _ => read fuel second source
    | many entry =>
      match read fuel entry source with
      | none => some ([], source)
      | some (front, rest) =>
        if rest.length < source.length then
          (read fuel (many entry) rest).map fun (back, rest) => (front ++ back, rest)
        else some ([], source)
    | ahead g => (read fuel g source).map fun _ => ([], source)
    | notAhead g => if (read fuel g source).isSome then none else some ([], source)
    | silent g => (read fuel g source).map fun (_, rest) => ([], rest)
    | added text => some ([.atom text], source)
    | asWritten g =>
      (read fuel g source).map fun (_, rest) =>
        (SourceToken.written (source.take (source.length - rest.length)), rest)
    | lifetimesFirst lifetimes others =>
      (readEntries fuel lifetimes others source).map fun (entries, rest) =>
        (ListEntry.lifetimesFirst entries, rest)
    | rule r => read fuel r.grammar source

/-- Reads the entries of a list up to its closing angle bracket. -/
def readEntries : Nat → Grammar → Grammar → List SourceToken →
    Option (List ListEntry × List SourceToken)
  | 0, _, _, _ => none
  | fuel + 1, lifetimes, others, source =>
    match source with
    | .mark '>' _ :: _ => some ([], source)
    | _ =>
      let entry : Option (Bool × List Token × List SourceToken) :=
        match read fuel lifetimes source with
        | some (tokens, rest) => some (true, tokens, rest)
        | none => (read fuel others source).map (false, ·)
      match entry with
      | none => none
      | some (isLifetime, tokens, rest) =>
        match rest with
        | .mark '>' _ :: _ => some ([⟨isLifetime, tokens, false⟩], rest)
        | .mark ',' _ :: rest =>
          (readEntries fuel lifetimes others rest).map fun (entries, rest) =>
            (⟨isLifetime, tokens, true⟩ :: entries, rest)
        | _ => none

end

/-- Reads a sequence of source tokens, of which nothing may be left. -/
def readAll? (g : Grammar) (depth : Nat) (source : List SourceToken) : Option (List Token) :=
  match read depth g source with
  | some (tokens, []) => some tokens
  | _ => none

/-- The depth of reading that a text of some length may need. -/
def depthFor (length : Nat) : Nat := 256 * (length + 1)

/-- The tokens of a text that is what a grammar describes. -/
def readText? (g : Grammar) (text : String) : Option (List Token) :=
  (SourceToken.ofText text).bind (g.readAll? (depthFor text.length))

/-- The tokens of a text that should be what a grammar describes; if it is not, as they are
    written. -/
def tokensOf? (g : Grammar) (text : String) : Option (List Token) :=
  (SourceToken.ofText text).map fun source =>
    (g.readAll? (depthFor text.length) source).getD (SourceToken.written source)

end Grammar

end TypedQuery.Derive
