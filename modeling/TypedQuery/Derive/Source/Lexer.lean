import TypedQuery.Derive.Source.Literal
import TypedQuery.Derive.Source.Token
import TypedQuery.Text.Blank
import TypedQuery.Text.SourceLiteral

/-!
# `SourceToken.ofText` — the tokens of a text

White space and comments stand between tokens and are dropped. A comment of the documentation is
no such comment: it is an attribute that holds its text.
-/

set_option autoImplicit false

namespace TypedQuery.Derive

namespace Source

open Text

/-! ## What stands between tokens -/

/-- White space, or one of the two marks that only set the direction of writing. -/
def isSpace (c : Char) : Bool := isBlank c || c == '\u200e' || c == '\u200f'

/-- Splits off the first line; its end is left out if it is a lone line feed's carriage return. -/
def splitLine : List Char → List Char × List Char
  | [] => ([], [])
  | '\n' :: rest => ([], '\n' :: rest)
  | '\r' :: '\n' :: rest => ([], '\n' :: rest)
  | c :: rest =>
    let (line, rest) := splitLine rest
    (c :: line, rest)

/-- What follows a comment between marks, of which `depth` are open. -/
def afterComment? : Nat → List Char → Option (List Char)
  | depth, '/' :: '*' :: rest => afterComment? (depth + 1) rest
  | depth, '*' :: '/' :: rest => if depth ≤ 1 then some rest else afterComment? (depth - 1) rest
  | depth, _ :: rest => afterComment? depth rest
  | _, [] => none

/-- What follows a comment that is none of the documentation. -/
def afterPlainComment? (cs : List Char) : Option (List Char) :=
  match cs with
  | '/' :: '/' :: '/' :: '/' :: _ => some (splitLine cs).2
  | '/' :: '/' :: '/' :: _ => none
  | '/' :: '/' :: '!' :: _ => none
  | '/' :: '/' :: _ => some (splitLine cs).2
  | '/' :: '*' :: '*' :: '/' :: rest => some rest
  | '/' :: '*' :: '*' :: '*' :: _ => afterComment? 0 cs
  | '/' :: '*' :: '*' :: _ => none
  | '/' :: '*' :: '!' :: _ => none
  | '/' :: '*' :: _ => afterComment? 0 cs
  | _ => none

/-- Past white space and comments; `fuel` bounds their number. -/
def skip : Nat → List Char → List Char
  | 0, cs => cs
  | fuel + 1, cs =>
    match afterPlainComment? cs with
    | some rest => skip fuel rest
    | none =>
      match cs with
      | c :: rest => if isSpace c then skip fuel rest else cs
      | [] => []

/-- The text of a comment between marks and what follows it, given what follows the marks. -/
def commentText? (cs : List Char) : Option (List Char × List Char) :=
  (afterComment? 1 cs).map fun rest => (cs.take (cs.length - rest.length - 2), rest)

/-- A comment of the documentation: whether it stands inside what it describes, its text, and
    what follows it. -/
def documentation? (cs : List Char) : Option (Bool × List Char × List Char) :=
  match cs with
  | '/' :: '/' :: '!' :: rest => some (true, splitLine rest)
  | '/' :: '*' :: '!' :: rest => (commentText? rest).map (true, ·)
  | '/' :: '/' :: '/' :: '/' :: _ => none
  | '/' :: '/' :: '/' :: rest => some (false, splitLine rest)
  | '/' :: '*' :: '*' :: '*' :: _ => none
  | '/' :: '*' :: '*' :: rest => (commentText? rest).map (false, ·)
  | _ => none

/-- The attribute that a comment of the documentation is. -/
def documentationTokens (inner : Bool) (text : List Char) : List SourceToken :=
  .mark '#' false :: (if inner then [.mark '!' false] else []) ++
    [.group .bracket
      [.word "doc", .mark '=' false, .literal (String.ofList (generatedQuoted text))]]

/-! ## Single tokens -/

/-- The characters of punctuation. -/
def isMarkChar (c : Char) : Bool := "~!@#$%^&*-=+|;:,<.>/?'".toList.contains c

/-- The text starts with a punctuation character, and not with a comment. -/
def startsWithMark : List Char → Bool
  | '/' :: '/' :: _ => false
  | '/' :: '*' :: _ => false
  | c :: _ => isMarkChar c
  | [] => false

/-- The words that cannot be marked as raw. -/
def isUnmarkable (word : List Char) : Bool :=
  ["_", "super", "self", "Self", "crate"].contains (String.ofList word)

/-- What follows a word that may be marked as raw. -/
def afterMarkedWord? : List Char → Option (List Char)
  | 'r' :: '#' :: rest =>
    (afterWord? rest).bind fun after =>
      if isUnmarkable (rest.take (rest.length - after.length)) then none else some after
  | cs => afterWord? cs

/-- The apostrophe in front of the text opens a lifetime. -/
def isLifetimeName (cs : List Char) : Bool :=
  match afterMarkedWord? cs with
  | none => false
  | some after =>
    match after with
    | '\'' :: _ => false
    | '#' :: _ => ['r', '#'].isPrefixOf cs
    | _ => true

/-- The starts of literals that are not those of words, even where the literal is malformed. -/
def literalStarts : List String :=
  ["r\"", "r#\"", "r##", "b\"", "b'", "br\"", "br#", "c\"", "cr\"", "cr#"]

/-- The token at the start of a text that opens or closes no group, and what follows it. -/
def token? (cs : List Char) : Option (SourceToken × List Char) :=
  match afterLiteral? cs with
  | some rest => some (.literal (String.ofList (cs.take (cs.length - rest.length))), rest)
  | none =>
    match cs with
    | [] => none
    | c :: rest =>
      if startsWithMark cs then
        if c == '\'' then if isLifetimeName rest then some (.mark c true, rest) else none
        else some (.mark c (startsWithMark rest), rest)
      else if literalStarts.any (fun start => start.toList.isPrefixOf cs) then none
      else (afterMarkedWord? cs).map fun after =>
        (.word (String.ofList (cs.take (cs.length - after.length))), after)

/-! ## Groups -/

/-- The delimiter that a character opens. -/
def opening? (c : Char) : Option Delimiter :=
  if c == '(' then some .parenthesis
  else if c == '[' then some .bracket
  else if c == '\x7b' then some .brace
  else none

/-- The delimiter that a character closes. -/
def closing? (c : Char) : Option Delimiter :=
  if c == ')' then some .parenthesis
  else if c == ']' then some .bracket
  else if c == '\x7d' then some .brace
  else none

/-- A group that is being read: its delimiter, none for the text itself, and the tokens read so
    far, the last one first. -/
structure Frame where
  delimiter : Option Delimiter
  reversed : List SourceToken

/-- The frame with some more tokens. -/
def Frame.push (f : Frame) (tokens : List SourceToken) : Frame :=
  { f with reversed := tokens.reverse ++ f.reversed }

/-- Reads a text of at most `fuel` tokens. `outer` holds the groups around the frame, the
    innermost first. -/
def readTokens (frame : Frame) (outer : List Frame) (cs : List Char) :
    Nat → Option (List SourceToken)
  | 0 => none
  | fuel + 1 =>
    let cs := skip cs.length cs
    match documentation? cs with
    | some (inner, text, rest) =>
      readTokens (frame.push (documentationTokens inner text)) outer rest fuel
    | none =>
      match cs with
      | [] =>
        match frame.delimiter, outer with
        | none, [] => some frame.reversed.reverse
        | _, _ => none
      | c :: rest =>
        match opening? c, closing? c with
        | some d, _ => readTokens ⟨some d, []⟩ (frame :: outer) rest fuel
        | none, some d =>
          match outer with
          | [] => none
          | around :: outer =>
            if frame.delimiter == some d then
              readTokens (around.push [.group d frame.reversed.reverse]) outer rest fuel
            else none
        | none, none =>
          match token? cs with
          | none => none
          | some (token, rest) => readTokens (frame.push [token]) outer rest fuel

/-- A text without the mark of its encoding, which may stand at its start. -/
def withoutByteOrderMark : List Char → List Char
  | '\ufeff' :: rest => rest
  | cs => cs

end Source

/-- The tokens of a text, if it consists of tokens. -/
def SourceToken.ofText (text : String) : Option (List SourceToken) :=
  let cs := Source.withoutByteOrderMark text.toList
  Source.readTokens ⟨none, []⟩ [] cs (cs.length + 1)

end TypedQuery.Derive
