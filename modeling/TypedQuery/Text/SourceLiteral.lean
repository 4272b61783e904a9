import TypedQuery.Text.Printable

/-!
# `sourceQuoted` — text between double quotes, as in source code

Unlike the quoted form of JSON, this one also escapes every character that would not show by
itself: with a letter where there is one, else with its code in hexadecimal between braces.
-/

set_option autoImplicit false

namespace TypedQuery.Text

/-- The code of a character in hexadecimal between braces. -/
def codeEscape (c : Char) : List Char :=
  ['\\', 'u', '\x7b'] ++ Nat.toDigits 16 c.toNat ++ ['\x7d']

/-- One character of a text in source code. -/
def sourceEscaped (c : Char) : List Char :=
  if c == '\x00' then ['\\', '0']
  else if c == '\t' then ['\\', 't']
  else if c == '\r' then ['\\', 'r']
  else if c == '\n' then ['\\', 'n']
  else if c == '\\' then ['\\', '\\']
  else if c == '"' then ['\\', '"']
  else if extendsGrapheme c || !isPrintable c then codeEscape c
  else [c]

/-- A text between double quotes. -/
def sourceQuoted (cs : List Char) : List Char := '"' :: cs.flatMap sourceEscaped ++ ['"']

/-- The characters of a text of generated code. A NUL in front of an octal digit is written with
    two hexadecimal digits, so that it cannot be read as an octal escape. -/
def generatedEscaped : List Char → List Char
  | [] => []
  | c :: rest =>
    (if c == '\x00' && rest.head?.any (fun d => '0' ≤ d && d ≤ '7') then ['\\', 'x', '0', '0']
      else sourceEscaped c) ++ generatedEscaped rest

/-- A text of generated code between double quotes. -/
def generatedQuoted (cs : List Char) : List Char := '"' :: generatedEscaped cs ++ ['"']

end TypedQuery.Text
