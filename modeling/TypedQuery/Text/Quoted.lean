/-!
# `quoted` — text between double quotes, with escapes

The quoted form of JSON: the quote, the reverse solidus and the control characters are escaped,
everything else stands for itself.
-/

set_option autoImplicit false

namespace TypedQuery.Text

/-- The letter after the reverse solidus, for the characters that have a short escape. -/
def escapeLetter? (c : Char) : Option Char :=
  if c == '"' then some '"'
  else if c == '\\' then some '\\'
  else if c == '\x08' then some 'b'
  else if c == '\t' then some 't'
  else if c == '\n' then some 'n'
  else if c == '\x0c' then some 'f'
  else if c == '\r' then some 'r'
  else none

/-- One character inside quotes. A control character without a short escape is written with its
    code in four hexadecimal digits. -/
def escaped (c : Char) : List Char :=
  match escapeLetter? c with
  | some letter => ['\\', letter]
  | none =>
    if c.toNat < 0x20 then
      ['\\', 'u', '0', '0', Nat.digitChar (c.toNat / 16), Nat.digitChar (c.toNat % 16)]
    else [c]

/-- A text between double quotes. -/
def quoted (cs : List Char) : List Char := '"' :: cs.flatMap escaped ++ ['"']

end TypedQuery.Text
