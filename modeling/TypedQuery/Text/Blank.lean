import TypedQuery.Text.CodeRange

/-!
# `isBlank`, `trim` — white space and its removal at both ends

The twenty-five characters of the Unicode property White_Space. Core's `Char.isWhitespace`
knows four of them.
-/

set_option autoImplicit false

namespace TypedQuery.Text

/-- The white-space characters, in ascending order. -/
def blankRanges : List CodeRange := [
    ⟨0x9, 0xD⟩, ⟨0x20, 0x20⟩, ⟨0x85, 0x85⟩, ⟨0xA0, 0xA0⟩, ⟨0x1680, 0x1680⟩,
    ⟨0x2000, 0x200A⟩, ⟨0x2028, 0x2029⟩, ⟨0x202F, 0x202F⟩, ⟨0x205F, 0x205F⟩,
    ⟨0x3000, 0x3000⟩
  ]

/-- White space. -/
def isBlank (c : Char) : Bool := inRanges blankRanges c

/-- The text without its leading white space. -/
def trimLeft (cs : List Char) : List Char := cs.dropWhile isBlank

/-- The text without the white space at either end. -/
def trim (cs : List Char) : List Char := (trimLeft (trimLeft cs).reverse).reverse

/-- All white space, or empty. -/
def isBlankText (cs : List Char) : Bool := cs.all isBlank

end TypedQuery.Text
