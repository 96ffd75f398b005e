import Trigger.Text.Ranges

/-!
# White space

The characters that separate tokens and are stripped from the ends of texts: those with the white
space property of Unicode, and the four information separators U+001C to U+001F.
-/

namespace Trigger.Text

/-- The code points of white space. -/
def spaceRanges : List (Nat × Nat) :=
  [(0x9, 0xD), (0x1C, 0x20), (0x85, 0x85), (0xA0, 0xA0), (0x1680, 0x1680), (0x2000, 0x200A),
   (0x2028, 0x2029), (0x202F, 0x202F), (0x205F, 0x205F), (0x3000, 0x3000)]

/-- Whether a character is white space. -/
def isSpace (c : Char) : Bool := inRanges spaceRanges c.toNat

/-- Whether a character is one of the six blanks of ASCII. -/
def isAsciiSpace (c : Char) : Bool := c == ' ' || (9 ≤ c.toNat && c.toNat ≤ 13)

/-- The text without the white space at its start. -/
def trimStart (s : List Char) : List Char := s.dropWhile isSpace

/-- The text without the white space at its end. -/
def trimEnd (s : List Char) : List Char := (s.reverse.dropWhile isSpace).reverse

/-- The text without the white space at both ends. -/
def trim (s : List Char) : List Char := trimEnd (trimStart s)

end Trigger.Text
