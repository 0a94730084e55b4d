import StyleTypings.Text.Basic

/-!
# Blank characters

The characters that count as blank space when text is trimmed: the ASCII blanks, the four
information separators, the next-line control and the space separators of Unicode. Characters
of zero width are not blank.
-/

namespace StyleTypings

/-- Whether a character is blank space. -/
def isBlank (c : CodePoint) : Bool :=
  let n := c.toNat
  (0x09 ≤ n && n ≤ 0x0D) || (0x1C ≤ n && n ≤ 0x20) || n == 0x85 || n == 0xA0 || n == 0x1680 ||
  (0x2000 ≤ n && n ≤ 0x200A) || n == 0x2028 || n == 0x2029 || n == 0x202F || n == 0x205F ||
  n == 0x3000

namespace Text

/-- The text without the blanks at its beginning. -/
def stripLeft (text : Text) : Text := text.dropWhile isBlank

/-- The text without the blanks at both ends. -/
def strip (text : Text) : Text := (stripLeft (stripLeft text).reverse).reverse

/-- Whether the text holds nothing but blanks. -/
def allBlank (text : Text) : Bool := text.all isBlank

end Text

end StyleTypings
