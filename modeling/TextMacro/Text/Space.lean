import TextMacro.Text.Basic

/-!
# White space

The white space characters of Unicode, with the four separators U+001C to U+001F, and what is left
of a text without those at its ends. The blanks of a block body are a smaller class.
-/

namespace TextMacro.Text

/-- Whether a character is white space. -/
def isSpace (c : Char) : Bool :=
  let n := c.toNat
  (0x09 ≤ n && n ≤ 0x0d) || (0x1c ≤ n && n ≤ 0x20) || n == 0x85 || n == 0xa0 || n == 0x1680 ||
    (0x2000 ≤ n && n ≤ 0x200a) || n == 0x2028 || n == 0x2029 || n == 0x202f || n == 0x205f ||
    n == 0x3000

/-- The text without the white space at its start. -/
def trimStart (text : Text) : Text :=
  text.dropWhile isSpace

/-- The text without the white space at its ends. -/
def trim (text : Text) : Text :=
  (trimStart (trimStart text).reverse).reverse

end TextMacro.Text
