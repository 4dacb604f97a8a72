/-
Blanks, and texts without blanks at their ends.

A blank is any white space or line separator of Unicode.  It is a wider class than `isSpace`: the
notation allows ASCII space between its tokens, but a value is trimmed of every blank.
-/
import SwatchIndex.Text.Basic

namespace SwatchIndex

/-- White space of every script, and the separators that count as such. -/
def isBlank (c : Char) : Bool :=
  let n := c.toNat
  (0x09 ≤ n && n ≤ 0x0d) || (0x1c ≤ n && n ≤ 0x20) || n == 0x85 || n == 0xa0 || n == 0x1680 ||
    (0x2000 ≤ n && n ≤ 0x200a) || n == 0x2028 || n == 0x2029 || n == 0x202f || n == 0x205f ||
    n == 0x3000

namespace Text

/-- The text without the longest tail of characters that `p` holds of. -/
def dropEndWhile (p : Char → Bool) (t : Text) : Text := (t.reverse.dropWhile p).reverse

/-- The text without blanks at either end. -/
def strip (t : Text) : Text := dropEndWhile isBlank (t.dropWhile isBlank)

end Text

end SwatchIndex
