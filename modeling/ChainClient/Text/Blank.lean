import ChainClient.Text.Basic

/-!
# Blank code points

The code points that count as white space, and text without the blanks at its two ends.
-/

namespace ChainClient

namespace CodePoint

/-- White space of ASCII and Latin-1, the information separators, and the Unicode spaces and line
separators. The zero-width space U+200B and the byte-order mark U+FEFF are not blank. -/
def isBlank (c : CodePoint) : Bool :=
  let n := c.val
  (0x09 ≤ n && n ≤ 0x0D) || (0x1C ≤ n && n ≤ 0x20) || n == 0x85 || n == 0xA0 || n == 0x1680 ||
    (0x2000 ≤ n && n ≤ 0x200A) || n == 0x2028 || n == 0x2029 || n == 0x202F || n == 0x205F ||
    n == 0x3000

/-- Blanks that may stand around a numeral: all but the information separators. -/
def isNumeralBlank (c : CodePoint) : Bool :=
  c.isBlank && !(0x1C ≤ c.val && c.val ≤ 0x1F)

end CodePoint

namespace Text

/-- Text without the code points at its two ends that satisfy `p`. -/
def trimBy (p : CodePoint → Bool) (t : Text) : Text :=
  ((t.dropWhile p).reverse.dropWhile p).reverse

/-- Text without the blanks at its two ends. -/
def trim (t : Text) : Text :=
  t.trimBy CodePoint.isBlank

end Text

end ChainClient
