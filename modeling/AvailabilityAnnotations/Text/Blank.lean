/-
# Blank characters

The characters with the Unicode property White_Space, and the trimming of a text
by them. The property covers more than the blanks of ASCII: a no-break space or
an ideographic space at the edge of a platform list is trimmed as well.
-/

import AvailabilityAnnotations.Text

namespace AvailabilityAnnotations

namespace Text

/-- The characters with the Unicode property White_Space. -/
def isBlank (char : Char) : Bool :=
  let code := char.toNat
  (0x09 ≤ code && code ≤ 0x0D) || code == 0x20 || code == 0x85 || code == 0xA0 ||
    code == 0x1680 || (0x2000 ≤ code && code ≤ 0x200A) || code == 0x2028 ||
    code == 0x2029 || code == 0x202F || code == 0x205F || code == 0x3000

/-- The text without the blanks at its end. -/
def trimEnd (text : Text) : Text :=
  text.dropEndWhile isBlank

/-- The text without the blanks at its two ends. -/
def trim (text : Text) : Text :=
  trimEnd (text.dropWhile isBlank)

end Text

end AvailabilityAnnotations
