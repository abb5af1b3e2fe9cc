import SecurityRules.Text.CodePoint

/-!
# Blanks

The code points that count as white space around a number typed into a text
box: the white space of every script, and the four separators U+001C to U+001F.
Zero-width spaces and the byte order mark are not among them.
-/

namespace SecurityRules

/-- The closed ranges of blank code points, in increasing order. -/
def blankRanges : List (Nat × Nat) :=
  [(0x09, 0x0D), (0x1C, 0x20), (0x85, 0x85), (0xA0, 0xA0), (0x1680, 0x1680),
   (0x2000, 0x200A), (0x2028, 0x2029), (0x202F, 0x202F), (0x205F, 0x205F),
   (0x3000, 0x3000)]

def CodePoint.isBlank (c : CodePoint) : Bool :=
  c.within blankRanges

/-- A text without the blanks at its end. -/
def Text.trimEnd (t : Text) : Text :=
  (t.reverse.dropWhile CodePoint.isBlank).reverse

/-- A text without the blanks at both of its ends. -/
def Text.trim (t : Text) : Text :=
  Text.trimEnd (t.dropWhile CodePoint.isBlank)

end SecurityRules
