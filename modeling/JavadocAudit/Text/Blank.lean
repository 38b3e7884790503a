import JavadocAudit.Text.CharRange

/-!
# Blanks

The characters that count as white space in Unicode 14: separators, and the control characters that
separate lines, paragraphs or fields.
-/

namespace JavadocAudit.Text

/-- The blanks, as ascending ranges of code points. -/
def blankRanges : List (Nat × Nat) :=
  [(0x9, 0xD), (0x1C, 0x20), (0x85, 0x85), (0xA0, 0xA0), (0x1680, 0x1680), (0x2000, 0x200A),
   (0x2028, 0x2029), (0x202F, 0x202F), (0x205F, 0x205F), (0x3000, 0x3000)]

/-- `c` is white space. -/
def isBlank (c : Char) : Bool := inRanges blankRanges c.toNat

end JavadocAudit.Text
