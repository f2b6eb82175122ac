import SealedRows.Text

/-! # Blanks

Four sets of blank code points. A text is empty when it holds nothing but white space of Unicode. A
numeral may be surrounded by the white space of ASCII and by all white space beyond ASCII, but not by
the four information separators. Bytes are surrounded by ASCII white space alone, and a condition
separates its words by four of those.
-/
namespace SealedRows.CodePoint

def isWideBlank (c : CodePoint) : Bool :=
  c.val == 0x85 || c.val == 0xA0 || c.val == 0x1680 || (0x2000 ≤ c.val && c.val ≤ 0x200A)
    || c.val == 0x2028 || c.val == 0x2029 || c.val == 0x202F || c.val == 0x205F || c.val == 0x3000

/-- The space and the five ASCII controls that move the place of writing. -/
def isLatinBlank (c : CodePoint) : Bool := c.val == 0x20 || (0x09 ≤ c.val && c.val ≤ 0x0D)

def isBlank (c : CodePoint) : Bool :=
  c.isLatinBlank || (0x1C ≤ c.val && c.val ≤ 0x1F) || c.isWideBlank

def isNumeralBlank (c : CodePoint) : Bool := c.isLatinBlank || c.isWideBlank

end SealedRows.CodePoint
