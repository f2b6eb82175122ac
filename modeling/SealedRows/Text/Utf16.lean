import SealedRows.Bytes

/-! # Sixteen-bit units

A text as a sequence of little-endian sixteen-bit units. A code point beyond U+FFFF becomes a high
and a low surrogate; a lone surrogate is written as the unit it is. Read back, a high surrogate
followed by a low one is one code point and every other unit stands for itself, so only an odd number
of bytes can't be read.
-/
namespace SealedRows.Text

def units (c : CodePoint) : List Nat :=
  if c.val < 0x10000 then [c.val]
  else [0xD800 + (c.val - 0x10000) / 0x400, 0xDC00 + (c.val - 0x10000) % 0x400]

def toUtf16 (t : Text) : Bytes := t.flatMap fun c => (units c).flatMap (Bytes.ofNat 2)

def unitsOf? : Bytes → Option (List Nat)
  | [] => some []
  | [_] => none
  | lo :: hi :: rest => (unitsOf? rest).map (Bytes.toNat [lo, hi] :: ·)

def ofUnits : List Nat → Text
  | [] => []
  | [u] => [CodePoint.ofNat u]
  | u :: v :: rest =>
    if 0xD800 ≤ u ∧ u < 0xDC00 ∧ 0xDC00 ≤ v ∧ v < 0xE000 then
      CodePoint.ofNat (0x10000 + (u - 0xD800) * 0x400 + (v - 0xDC00)) :: ofUnits rest
    else CodePoint.ofNat u :: ofUnits (v :: rest)

def ofUtf16? (bs : Bytes) : Option Text := (unitsOf? bs).map ofUnits

end SealedRows.Text
