import SealedRows.Text.Blank

/-! # Bytes

Byte strings as lists, and the little-endian layout of numbers: the byte of lowest weight comes
first.
-/
namespace SealedRows

abbrev Bytes := List UInt8

namespace Bytes

def ofNat : Nat → Nat → Bytes
  | 0, _ => []
  | width + 1, n => UInt8.ofNat n :: ofNat width (n / 256)

def toNat : Bytes → Nat
  | [] => 0
  | b :: rest => b.toNat + 256 * toNat rest

@[simp] theorem length_ofNat (width n : Nat) : (ofNat width n).length = width := by
  induction width generalizing n with
  | zero => rfl
  | succ width ih => simp [ofNat, ih]

theorem toNat_ofNat (width n : Nat) : toNat (ofNat width n) = n % 256 ^ width := by
  induction width generalizing n with
  | zero => simp [ofNat, toNat, Nat.mod_one]
  | succ width ih =>
    rw [ofNat, toNat, ih, Nat.pow_succ, Nat.mul_comm (256 ^ width) 256, Nat.mod_mul]
    simp

theorem toNat_lt (bs : Bytes) : toNat bs < 256 ^ bs.length := by
  induction bs with
  | nil => simp [toNat]
  | cons b rest ih =>
    have hb := b.toNat_lt
    simp only [toNat, List.length_cons, Nat.pow_succ]
    omega

/-- A byte string is the layout of the number that it holds. -/
theorem ofNat_toNat (bs : Bytes) : ofNat bs.length (toNat bs) = bs := by
  induction bs with
  | nil => rfl
  | cons b rest ih =>
    have hb := b.toNat_lt
    have hrest : (b.toNat + 256 * toNat rest) / 256 = toNat rest := by omega
    have hbyte : UInt8.ofNat (b.toNat + 256 * toNat rest) = b := by
      refine UInt8.toNat_inj.mp ?_
      rw [UInt8.toNat_ofNat']
      omega
    rw [List.length_cons, toNat, ofNat, hrest, hbyte, ih]

def hex (bs : Bytes) : Text := bs.flatMap fun b => Text.hex 2 b.toNat

def upperHex (bs : Bytes) : Text := (hex bs).map Text.upperLatin

/-- The bytes written in hexadecimal digits of either case, with ASCII blanks between bytes. -/
def ofHex? : Text → Option Bytes
  | [] => some []
  | [c] => if c.isLatinBlank then some [] else none
  | c :: d :: rest =>
    if c.isLatinBlank then ofHex? (d :: rest)
    else
      match Text.hexValue? c, Text.hexValue? d with
      | some hi, some lo => (ofHex? rest).map (UInt8.ofNat (16 * hi + lo) :: ·)
      | _, _ => none

end Bytes
end SealedRows
