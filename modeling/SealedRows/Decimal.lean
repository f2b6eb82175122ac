import SealedRows.Numeral

/-! # Decimals

Decimal numbers keep their number of places: `1.5` and `1.50` are equal and not the same. Beside the
finite ones there are two infinities and the missing numbers, of which the signaling ones refuse to
be compared.
-/
namespace SealedRows

/-- A decimal number. A missing number carries a payload, zero if it has none. -/
inductive Decimal where
  | finite (negative : Bool) (coefficient : Nat) (exponent : Int)
  | infinite (negative : Bool)
  | nan (negative signaling : Bool) (payload : Nat)
  deriving DecidableEq, Repr

namespace Decimal

/-- The greatest power of ten of the first digit of a decimal. -/
def maxPlace : Int := 999999999999999999

/-- The least power of ten of the last digit of a decimal. -/
def minPlace : Int := -1999999999999999997

def checked? (negative : Bool) (coefficient : Nat) (exponent : Int) : Option Decimal :=
  if exponent + (Text.digits coefficient).length - 1 ≤ maxPlace ∧ minPlace ≤ exponent then
    some (finite negative coefficient exponent)
  else none

def ofPlainText? (t : Text) : Option Decimal :=
  let (negative, rest) := Numeral.takeSign t
  let name := rest.map Text.lowerLatin
  let payload? (ds : Text) : Option Nat :=
    if ds.all Text.isLatinDigit then some (Numeral.natOf ds) else none
  if name = "inf" || name = "infinity" then some (infinite negative)
  else if name.take 3 = "nan" then (payload? (name.drop 3)).map (nan negative false)
  else if name.take 4 = "snan" then (payload? (name.drop 4)).map (nan negative true)
  else (Numeral.unsigned? negative rest).bind fun n => checked? n.negative n.coefficient n.exponent

/-- The decimal that a text writes, exactly. Blanks may surround it and underscores stand anywhere. -/
def ofText? (t : Text) : Option Decimal :=
  let body := (Text.trimmed CodePoint.isBlank t).filter (· ≠ ('_' : CodePoint))
  ofPlainText? (body.map CodePoint.inNumeral)

def ofInt (n : Int) : Decimal := finite (n < 0) n.natAbs 0

/-- The power of five in a power of two, to write a binary fraction with decimal digits: an odd
multiple of `2 ^ (-k)` is that multiple of `5 ^ k` divided by `10 ^ k`. -/
def withoutTwos (m : Nat) : Nat → Nat × Nat
  | 0 => (m, 0)
  | k + 1 => if m % 2 = 0 then withoutTwos (m / 2) k else (m, k + 1)

def ofDouble (x : Double) : Decimal :=
  if x.isNaN then nan false false 0
  else if x.isInfinite then infinite x.isNegative
  else
    let (m, e) := BinaryFormat.double.parts x.magnitude
    let (odd, k) := withoutTwos m (-e).toNat
    finite x.isNegative (odd * 2 ^ e.toNat * 5 ^ k) (-k)

/-- The double nearest to a decimal; a signaling missing number has none. -/
def toDouble? : Decimal → Option Double
  | finite negative c e => some (Double.ofDecimal negative c e)
  | infinite negative => some (Double.infinite negative)
  | nan negative signaling _ => if signaling then none else some (Double.nan negative)

/-- A decimal as text: written out if it has no positive power of ten and at most six zeros follow
the point, otherwise with one digit before the point and a power of ten. -/
def toText : Decimal → Text
  | finite negative c e =>
    let ds := (Text.digits c).map Text.digitPoint
    let top := e + ds.length - 1
    let sign : Text := if negative then "-" else []
    if e ≤ 0 ∧ -6 ≤ top then
      let k := (-e).toNat
      if k = 0 then sign ++ ds
      else if k < ds.length then sign ++ ds.take (ds.length - k) ++ "." ++ ds.drop (ds.length - k)
      else sign ++ "0." ++ List.replicate (k - ds.length) ('0' : CodePoint) ++ ds
    else
      let fraction : Text := if ds.length = 1 then [] else "." ++ ds.drop 1
      let mark : Text := if top < 0 then "-" else "+"
      sign ++ ds.take 1 ++ fraction ++ "E" ++ mark ++ Text.ofNat top.natAbs
  | infinite negative => if negative then "-Infinity" else "Infinity"
  | nan negative signaling payload =>
    let sign : Text := if negative then "-" else []
    let name : Text := if signaling then "sNaN" else "NaN"
    sign ++ name ++ if payload = 0 then [] else Text.ofNat payload

end Decimal
end SealedRows
