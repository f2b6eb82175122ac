import SealedRows.Bytes

/-! # Doubles

Binary floating-point numbers as bit patterns, with every operation done exactly on natural numbers
and rounded once. A pattern without its sign is a magnitude: patterns of larger numbers are larger,
and the pattern of infinity follows that of the largest number, so a rounded number whose pattern
reaches the pattern of infinity does not fit.
-/
namespace SealedRows

/-- The nearest integer to a quotient; a half goes to the even neighbour. -/
def roundedQuotient (num den : Nat) : Nat :=
  let q := num / den
  let r := num % den
  if 2 * r < den then q else if den < 2 * r then q + 1 else q + q % 2

/-- The largest `k` with `2 ^ k ≤ num / den`, for positive arguments. -/
def floorLog2 (num den : Nat) : Int :=
  let k : Int := (Nat.log2 num : Int) - Nat.log2 den
  if num * 2 ^ (-k).toNat < den * 2 ^ k.toNat then k - 1 else k

/-- A binary format: a sign, some bits of exponent, some bits of fraction. -/
structure BinaryFormat where
  exponentBits : Nat
  fractionBits : Nat

namespace BinaryFormat

def double : BinaryFormat := ⟨11, 52⟩

def single : BinaryFormat := ⟨8, 23⟩

variable (f : BinaryFormat)

/-- The weight of the last bit of the smallest numbers, as a power of two. -/
def minExponent : Int := 2 - (2 : Int) ^ (f.exponentBits - 1) - f.fractionBits

def infinity : Nat := (2 ^ f.exponentBits - 1) * 2 ^ f.fractionBits

def signBit : Nat := 2 ^ (f.exponentBits + f.fractionBits)

/-- The magnitude nearest to a quotient; a half goes to the even neighbour. -/
def rounded (num den : Nat) : Nat :=
  if num = 0 then 0
  else
    let e := max f.minExponent (floorLog2 num den - f.fractionBits)
    let m := roundedQuotient (num * 2 ^ (-e).toNat) (den * 2 ^ e.toNat)
    (e - f.minExponent).toNat * 2 ^ f.fractionBits + m

/-- A finite magnitude as an integer and the power of two that it counts. -/
def parts (magnitude : Nat) : Nat × Int :=
  let e := magnitude / 2 ^ f.fractionBits
  let m := magnitude % 2 ^ f.fractionBits
  if e = 0 then (m, f.minExponent) else (2 ^ f.fractionBits + m, f.minExponent + (e - 1))

end BinaryFormat

structure Double where
  bits : UInt64
  deriving DecidableEq, Repr

namespace Double
open BinaryFormat

def isNegative (x : Double) : Bool := double.signBit ≤ x.bits.toNat

def magnitude (x : Double) : Nat := x.bits.toNat % double.signBit

def ofMagnitude (negative : Bool) (magnitude : Nat) : Double :=
  ⟨UInt64.ofNat ((if negative then double.signBit else 0) + magnitude)⟩

def isNaN (x : Double) : Bool := double.infinity < x.magnitude

def isInfinite (x : Double) : Bool := x.magnitude = double.infinity

def isFinite (x : Double) : Bool := x.magnitude < double.infinity

def isZero (x : Double) : Bool := x.magnitude = 0

def infinite (negative : Bool) : Double := ofMagnitude negative double.infinity

def nan (negative : Bool) : Double := ofMagnitude negative (double.infinity + 2 ^ (51 : Nat))

def neg (x : Double) : Double := ofMagnitude (!x.isNegative) x.magnitude

def ratio? (x : Double) : Option (Int × Nat) :=
  if x.isFinite then
    let (m, e) := double.parts x.magnitude
    let n : Int := m * 2 ^ e.toNat
    some (if x.isNegative then -n else n, 2 ^ (-e).toNat)
  else none

def ofRatio (negative : Bool) (num den : Nat) : Double :=
  ofMagnitude negative (min (double.rounded num den) double.infinity)

def ofInt? (n : Int) : Option Double :=
  let x := ofRatio (n < 0) n.natAbs 1
  if x.isFinite then some x else none

/-- The integer between a finite double and zero that is next to the double. -/
def truncated? (x : Double) : Option Int := x.ratio?.map fun (n, d) => n.tdiv d

/-- The double nearest to a decimal number, infinite if none is near. Far outside the range of
doubles the power of ten is not computed. -/
def ofDecimal (negative : Bool) (coefficient : Nat) (exponent : Int) : Double :=
  if coefficient = 0 then ofMagnitude negative 0
  else
    let place := exponent + (Text.digits coefficient).length
    if 400 < place then infinite negative
    else if place < -400 then ofMagnitude negative 0
    else ofRatio negative (coefficient * 10 ^ exponent.toNat) (10 ^ (-exponent).toNat)

/-- The four-byte pattern nearest to a double, unless a finite double would become infinite. A
pattern without a number keeps its upper bits and becomes quiet. -/
def toSingle? (x : Double) : Option Nat :=
  let sign := if x.isNegative then single.signBit else 0
  if x.isNaN then
    let payload := (x.magnitude - double.infinity) / 2 ^ (29 : Nat)
    some (sign + single.infinity + (payload % 2 ^ (22 : Nat) + 2 ^ (22 : Nat)))
  else if x.isInfinite then some (sign + single.infinity)
  else
    let (m, e) := double.parts x.magnitude
    let r := single.rounded (m * 2 ^ e.toNat) (2 ^ (-e).toNat)
    if r < single.infinity then some (sign + r) else none

def ofSingle (pattern : Nat) : Double :=
  let negative := decide (single.signBit ≤ pattern % (2 * single.signBit))
  let magnitude := pattern % single.signBit
  if magnitude = single.infinity then infinite negative
  else if single.infinity < magnitude then
    let payload := (magnitude - single.infinity) % 2 ^ (22 : Nat)
    ofMagnitude negative (double.infinity + 2 ^ (51 : Nat) + payload * 2 ^ (29 : Nat))
  else
    let (m, e) := single.parts magnitude
    ofRatio negative (m * 2 ^ e.toNat) (2 ^ (-e).toNat)

def toBytes (x : Double) : Bytes := Bytes.ofNat 8 x.bits.toNat

def ofBytes (bs : Bytes) : Double := ⟨UInt64.ofNat (Bytes.toNat bs)⟩

end Double
end SealedRows
