import SealedRows.Double

/-! # The shortest decimal form

A double is written with the fewest digits that read back as the same double, and with the nearest
number of those. The numbers that read back as a double form an interval around it, closed if its
last bit is zero; a grid of decimal numbers meets the interval exactly if one of the two grid points
next to the double lies in it.
-/
namespace SealedRows.Double

/-- A positive rational with the interval of rationals around it that round to it, all as multiples
of one fourth of the last place. -/
structure Neighbourhood where
  value : Nat
  lower : Nat
  upper : Nat
  closed : Bool
  exponent : Int

/-- The neighbourhood of a finite magnitude. Below a power of two the doubles lie twice as near. -/
def neighbourhood (magnitude : Nat) : Neighbourhood :=
  let (m, e) := BinaryFormat.double.parts magnitude
  let belowIsNearer := m = 2 ^ (52 : Nat) ∧ BinaryFormat.double.minExponent < e
  ⟨4 * m, 4 * m - (if belowIsNearer then 1 else 2), 4 * m + 2, m % 2 = 0, e - 2⟩

/-- The largest `k` with `10 ^ k ≤ num / den`, for positive arguments. -/
def floorLog10 (num den : Nat) : Int :=
  if den ≤ num then ((Text.digits (num / den)).length : Int) - 1
  else -((Text.digits ((den + num - 1) / num - 1)).length : Int)

/-- The multiple of `10 ^ place` next to the number that lies in its neighbourhood: of two the
nearer, of two equally near the even one. -/
def Neighbourhood.onGrid? (h : Neighbourhood) (place : Int) : Option Nat :=
  -- Both sides are multiplied out, so that only integers are compared.
  let scale := 2 ^ h.exponent.toNat * 10 ^ (-place).toNat
  let unit := 2 ^ (-h.exponent).toNat * 10 ^ place.toNat
  let below := h.value * scale / unit
  let inside (d : Nat) : Bool :=
    if h.closed then h.lower * scale ≤ d * unit && d * unit ≤ h.upper * scale
    else h.lower * scale < d * unit && d * unit < h.upper * scale
  let down := h.value * scale - below * unit
  let up := (below + 1) * unit - h.value * scale
  if inside below && (!inside (below + 1) || down < up || (down = up && below % 2 = 0)) then some below
  else if inside (below + 1) then some (below + 1)
  else none

/-- The first of the grids from the given place downwards that meets the neighbourhood, with the
number found on it. -/
def Neighbourhood.firstGrid (h : Neighbourhood) : Nat → Int → Nat × Int
  | 0, place => (h.value, place)
  | fuel + 1, place =>
    match h.onGrid? place with
    | some d => (d, place)
    | none => h.firstGrid fuel (place - 1)

def withoutLastZeros (d : Nat) (place : Int) : Nat × Int :=
  if d = 0 then (0, place)
  else if d % 10 = 0 then withoutLastZeros (d / 10) (place + 1) else (d, place)
termination_by d
decreasing_by omega

/-- The shortest decimal number that reads back as a positive magnitude, as an integer and a power of
ten. Seventeen digits always suffice. -/
def shortest (magnitude : Nat) : Nat × Int :=
  let h := neighbourhood magnitude
  let top := floorLog10 (h.value * 2 ^ h.exponent.toNat) (2 ^ (-h.exponent).toNat)
  let (d, place) := h.firstGrid 18 top
  withoutLastZeros d place

/-- A decimal number: written out if its first digit stands in one of the sixteen places before the
point or the four after it, otherwise as a number below ten with a power of ten of two or more
digits. -/
def positional (d : Nat) (place : Int) : Text :=
  let ds := (Text.digits d).map Text.digitPoint
  let top := (ds.length : Int) - 1 + place
  if -4 ≤ top ∧ top < 16 then
    if 0 ≤ place then ds ++ List.replicate place.toNat ('0' : CodePoint) ++ ".0"
    else if 0 ≤ top then ds.take (top + 1).toNat ++ "." ++ ds.drop (top + 1).toNat
    else "0." ++ List.replicate (-top - 1).toNat ('0' : CodePoint) ++ ds
  else
    let fraction : Text := if ds.length = 1 then [] else "." ++ ds.drop 1
    let sign : Text := if top < 0 then "-" else "+"
    let digits := Text.ofNat top.natAbs
    ds.take 1 ++ fraction ++ "e" ++ sign ++ (if digits.length < 2 then "0" ++ digits else digits)

def toText (x : Double) : Text :=
  if x.isNaN then "nan"
  else
    let body : Text :=
      if x.isInfinite then "inf"
      else if x.isZero then "0.0"
      else
        let (d, place) := shortest x.magnitude
        positional d place
    if x.isNegative then "-" ++ body else body

end SealedRows.Double
