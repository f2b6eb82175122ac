import SealedRows.Double
import SealedRows.Text.Digit

/-! # Numerals

How a text is read as a number. Three readers share the digits of all scripts and differ in what may
surround a numeral and in where an underscore may stand: between two digits for integers and doubles,
anywhere for decimals.
-/
namespace SealedRows

namespace CodePoint

/-- The form of a code point in numerals: digits of any script become those of ASCII and blanks
beyond ASCII become spaces. -/
def inNumeral (c : CodePoint) : CodePoint :=
  if c.val < 0x7F then c
  else if c.isWideBlank then ' '
  else
    match c.digit? with
    | some d => Text.digitPoint d
    | none => c

end CodePoint

structure Numeral where
  negative : Bool
  coefficient : Nat
  exponent : Int

namespace Numeral

def natOf (ds : Text) : Nat := ds.foldl (fun n c => 10 * n + (c.val - 48)) 0

/-- Without its underscores, a numeral in which each stands between two digits. -/
def ungrouped? : Option CodePoint → Text → Option Text
  | _, [] => some []
  | before, c :: rest =>
    if c = '_' then
      if (before.any Text.isLatinDigit) && (rest.head?.any Text.isLatinDigit) then
        ungrouped? (some c) rest
      else none
    else (ungrouped? (some c) rest).map (c :: ·)

def takeSign : Text → Bool × Text
  | [] => (false, [])
  | c :: rest => if c = '-' then (true, rest) else if c = '+' then (false, rest) else (false, c :: rest)

def exponent? : Text → Option Int
  | [] => some 0
  | c :: rest =>
    if c = 'e' || c = 'E' then
      let (negative, ds) := takeSign rest
      if !ds.isEmpty && ds.all Text.isLatinDigit then
        some (if negative then -(natOf ds : Int) else natOf ds)
      else none
    else none

/-- An unsigned decimal numeral: digits with an optional point among them, then an optional power of
ten. -/
def unsigned? (negative : Bool) (t : Text) : Option Numeral :=
  let whole := t.takeWhile Text.isLatinDigit
  let rest := t.dropWhile Text.isLatinDigit
  let (fraction, tail) :=
    if rest.head? = some ('.' : CodePoint) then
      ((rest.drop 1).takeWhile Text.isLatinDigit, (rest.drop 1).dropWhile Text.isLatinDigit)
    else ([], rest)
  if whole.isEmpty && fraction.isEmpty then none
  else (exponent? tail).map fun e => ⟨negative, natOf (whole ++ fraction), e - fraction.length⟩

def ofText? (t : Text) : Option Numeral :=
  let (negative, rest) := takeSign t
  unsigned? negative rest

def maxIntegerDigits : Nat := 4300

end Numeral

/-- The integer that a sign and decimal digits write. Numerals that are too long are not read. -/
def intOfBody? (body : Text) : Option Int :=
  let (negative, rest) := Numeral.takeSign body
  match Numeral.ungrouped? none rest with
  | none => none
  | some ds =>
    if ds.isEmpty || !ds.all Text.isLatinDigit || Numeral.maxIntegerDigits < ds.length then none
    else some (if negative then -(Numeral.natOf ds : Int) else Numeral.natOf ds)

/-- The double that a decimal numeral writes, or a name of infinity or of the missing number in any
case. -/
def Double.ofBody? (body : Text) : Option Double :=
  let (negative, rest) := Numeral.takeSign body
  let name := rest.map Text.lowerLatin
  if name = "inf" || name = "infinity" then some (infinite negative)
  else if name = "nan" then some (nan negative)
  else do
    let plain ← Numeral.ungrouped? none body
    let n ← Numeral.ofText? plain
    some (ofDecimal n.negative n.coefficient n.exponent)

/-- What a text writes between its blanks, with the digits and blanks of numerals. -/
def numeralBody (t : Text) : Text := Text.trimmed CodePoint.isLatinBlank (t.map CodePoint.inNumeral)

def intOfText? (t : Text) : Option Int := intOfBody? (numeralBody t)

def Double.ofText? (t : Text) : Option Double := Double.ofBody? (numeralBody t)

end SealedRows
