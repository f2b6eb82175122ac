import SealedRows.Value.Fault
import SealedRows.Numeral

/-! # Conversions

How a value is read as a truth value, a number or a byte string when a column asks for one. The
conversions are generous: texts and ASCII bytes are read as numerals, and numbers of one type as
numbers of another.
-/
namespace SealedRows.Value

/-- Whether a value is true: it is neither empty nor zero. Conditions and columns refuse to answer. -/
def truth : Value → Except ValueFault Bool
  | none => .ok false
  | bool b => .ok b
  | int n => .ok (n ≠ 0)
  | float x => .ok (!x.isZero)
  | text t => .ok (!t.isEmpty)
  | bytes bs | buffer bs => .ok (!bs.isEmpty)
  | decimal (.finite _ c _) => .ok (c ≠ 0)
  | decimal _ | moment _ | object .. => .ok true
  | list vs | tuple vs => .ok (!vs.isEmpty)
  | condition _ => .error .conditionTruth
  | column _ => .error .columnTruth

def latin (bs : Bytes) : Text := bs.map fun b => CodePoint.ofNat b.toNat

def orElse {α : Type} (b : Breakdown) : Option α → Except Breakdown α
  | some a => .ok a
  | Option.none => .error b

def toInt : Value → Except Breakdown Int
  | bool b => .ok (if b then 1 else 0)
  | int n => .ok n
  | float x => if x.isNaN then .error .wrongValue else orElse .overflow x.truncated?
  | text t => orElse .wrongValue (intOfText? t)
  | bytes bs | buffer bs => orElse .wrongValue (intOfBody? (Text.trimmed CodePoint.isLatinBlank (latin bs)))
  | decimal (.finite negative c e) =>
    let n : Int := (c * 10 ^ e.toNat / 10 ^ (-e).toNat : Nat)
    .ok (if negative then -n else n)
  | decimal (.infinite _) => .error .overflow
  | decimal (.nan ..) => .error .wrongValue
  | _ => .error .wrongType

def numberToDouble : Value → Except Breakdown Double
  | bool b => .ok (Double.ofRatio false (if b then 1 else 0) 1)
  | int n => orElse .overflow (Double.ofInt? n)
  | float x => .ok x
  | decimal d => orElse .wrongValue d.toDouble?
  | _ => .error .wrongType

def toDouble : Value → Except Breakdown Double
  | text t => orElse .wrongValue (Double.ofText? t)
  | bytes bs | buffer bs =>
    orElse .wrongValue (Double.ofBody? (Text.trimmed CodePoint.isLatinBlank (latin bs)))
  | v => v.numberToDouble

/-- An integer as a value holds it; truth values are integers too. -/
def integer? : Value → Option Int
  | bool b => some (if b then 1 else 0)
  | int n => some n
  | _ => Option.none

def bytesOf : List Value → Except Breakdown Bytes
  | [] => .ok []
  | v :: vs =>
    match v.integer? with
    | Option.none => .error .wrongType
    | some n => if 0 ≤ n ∧ n < 256 then (bytesOf vs).map (UInt8.ofNat n.toNat :: ·) else .error .wrongValue

/-- Whether an integer has the 64 bits with a sign that counts and the parts of decimals may have. -/
def isWord (n : Int) : Bool := -2 ^ (63 : Nat) ≤ n && n < 2 ^ (63 : Nat)

/-- A value as a byte string: a list is read as the numbers of bytes, and an integer as the count of
zero bytes. -/
def toBytes : Value → Except Breakdown Bytes
  | bytes bs | buffer bs => .ok bs
  | list vs | tuple vs => bytesOf vs
  | v =>
    match v.integer? with
    | Option.none => .error .wrongType
    | some n =>
      if !isWord n then .error .overflow
      else if n < 0 then .error .wrongValue
      else .ok (List.replicate n.toNat 0)

def digitsOf : List Value → Except Breakdown (List Nat)
  | [] => .ok []
  | v :: vs =>
    match v.integer? with
    | Option.none => .error .wrongValue
    | some n =>
      if !isWord n then .error .overflow
      else if 0 ≤ n ∧ n ≤ 9 then (digitsOf vs).map (n.toNat :: ·)
      else .error .wrongValue

def signOf (v : Value) : Except Breakdown Bool :=
  match v.integer? with
  | Option.none => .error .wrongValue
  | some n =>
    if !isWord n then .error .overflow
    else if n = 0 then .ok false
    else if n = 1 then .ok true
    else .error .wrongValue

def placeOf : Value → Except Breakdown (Text ⊕ Int)
  | text t => if t = "F" || t = "n" || t = "N" then .ok (.inl t) else .error .wrongValue
  | v =>
    match v.integer? with
    | Option.none => .error .wrongValue
    | some n => if isWord n then .ok (.inr n) else .error .overflow

def coefficientOf : Value → Except Breakdown Nat
  | list vs | tuple vs => (digitsOf vs).map fun ds => ds.foldl (fun n d => 10 * n + d) 0
  | _ => .error .wrongValue

def decimalOfParts (sign digits exponent : Value) : Except Breakdown Decimal := do
  let negative ← signOf sign
  let place ← placeOf exponent
  let c ← coefficientOf digits
  match place with
  | .inl t => if t = "F" then return .infinite negative else return .nan negative (t = "N") c
  | .inr e => orElse .invalidDecimal (Decimal.checked? negative c e)

def toDecimal : Value → Except Breakdown Decimal
  | bool b => .ok (Decimal.ofInt (if b then 1 else 0))
  | int n => .ok (Decimal.ofInt n)
  | float x => .ok (Decimal.ofDouble x)
  | decimal d => .ok d
  | text t => orElse .invalidDecimal (Decimal.ofText? t)
  | list [sign, digits, exponent] | tuple [sign, digits, exponent] =>
    decimalOfParts sign digits exponent
  | list _ | tuple _ => .error .wrongValue
  | _ => .error .wrongType

end SealedRows.Value
