import SealedRows.Text.Utf16
import SealedRows.Value.Conversion

/-! # Binary layouts

The bytes of the values of each kind. All numbers are little-endian. A moment is the count of tenths
of a microsecond since year 1 in 62 bits, with two bits above that tell whether it is an instant. A
decimal is a coefficient of 96 bits and a word with its scale and its sign. Every byte string of the
length of a layout can be read, so what was decrypted with a wrong key reads as a wrong value.
-/
namespace SealedRows

namespace IntLayout

/-- The bytes of an integer; a negative one is written as its distance below the first number that
has no room. -/
def toBytes (l : IntLayout) (n : Int) : Bytes := Bytes.ofNat l.width.bytes (n % l.count).toNat

def ofBytes (l : IntLayout) (bs : Bytes) : Int :=
  let n := Bytes.toNat bs
  if l.bound ≤ n then n - l.count else n

end IntLayout

namespace Moment

/-- The place of the bits that tell whether a moment is an instant. -/
def kindPlace : Nat := 2 ^ (62 : Nat)

/-- The bytes of a moment; an instant is written by the clock of universal time, if that shows a date
of the calendar. -/
def toBytes? (m : Moment) : Option Bytes :=
  m.toUniversal?.map fun u =>
    Bytes.ofNat 8 ((if u.offset.isSome then kindPlace else 0) + 10 * u.micros.val)

/-- The moment of a byte string. Counts beyond the calendar begin again in year 1. -/
def ofBytes (bs : Bytes) : Moment :=
  let n := Bytes.toNat bs
  ⟨⟨n % kindPlace / 10 % microsOfCalendar, Nat.mod_lt _ (by decide)⟩,
    if n / kindPlace = 1 then some 0 else none⟩

end Moment

namespace Decimal

def maxDigits : Nat := Numeral.maxIntegerDigits

/-- The bytes of a decimal. A positive exponent is multiplied into the coefficient. -/
def toBytes : Decimal → Except ValueFault Bytes
  | .finite negative c e =>
    let d := finite negative c e
    if maxDigits < (Text.digits c).length then .error (.general .wrongValue)
    else if ValueFault.maxScale < (-e).toNat then .error (.scaleTooLarge (-e).toNat d)
    else if c ≠ 0 ∧ (96 ≤ e ∨ 2 ^ (96 : Nat) ≤ c * 10 ^ e.toNat) then .error (.coefficientTooLarge d)
    else
      let coefficient := if c = 0 then 0 else c * 10 ^ e.toNat
      .ok (Bytes.ofNat 12 coefficient
        ++ Bytes.ofNat 4 ((-e).toNat * 2 ^ (16 : Nat) + if negative then 2 ^ (31 : Nat) else 0))
  | d => .error (.notFinite d)

def ofBytes (bs : Bytes) : Decimal :=
  let flags := Bytes.toNat (bs.drop 12)
  finite (flags.testBit 31) (Bytes.toNat (bs.take 12)) (-(flags / 2 ^ (16 : Nat) % 256 : Nat))

end Decimal

namespace ValueKind

def toBytes (kind : ValueKind) (v : Value) : Except ValueFault Bytes :=
  match kind with
  | string =>
    match v with
    | .text t => .ok t.toUtf16
    | _ => .error (.expected "str" v.typeName)
  | bytes =>
    match v with
    | .bytes bs | .buffer bs => .ok bs
    | _ => .error (.expected "bytes" v.typeName)
  | timestamp =>
    match v with
    | .moment m =>
      match m.toBytes? with
      | some bs => .ok bs
      | none => .error (.general .overflow)
    | _ => .error (.expected "datetime" v.typeName)
  | decimal =>
    match v.toDecimal with
    | .ok d => d.toBytes
    | .error b => .error (.general b)
  | bool => v.truth.map fun b => [if b then 1 else 0]
  | integer l =>
    match v.integer? with
    | some n => if l.Holds n then .ok (l.toBytes n) else .error (.unfit v kind)
    | none => .error (.unfit v kind)
  | float32 =>
    match v.numberToDouble with
    | .ok x =>
      match x.toSingle? with
      | some pattern => .ok (Bytes.ofNat 4 pattern)
      | none => .error (.general .overflow)
    | .error _ => .error (.unfit v kind)
  | float64 =>
    match v.numberToDouble with
    | .ok x => .ok x.toBytes
    | .error _ => .error (.unfit v kind)

def ofSizedBytes (kind : ValueKind) (bs : Bytes) : Except ValueFault Value :=
  match kind with
  | string =>
    match Text.ofUtf16? bs with
    | some t => .ok (.text t)
    | none => .error (.general .undecodable)
  | bytes => .ok (.bytes bs)
  | timestamp => .ok (.moment (Moment.ofBytes bs))
  | decimal => .ok (.decimal (Decimal.ofBytes bs))
  | bool => .ok (.bool (bs.any (· ≠ 0)))
  | integer l => .ok (.int (l.ofBytes bs))
  | float32 => .ok (.float (Double.ofSingle (Bytes.toNat bs)))
  | float64 => .ok (.float (Double.ofBytes bs))

def ofBytes (kind : ValueKind) (bs : Bytes) : Except ValueFault Value :=
  match kind.size? with
  | some size => if bs.length = size then kind.ofSizedBytes bs else .error (.general .wrongSize)
  | none => kind.ofSizedBytes bs

end ValueKind
end SealedRows
