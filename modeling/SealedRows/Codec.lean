import SealedRows.Codec.Layout

/-! # Stored values

How a value of a field becomes the value that the database holds, and back. Plain columns hold what
the database can hold exactly, and binary layouts otherwise. Encrypted columns always hold the binary
layout with a keystream added to it. Null is never encrypted.
-/
namespace SealedRows

def ValueFault.lift {α : Type} : Except Breakdown α → Except ValueFault α
  | .ok a => .ok a
  | .error b => .error (.general b)

def ValueFault.liftCipher {α : Type} : Except CipherFault α → Except ValueFault α
  | .ok a => .ok a
  | .error fault => .error (.cipher fault)

namespace ValueKind

def encodePlain (kind : ValueKind) (v : Value) : Except ValueFault Value :=
  if kind.isBlobStored then (kind.toBytes v).map .bytes
  else
    match kind with
    | bool => v.truth.map fun b => .int (if b then 1 else 0)
    | integer _ => do
      -- The layout refuses what is out of range.
      let _ ← kind.toBytes v
      (ValueFault.lift v.toInt).map .int
    | float32 | float64 => (ValueFault.lift v.toDouble).map .float
    | string =>
      match v with
      | .text t => .ok (.text t)
      | _ => .error (.expected "str" v.typeName)
    | _ => .ok v

def decodePlain (kind : ValueKind) (raw : Value) : Except ValueFault Value :=
  if kind.isBlobStored then ValueFault.lift raw.toBytes >>= kind.ofBytes
  else
    match kind with
    | bool => raw.truth.map .bool
    | integer _ => (ValueFault.lift raw.toInt).map .int
    | float32 | float64 => (ValueFault.lift raw.toDouble).map .float
    | string => .ok (.text raw.written)
    | _ => .ok raw

def encode (kind : ValueKind) (v : Value) (ordinal : Int) (cipher : Option CipherContext) :
    Except ValueFault Value :=
  match v with
  | .none => .ok .none
  | v =>
    match cipher with
    | none => kind.encodePlain v
    | some c => do
      let bs ← kind.toBytes v
      (ValueFault.liftCipher (c.applied bs ordinal)).map .bytes

def decode (kind : ValueKind) (raw : Value) (ordinal : Int) (cipher : Option CipherContext) :
    Except ValueFault Value :=
  match raw with
  | .none => .ok .none
  | raw =>
    match cipher with
    | none => kind.decodePlain raw
    | some c => do
      let bs ← ValueFault.lift raw.toBytes
      let plain ← ValueFault.liftCipher (c.applied bs ordinal)
      kind.ofBytes plain

end ValueKind
end SealedRows
