import SealedRows.Schema.Registry

/-! # Key rings

A ring holds the key for all tables that have none of their own. The keys of single tables are kept
with their schemas.
-/
namespace SealedRows

structure KeyRing where
  algorithm : Algorithm
  defaultKey : Option Bytes

namespace KeyRing

def empty (a : Algorithm) : KeyRing := ⟨a, none⟩

def withDefault (ring : KeyRing) (key : Value) : Except KeyFault KeyRing :=
  (ring.algorithm.checkedKey key).map fun bs => { ring with defaultKey := some bs }

def cleared (ring : KeyRing) : KeyRing := { ring with defaultKey := none }

def resolve (ring : KeyRing) (e : RegistryEntry) : Except KeyFault Bytes :=
  match e.key, ring.defaultKey with
  | some key, _ => .ok key
  | none, some key => .ok key
  | none, none => .error (.notInstalled e.schema.name)

def contextFor (ring : KeyRing) (e : RegistryEntry) (salt : Bytes) : Except CipherFault CipherContext :=
  match ring.resolve e with
  | .ok key => CipherContext.ofBytes ring.algorithm key salt
  | .error fault => .error (.key fault)

end KeyRing
end SealedRows
