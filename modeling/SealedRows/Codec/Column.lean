import SealedRows.Codec
import SealedRows.Fault

/-! # Values of columns

A column stores its values in the form of its kind. Those of an encrypted column need a cipher, so that
nothing is stored or read in the clear by mistake. Null is stored as null.
-/
namespace SealedRows.Column

/-- The cipher that a column needs. Plain columns use none, and an encrypted one can't do without. -/
def cipherFor (c : Column) (cipher : Option CipherContext) : Except Fault (Option CipherContext) :=
  if c.isEncrypted then
    match cipher with
    | none => .error (.key (.sealedColumn c.name))
    | some cipher => .ok (some cipher)
  else .ok none

def encode (c : Column) (v : Value) (cipher : Option CipherContext) : Except Fault Value :=
  if v.isNone then .ok .none
  else do
    let cipher ← c.cipherFor cipher
    (c.kind.encode v c.ordinal cipher).mapError .value

def decode (c : Column) (raw : Value) (cipher : Option CipherContext) : Except Fault Value :=
  if raw.isNone then .ok .none
  else do
    let cipher ← c.cipherFor cipher
    (c.kind.decode raw c.ordinal cipher).mapError .value

end SealedRows.Column
