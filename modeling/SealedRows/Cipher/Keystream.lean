import SealedRows.Cipher.Algorithm

/-! # Keystreams

A column of a row is encrypted by adding a keystream to it, so that encrypting twice gives back what
was there. The keystream depends on the key, on the salt of the row and on the number of the column:
equal values in different rows or columns look different. Its blocks are the encrypted states of a
register, and every block is added to the register after it was used.
-/
namespace SealedRows

def saltSize : Nat := 8

abbrev Salt := Vector UInt8 saltSize

/-- The sum of two byte strings, as long as the shorter one. -/
def Bytes.added (a b : Bytes) : Bytes := List.zipWith (· ^^^ ·) a b

def keystream {n : Nat} (encrypt : Vector UInt8 n → Vector UInt8 n) : Nat → Vector UInt8 n → Bytes
  | 0, _ => []
  | count + 1, register =>
    let block := encrypt register
    block.toList ++ keystream encrypt count (register.zipWith (· ^^^ ·) block)

@[simp] theorem length_keystream {n : Nat} (encrypt : Vector UInt8 n → Vector UInt8 n) (count : Nat)
    (register : Vector UInt8 n) : (keystream encrypt count register).length = count * n := by
  induction count generalizing register with
  | zero => simp [keystream]
  | succ count ih => simp [keystream, ih, Nat.succ_mul, Nat.add_comm]

inductive CipherFault where
  | key (fault : KeyFault)
  | saltLength (length : Nat)
  | negativeOrdinal (ordinal : Int)
  | general (b : Breakdown)
  deriving DecidableEq, Repr

def CipherFault.report : CipherFault → Report
  | key fault => fault.report
  | saltLength length =>
    .failure .wrongValue
      ("Salt must be " ++ Text.ofNat saltSize ++ " bytes, got " ++ Text.ofNat length)
  | negativeOrdinal ordinal =>
    .failure .wrongValue ("Column ordinal can't be negative: " ++ Text.ofInt ordinal)
  | general b => .silent b

structure CipherContext where
  algorithm : Algorithm
  key : Bytes
  salt : Salt

namespace CipherContext

def ofBytes (a : Algorithm) (key salt : Bytes) : Except CipherFault CipherContext :=
  if key.length < a.keySize then .error (.key (.tooShort a key.length))
  else if h : salt.length = saltSize then .ok ⟨a, key, ⟨salt.toArray, by simpa using h⟩⟩
  else .error (.saltLength salt.length)

variable (c : CipherContext)

/-- A byte of the register before the number of the column is added: the salt, followed in ciphers of
larger blocks by its complement. -/
def saltByte (i : Nat) : UInt8 :=
  if i < saltSize then c.salt.toList.getD i 0 else c.salt.toList.getD (i - saltSize) 0 ^^^ 0xFF

/-- The register of a column: the four bytes of its number are added to each four bytes. -/
def register (ordinal : Nat) : c.algorithm.Block :=
  Vector.ofFn fun i => c.saltByte i ^^^ (Bytes.ofNat 4 ordinal).getD (i % 4) 0

def initialState (ordinal : Int) : Except CipherFault c.algorithm.Block :=
  if ordinal < 0 then .error (.negativeOrdinal ordinal)
  else if 2 ^ (32 : Nat) ≤ ordinal then .error (.general .overflow)
  else .ok (c.register ordinal.toNat)

/-- As many blocks of the keystream of a column as the given number of bytes needs. -/
def keystreamFor (ordinal length : Nat) : Bytes :=
  let size := c.algorithm.blockSize
  keystream (c.algorithm.encryption c.key) ((length + size - 1) / size) (c.register ordinal)

def applied (data : Bytes) (ordinal : Int) : Except CipherFault Bytes :=
  (c.initialState ordinal).map fun _ => data.added (c.keystreamFor ordinal.toNat data.length)

def shown : Text :=
  let member : Text :=
    match c.algorithm with
    | .aes256 => "AES_256"
    | .aes192 => "AES_192"
    | .aes128 => "AES_128"
    | .des => "DES_56"
    | .tripleDes => "TRIPLE_DES_168"
  "CipherContext(algorithm=<CryptoAlgorithm." ++ member ++ ": '" ++ c.algorithm.name ++ "'>)"

end CipherContext
end SealedRows
