import SealedRows.Cipher.Aes
import SealedRows.Cipher.Des
import SealedRows.Report
import SealedRows.Value

/-! # Ciphers

The block ciphers that a column may be encrypted with, and which keys they take. A key that is longer
than a cipher needs is cut off.
-/
namespace SealedRows

inductive Algorithm where
  | aes256 | aes192 | aes128 | des | tripleDes
  deriving DecidableEq, Repr

namespace Algorithm

def all : List Algorithm := [aes256, aes192, aes128, des, tripleDes]

def name : Algorithm → Text
  | aes256 => "aes-256"
  | aes192 => "aes-192"
  | aes128 => "aes-128"
  | des => "des-56"
  | tripleDes => "3des-168"

def ofName? (t : Text) : Option Algorithm := all.find? (·.name = t)

def keySize : Algorithm → Nat
  | aes256 => 32
  | aes192 => 24
  | aes128 => 16
  | des => 8
  | tripleDes => 24

def blockSize : Algorithm → Nat
  | des | tripleDes => 8
  | _ => 16

abbrev Block (a : Algorithm) := Vector UInt8 a.blockSize

def encryption (a : Algorithm) (key : Bytes) : a.Block → a.Block :=
  let key := key.take a.keySize
  match a with
  | aes256 => Aes.encrypt (Aes.schedule key) 8
  | aes192 => Aes.encrypt (Aes.schedule key) 6
  | aes128 => Aes.encrypt (Aes.schedule key) 4
  | des => Des.encrypt (Des.roundKeys key)
  | tripleDes =>
    Des.encryptThreefold (Des.roundKeys key) (Des.roundKeys (key.drop 8)) (Des.roundKeys (key.drop 16))

end Algorithm

inductive KeyFault where
  /-- There is none. -/
  | missing
  /-- It is not made of bytes. -/
  | notBytes (typeName : Text)
  /-- It is shorter than the cipher needs. -/
  | tooShort (algorithm : Algorithm) (length : Nat)
  /-- Neither the table nor the key ring has one. -/
  | notInstalled (table : Text)
  /-- An encrypted column was met where no key is at hand. -/
  | sealedColumn (column : Text)
  deriving DecidableEq, Repr

def KeyFault.report : KeyFault → Report
  | missing => .error .invalidKey "Encryption key can't be None." none
  | notBytes typeName => .error .invalidKey ("Encryption key must be bytes, not " ++ typeName ++ ".") none
  | tooShort algorithm length =>
    .error .invalidKey
      ("Key length for " ++ algorithm.name ++ " must be at least " ++ Text.ofNat algorithm.keySize
        ++ " bytes, got " ++ Text.ofNat length ++ ".") none
  | notInstalled table =>
    .error .noKey ("Encryption key has not been installed for table " ++ table ++ ".")
      (some "Call set_encryption_key() or set_table_key() first.")
  | sealedColumn column =>
    .error .noKey ("Column '" ++ column ++ "' is encrypted but no cipher is available.") none

def Algorithm.checkedKey (a : Algorithm) : Value → Except KeyFault Bytes
  | .none => .error .missing
  | .bytes bs | .buffer bs =>
    if bs.length < a.keySize then .error (.tooShort a bs.length) else .ok bs
  | v => .error (.notBytes v.typeName)

end SealedRows
