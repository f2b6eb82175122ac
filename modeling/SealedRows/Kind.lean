import SealedRows.Text

/-! # Kinds of values

The kinds of values that a column can hold, and how the database declares a column of each. The
database holds integers of up to 32 bits, doubles and texts as they are; wider integers, moments and
decimals are always held as bytes, for its own integers have 64 bits with a sign and its own
fractions are doubles.
-/
namespace SealedRows

inductive StorageClass where
  | integer | real | text | blob
  deriving DecidableEq, Repr

def StorageClass.name : StorageClass → Text
  | integer => "INTEGER"
  | real => "REAL"
  | text => "TEXT"
  | blob => "BLOB"

inductive IntWidth where
  | one | two | four | eight
  deriving DecidableEq, Repr

def IntWidth.bytes : IntWidth → Nat
  | one => 1
  | two => 2
  | four => 4
  | eight => 8

structure IntLayout where
  signed : Bool
  width : IntWidth
  deriving DecidableEq, Repr

namespace IntLayout

def count (l : IntLayout) : Nat := 256 ^ l.width.bytes

def least (l : IntLayout) : Int := if l.signed then -(l.count / 2 : Nat) else 0

/-- The number after the greatest integer of a layout. -/
def bound (l : IntLayout) : Int := if l.signed then (l.count / 2 : Nat) else l.count

def Holds (l : IntLayout) (n : Int) : Prop := l.least ≤ n ∧ n < l.bound

instance (l : IntLayout) (n : Int) : Decidable (l.Holds n) :=
  inferInstanceAs (Decidable (l.least ≤ n ∧ n < l.bound))

end IntLayout

inductive ValueKind where
  | integer (layout : IntLayout)
  | float32
  | float64
  | decimal
  | bool
  | string
  | timestamp
  | bytes
  deriving DecidableEq, Repr

namespace ValueKind

def all : List ValueKind :=
  [integer ⟨true, .one⟩, integer ⟨false, .one⟩, integer ⟨true, .two⟩, integer ⟨false, .two⟩,
    integer ⟨true, .four⟩, integer ⟨false, .four⟩, integer ⟨true, .eight⟩, integer ⟨false, .eight⟩,
    float32, float64, decimal, bool, string, timestamp, bytes]

def name : ValueKind → Text
  | integer l => (if l.signed then "int" else "uint") ++ Text.ofNat (8 * l.width.bytes)
  | float32 => "float32"
  | float64 => "float64"
  | decimal => "decimal"
  | bool => "bool"
  | string => "string"
  | timestamp => "timestamp"
  | bytes => "bytes"

def ofName? (t : Text) : Option ValueKind := all.find? (·.name = t)

def size? : ValueKind → Option Nat
  | integer l => some l.width.bytes
  | float32 => some 4
  | float64 => some 8
  | decimal => some 16
  | bool => some 1
  | timestamp => some 8
  | string | bytes => none

def isInteger : ValueKind → Bool
  | integer _ => true
  | _ => false

/-- Whether plain values are held in their binary layout. -/
def isBlobStored : ValueKind → Bool
  | integer ⟨_, .eight⟩ | decimal | timestamp | bytes => true
  | _ => false

def storageClass (k : ValueKind) : StorageClass :=
  if k.isBlobStored then .blob
  else
    match k with
    | float32 | float64 => .real
    | string => .text
    | _ => .integer

/-- Whether a column of a kind may refer to another table: its integers have 16 or 32 bits. -/
def canRefer : ValueKind → Bool
  | integer ⟨_, .two⟩ | integer ⟨_, .four⟩ => true
  | _ => false

/-- Whether a column of a kind may be referred to: its integers have at most 32 bits. -/
def canBeReferred (k : ValueKind) : Bool := k.isInteger && !k.isBlobStored

end ValueKind
end SealedRows
