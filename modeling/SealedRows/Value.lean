import SealedRows.Condition
import SealedRows.Decimal
import SealedRows.Moment

/-! # Values

Whatever a field of a record, a row of the database or a caller can hold.
-/
namespace SealedRows

inductive Value where
  | none
  | bool (b : Bool)
  | int (n : Int)
  | float (x : Double)
  | text (t : Text)
  | bytes (bs : Bytes)
  /-- Bytes that their owner may change. -/
  | buffer (bs : Bytes)
  | decimal (d : Decimal)
  | moment (m : Moment)
  | list (vs : List Value)
  | tuple (vs : List Value)
  | condition (c : Condition Value)
  /-- A field that no condition has been made of yet. -/
  | column (name : Text)
  /-- A record, known by its type and by the way it is shown. -/
  | object (typeName shown : Text)

namespace Value

instance : Inhabited Value := ⟨none⟩

def isNone : Value → Bool
  | none => true
  | _ => false

theorem isNone_iff {v : Value} : v.isNone ↔ v = none := by
  cases v <;> simp [isNone]

mutual

def typeName : Value → Text
  | none => "NoneType"
  | bool _ => "bool"
  | int _ => "int"
  | float _ => "float"
  | text _ => "str"
  | bytes _ => "bytes"
  | buffer _ => "bytearray"
  | decimal _ => "Decimal"
  | moment _ => "datetime"
  | list _ => "list"
  | tuple _ => "tuple"
  | condition c => conditionTypeName c
  | column _ => "Column"
  | object name _ => name

def conditionTypeName : Condition Value → Text
  | .comparison .. => "Comparison"
  | .nullCheck .. => "NullCheck"
  | .isTrue _ => "IsTrue"
  | .and .. => "And"
  | .or .. => "Or"
  | .not _ => "Not"
  | .bare => "Node"
  | .misfit value => value.typeName

end

end Value
end SealedRows
