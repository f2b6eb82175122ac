import SealedRows.Cipher.Keystream
import SealedRows.Kind
import SealedRows.Value.Display

/-! # Refused values

Why a value can't be converted, compared or put into the binary layout of a kind.
-/
namespace SealedRows

/-- A report whose message shows a value. There is no message if the value can't be shown. -/
def Value.told (v : Value) (r : Report) : Report := if v.isShowable then r else .silent .wrongValue

inductive ValueFault where
  | general (b : Breakdown)
  | cipher (fault : CipherFault)
  /-- Its type is not the one that was expected. -/
  | expected (wanted got : Text)
  /-- It is not among the values of a kind of numbers. -/
  | unfit (value : Value) (kind : ValueKind)
  /-- A decimal is not finite. -/
  | notFinite (d : Decimal)
  /-- A decimal has too many places. -/
  | scaleTooLarge (scale : Nat) (d : Decimal)
  /-- A decimal has too many digits. -/
  | coefficientTooLarge (d : Decimal)
  /-- A condition was asked whether it is true. -/
  | conditionTruth
  /-- A column was asked whether it is true. -/
  | columnTruth
  /-- Two columns were compared. -/
  | columnComparison

namespace ValueFault

def maxScale : Nat := 28

def report : ValueFault → Report
  | general b => .silent b
  | cipher fault => fault.report
  | expected wanted got => .failure .wrongType ("Expected " ++ wanted ++ ", got " ++ got)
  | unfit value kind =>
    value.told (.failure .wrongValue
      ("Value " ++ value.shown ++ " doesn't fit " ++ kind.name ++ ": "
        ++ (Report.silent .wrongSize).embedded))
  | notFinite d => .failure .wrongValue ("Decimal value must be finite: " ++ d.toText)
  | scaleTooLarge scale d =>
    .failure .wrongValue
      ("Decimal scale " ++ Text.ofNat scale ++ " exceeds " ++ Text.ofNat maxScale ++ ": " ++ d.toText)
  | coefficientTooLarge d =>
    .failure .wrongValue ("Decimal coefficient doesn't fit in 96 bits: " ++ d.toText)
  | conditionTruth =>
    .failure .wrongType "Conditions have no truth value; use & / | to combine them"
  | columnTruth =>
    .failure .wrongType "Columns have no truth value; use & / | to combine conditions"
  | columnComparison => .failure .wrongType "Comparing two columns is not supported"

/-- Whether the value itself is to blame, so that the failure is told as one of its field. -/
def isRefusal (fault : ValueFault) : Bool :=
  match fault.report.category with
  | .general b => b.isRefusal
  | .library _ => false

end ValueFault
end SealedRows
