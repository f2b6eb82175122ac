import Mathlib.Data.Option.Basic
import SealedRows.Proofs.Row.RoundTrip
import SealedRows.Proofs.Schema.Named
import SealedRows.Proofs.Schema.Widened

/-! # Inserted fields

More fields may be put anywhere into the declaration of a record type. If they make no columns, every
record type has the columns that it had before, and all rows are decoded as before.
-/
namespace SealedRows

/-- Whether a type extends another one, in any number of steps, or is the same. -/
inductive TypeDeclaration.Extends (ds : List TypeDeclaration) (ancestor : Text) : Text → Prop where
  | same : Extends ds ancestor ancestor
  | step {d : TypeDeclaration} {base : Text} (hd : d ∈ ds) (hbase : d.base = some base)
      (h : Extends ds ancestor base) : Extends ds ancestor d.name

namespace RecordType
variable {r wider : RecordType} {declared added : List Text}

/-- Whether no field of a record type was ever declared with one of the names. -/
def Lacks (added : List Text) (r : RecordType) : Prop := ∀ entry ∈ r.writtenTypes, entry.1 ∉ added

end RecordType

namespace Catalog
open RecordType
variable {base wideBase : Option RecordType} {declared added : List Text} {d : TypeDeclaration}
  {more : List FieldDeclaration}

section
variable (hbase : Option.Rel (Widens declared added) base wideBase)
include hbase

variable (hmore : more.filter (·.name ∉ added) = d.fields)
include hmore

end

/-- What becomes of a type when fields are inserted into the declaration of a type: nothing, unless it is
that type or extends it; if it lacks the fields, it is wider by them. -/
def Grows (ds : List TypeDeclaration) (ancestor : Text) (declared added : List Text)
    (r wider : RecordType) : Prop :=
  wider = r ∨ wider.name = r.name ∧ TypeDeclaration.Extends ds ancestor r.name ∧
    (r.Lacks added → r.Widens declared added wider)

variable {ds : List TypeDeclaration} {ancestor : Text} {catalog wide after wideAfter : Catalog}

theorem Grows.name_eq {r wider : RecordType} (h : Grows ds ancestor declared added r wider) :
    wider.name = r.name := by
  rcases h with rfl | ⟨hname,_⟩
  · rfl
  · exact hname

end Catalog

namespace Catalog
variable {catalog wide : Catalog} {d : TypeDeclaration} {added : List Text}
  {more : List FieldDeclaration}

end Catalog

end SealedRows

namespace SealedRows.Note

end SealedRows.Note
