import SealedRows.Proofs.Schema.Columns

/-! # Wider record types

A record type may hold more fields than another one, of names that are new to it, that make no columns.
Wherever these stand among its fields, both types have the same columns in the same places, and a type
that refers to the one refers in the same way to the other.
-/
namespace SealedRows

/-- Whether a field with these options is a column, or no field at all, whatever its type. -/
def ColumnOptions.asksForColumn (o : ColumnOptions) : Bool :=
  o.kind.isSome || o.foreignKey.isSome || o.primaryKey || o.encrypted

/-- The types that a written type stands for, when the given names are declared. -/
abbrev Hint.Reads (declared : List Text) (written : WrittenType) (hint : Hint) : Prop :=
  Hint.ofWritten declared written = .ok hint

namespace Hint
variable {declared : List Text}

end Hint

/-- Whether a record type is another one with more fields, all of them of the given names, that make no
columns. Their types stand for something when the given types are declared. -/
structure RecordType.Widens (declared added : List Text) (r wide : RecordType) : Prop where
  name : wide.name = r.name
  table : wide.table = r.table
  isRecord : wide.isRecord = r.isRecord
  fields : wide.fields.filter (·.name ∉ added) = r.fields
  writtenTypes : wide.writtenTypes.filter (·.1 ∉ added) = r.writtenTypes
  shared : wide.shared.filter (·.1 ∉ added) = r.shared
  reads : ∀ entry ∈ wide.writtenTypes, entry.1 ∈ added → ∃ hint, Hint.Reads declared entry.2 hint
  idle : ∀ f ∈ wide.fields, f.name ∈ added → f.options.ignored ∨ f.options.asksForColumn = false ∧
    ∀ written hint, (f.name,written) ∈ wide.writtenTypes → Hint.Reads declared written hint →
      hint.unwrapped.1.kind? = none

theorem RecordType.Widens.refl (declared : List Text) (r : RecordType) : r.Widens declared [] r where
  name := rfl
  table := rfl
  isRecord := rfl
  fields := List.filter_eq_self.mpr fun _ _ => by simp
  writtenTypes := List.filter_eq_self.mpr fun _ _ => by simp
  shared := List.filter_eq_self.mpr fun _ _ => by simp
  reads := fun _ _ h => absurd h List.not_mem_nil
  idle := fun _ _ h => absurd h List.not_mem_nil

namespace Schema
variable {catalog wide : Catalog} {added : List Text} {r wider : RecordType}
  {hints moreHints : List (Text × Hint)} {f : Field} {kind : ValueKind}

section
variable (hdeclared : wide.map (·.name) = catalog.map (·.name))
include hdeclared

variable {ordinal : Nat}

end
end Schema
end SealedRows
