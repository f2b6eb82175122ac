import SealedRows.Proofs.Row.RoundTrip
import SealedRows.Sql.Join

/-! # Rows of joins

A join lists its columns by their names, and its rows are divided by counting. Both follow the stored
columns of the tables, so each part of a row is the row of one table, with the salt of that table.
-/
namespace SealedRows

/-- A row as a table stores it, with the salt behind the columns if any of them is encrypted. -/
structure StoredRow where
  entry : RegistryEntry
  row : Row
  names_eq : row.map (·.name) = entry.schema.storageColumnNames

theorem Cell.isAbsent_iff {c : Cell} : c.isAbsent ↔ c.value = .none := by
  obtain ⟨name,v⟩ := c
  cases v <;> simp [Cell.isAbsent, StorageClass.of?]

namespace Row

theorem cut_flatten (parts : List Row) : cut (parts.map List.length) parts.flatten = parts := by
  induction parts with
  | nil => rfl
  | cons part rest ih =>
    rw [List.map_cons, List.flatten_cons, cut, List.take_left, List.drop_left, ih]

theorem split_of_two_le {schemas : List Schema} (h : 2 ≤ schemas.length) (row : Row) :
    row.split schemas = if row.length ≠ (schemas.map (·.columnCount)).sum then
      .error (.joinWidth row.length (schemas.map (·.columnCount)).sum (schemas.map (·.name)))
    else .ok (cut (schemas.map (·.columnCount)) row) := by
  match schemas, h with
  | _ :: _ :: _, _ => rfl

end Row

namespace StoredRow

/-- What a join calls the cells of a row. -/
def qualifiedNames (t : StoredRow) : List Text :=
  t.row.map fun cell => t.entry.schema.name ++ "." ++ cell.name

/-- Whether no cell holds anything, as where an outer join found no row of the table. -/
def IsAbsent (t : StoredRow) : Prop := ∀ cell ∈ t.row, cell.value = .none

theorem all_isAbsent_iff {t : StoredRow} : t.row.all Cell.isAbsent ↔ t.IsAbsent := by
  simp only [List.all_eq_true, Cell.isAbsent_iff, IsAbsent]

instance (t : StoredRow) : Decidable t.IsAbsent := decidable_of_iff _ all_isAbsent_iff

/-- The fields of a row behind the first one, by itself. -/
def decode? (ring : KeyRing) (outer : Bool) (t : StoredRow) :
    Except Fault (Option (List (Text × Value))) :=
  if outer ∧ t.IsAbsent then .ok none else some <$> t.row.decode ring t.entry

variable (tables : List StoredRow)

def entries : List RegistryEntry := tables.map (·.entry)

def schemas : List Schema := tables.map (·.entry.schema)

/-- The row of a join in which the tables have these rows. -/
def joined : Row := tables.flatMap (·.row)

theorem schemas_entries : (entries tables).map (·.schema) = schemas tables := List.map_map

theorem length_row (t : StoredRow) : t.row.length = t.entry.schema.columnCount := by
  rw [← Schema.length_storageColumnNames, ← t.names_eq, List.length_map]

theorem columnCounts_eq :
    (schemas tables).map (·.columnCount) = (tables.map (·.row)).map List.length := by
  rw [schemas, List.map_map, List.map_map]
  exact List.map_congr_left fun t _ => t.length_row.symm

theorem length_joined : (joined tables).length = ((schemas tables).map (·.columnCount)).sum := by
  rw [columnCounts_eq, joined, List.flatMap_def, List.length_flatten]

/-- What the database returns is the row of the join when its values are named as stored. -/
theorem ofValues_joined :
    Row.ofValues ((schemas tables).flatMap (·.storageColumnNames))
      (tables.flatMap fun t => t.row.map (·.value)) = .ok (joined tables) := by
  have hnames : (schemas tables).flatMap (·.storageColumnNames) = (joined tables).map (·.name) := by
    rw [schemas, List.flatMap_map, joined, List.map_flatMap]
    exact List.flatMap_congr fun t _ => t.names_eq.symm
  have hvalues : (tables.flatMap fun t => t.row.map (·.value)) = (joined tables).map (·.value) := by
    rw [joined, List.map_flatMap]
  rw [hnames, hvalues]
  exact Row.ofValues_row _

theorem qualifiedColumns_eq :
    (schemas tables).flatMap Sql.qualifiedColumns = tables.flatMap qualifiedNames := by
  rw [schemas, List.flatMap_map]
  refine List.flatMap_congr fun t _ => ?_
  unfold Sql.qualifiedColumns qualifiedNames
  rw [← t.names_eq, List.map_map]
  rfl

/-- A join selects the cells of its rows in order. -/
theorem join_selects {conditions : List Text} {clause : Option Text} {left : Bool} {sql : Text}
    (h : Sql.join (schemas tables) conditions clause left = .ok sql) :
    ∃ rest, sql = "SELECT " ++ Sql.listed (tables.flatMap qualifiedNames) ++ " FROM " ++ rest := by
  unfold Sql.join at h
  split at h
  · cases h
  · rw [qualifiedColumns_eq] at h
    injection h with h
    simp only [List.append_assoc] at h ⊢
    exact ⟨_,h.symm⟩

section
variable {tables} (htables : 2 ≤ tables.length)
include htables

theorem split_joined : (joined tables).split (schemas tables) = .ok (tables.map (·.row)) := by
  rw [Row.split_of_two_le (by rwa [schemas, List.length_map]),
    if_neg (not_not.mpr (length_joined tables)), columnCounts_eq, joined, List.flatMap_def,
    Row.cut_flatten]

theorem split_of_length_ne {row : Row} (h : row.length ≠ (joined tables).length) :
    row.split (schemas tables) =
      .error (.joinWidth row.length (joined tables).length ((schemas tables).map (·.name))) := by
  rw [length_joined] at h ⊢
  rw [Row.split_of_two_le (by rwa [schemas, List.length_map]), if_pos h]

end

variable (ring : KeyRing) (outer : Bool)

theorem decodeParts_behind {index : Nat} (hindex : 0 < index) :
    Row.decodeParts ring outer index (entries tables) (tables.map (·.row)) =
      tables.mapM (decode? ring outer) := by
  induction tables generalizing index with
  | nil => rfl
  | cons t rest ih =>
    rw [entries, List.map_cons, List.map_cons, Row.decodeParts, ← entries, ih (Nat.succ_pos index),
      List.mapM_cons, decode?]
    simp only [hindex, decide_true, Bool.and_true, Bool.and_eq_true, all_isAbsent_iff]
    split <;> rfl

theorem decodeParts_tables (first : StoredRow) (others : List StoredRow) :
    Row.decodeParts ring outer 0 (entries (first :: others)) ((first :: others).map (·.row)) = (do
      let values ← first.row.decode ring first.entry
      let behind ← others.mapM (decode? ring outer)
      return some values :: behind) := by
  rw [entries, List.map_cons, List.map_cons, Row.decodeParts, ← entries,
    decodeParts_behind others ring outer Nat.one_pos]
  simp only [Nat.lt_irrefl, decide_false, Bool.and_false, Bool.false_and, Bool.false_eq_true, if_false]
  cases first.row.decode ring first.entry <;> rfl

theorem decode?_eq_none_iff {t : StoredRow} : t.decode? ring outer = .ok none ↔ outer ∧ t.IsAbsent := by
  unfold decode?
  split
  · next habsent => exact ⟨fun _ => habsent,fun _ => rfl⟩
  · next habsent =>
    refine ⟨fun h => ?_,fun h => absurd h habsent⟩
    cases hvalues : t.row.decode ring t.entry <;> rw [hvalues] at h <;> cases h

/-- The cells of a row of a join follow the names that the join selects. The row is divided into the
rows of its tables, and each of them is decoded by itself. Only a table behind the first one of an outer
join may have no row, namely if all its cells are null. A row of any other length is refused. -/
theorem assemble_joined (first : StoredRow) {others : List StoredRow} (hothers : others ≠ []) :
    Row.ofValues ((schemas (first :: others)).flatMap (·.storageColumnNames))
        ((first :: others).flatMap fun t => t.row.map (·.value)) = .ok (joined (first :: others)) ∧
      (∀ conditions clause left sql,
        Sql.join (schemas (first :: others)) conditions clause left = .ok sql → ∃ rest,
          sql = "SELECT " ++ Sql.listed ((first :: others).flatMap qualifiedNames) ++ " FROM " ++ rest) ∧
      (joined (first :: others)).split (schemas (first :: others)) =
        .ok ((first :: others).map (·.row)) ∧
      Row.assemble ring outer (entries (first :: others)) (joined (first :: others)) = (do
        let values ← first.row.decode ring first.entry
        let behind ← others.mapM (decode? ring outer)
        return some values :: behind) ∧
      (∀ t : StoredRow, t.decode? ring outer = .ok none ↔ outer ∧ t.IsAbsent) ∧
      ∀ row : Row, row.length ≠ (joined (first :: others)).length →
        Row.assemble ring outer (entries (first :: others)) row =
          .error (.storage (.joinWidth row.length (joined (first :: others)).length
            ((schemas (first :: others)).map (·.name)))) := by
  have htables : 2 ≤ (first :: others).length := Nat.succ_le_succ (List.length_pos_iff.mpr hothers)
  refine ⟨ofValues_joined _,fun _ _ _ _ => join_selects _,split_joined htables,?_,
    fun _ => decode?_eq_none_iff ring outer,?_⟩
  · rw [Row.assemble, schemas_entries, split_joined htables]
    exact decodeParts_tables ring outer first others
  · intro row hlength
    rw [Row.assemble, schemas_entries, split_of_length_ne htables hlength]
    rfl

end StoredRow

namespace Note

def tag : StoredRow :=
  ⟨⟨⟨"tags",Catalog.typeOf none ⟨"Tag",some "tags",none,true,[]⟩,
      [{ name := "id", fieldName := "id", kind := .integer ⟨true,.four⟩, ordinal := 0 }],false⟩,none⟩,
    [⟨"id",.int 7⟩],rfl⟩

def missing : StoredRow := ⟨entry,[⟨"id",.none⟩,⟨"body",.none⟩,⟨"SaltColumn",.none⟩],rfl⟩

theorem assemble_tag_missing :
    Row.assemble ring true [tag.entry,entry] (tag.row ++ missing.row) =
        .ok [some [("id",.int 7)],none] ∧
      Row.assemble ring true [entry,tag.entry] (missing.row ++ tag.row) =
        .ok [some [("id",.none),("body",.none)],some [("id",.int 7)]] ∧
      Row.assemble ring true [tag.entry,entry] tag.row =
        .error (.storage (.joinWidth 1 4 ["tags","notes"])) := by
  obtain ⟨_,_,_,hfirst,_,hwidth⟩ :=
    StoredRow.assemble_joined ring true tag (List.cons_ne_nil missing [])
  obtain ⟨_,_,_,hsecond,_,_⟩ :=
    StoredRow.assemble_joined ring true missing (List.cons_ne_nil tag [])
  exact ⟨hfirst.trans rfl,hsecond.trans rfl,hwidth tag.row (by decide)⟩

end Note
end SealedRows
