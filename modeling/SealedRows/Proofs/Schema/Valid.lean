import SealedRows.Proofs.Schema.Columns
import SealedRows.Proofs.Schema.Sound

/-! # Valid record types

A record type has a schema exactly if it keeps all rules for its fields and those for its columns
together. The schema has one column for each stored field, in the order of the fields and numbered from
zero. A type that breaks a rule is blamed for it, unless the types of a type that it refers to stand for
nothing.
-/
namespace SealedRows.Schema
variable {catalog : Catalog} {r : RecordType} {hints : List (Text × Hint)} {ordinal : Nat}
  {fields : List Field} {columns : List Column}

/-- What a record type must be like to have a schema. -/
structure Valid (catalog : Catalog) (hints : List (Text × Hint)) (r : RecordType) : Prop where
  table : ∃ table, r.table = some table ∧ table ≠ []
  isRecord : r.isRecord
  fields : ∀ f ∈ r.fields, f.options.ignored = false → KeepsRules catalog hints f
  primaryKey : ((storedFields hints r).filter (·.options.primaryKey)).length = 1
  names : ((storedFields hints r).map storageName).Nodup

section
variable (hhints : catalog.hints r = .ok hints)
include hhints

/-- A record type has a schema exactly if it keeps all rules. -/
theorem exists_ofRecordType_iff : (∃ s, ofRecordType catalog r = .ok s) ↔ Valid catalog hints r := by
  simp only [ofRecordType_eq_ok_iff]
  constructor
  · rintro ⟨_,table,_,columns,htable,hne,hrecord,hhints',hcolumns,hcheck,_⟩
    cases hhints.symm.trans hhints'
    obtain ⟨hfields,_⟩ := forall₂_columnsFrom hcolumns
    obtain ⟨hkey,hnames⟩ := checkColumns_eq_ok_iff.mp hcheck
    rw [length_primaryKeys hfields] at hkey
    rw [names_eq_of_forall₂ hfields] at hnames
    exact ⟨⟨table,htable,hne⟩,hrecord,exists_columnsFrom_iff.mp ⟨columns,hcolumns⟩,hkey,hnames⟩
  · rintro ⟨⟨table,htable,hne⟩,hrecord,hrules,hkey,hnames⟩
    obtain ⟨columns,hcolumns⟩ := exists_columnsFrom_iff.mpr hrules
    obtain ⟨hfields,_⟩ := forall₂_columnsFrom hcolumns
    have hcheck : checkColumns table columns = .ok () := by
      rw [checkColumns_eq_ok_iff, length_primaryKeys hfields, names_eq_of_forall₂ hfields]
      exact ⟨hkey,hnames⟩
    exact ⟨_,table,hints,columns,htable,hne,hrecord,hhints,hcolumns,hcheck,rfl⟩

theorem blames_ofRecordType :
    Blames (∃ f ∈ r.fields, LeadsAstray catalog hints f) (ofRecordType catalog r) := by
  have hstep : hintsOf catalog r = .ok hints := hintsOf_eq_ok.mpr hhints
  unfold ofRecordType
  split
  · exact blames_error rfl
  · refine blames_guard rfl fun _ => blames_guard rfl fun _ => ?_
    rw [hstep]
    refine (blames_ok _).bind fun hints' h => ?_
    cases h
    exact blames_columnsFrom.bind fun columns _ => blames_checkColumns.bind fun _ _ => blames_ok _

/-- A record type whose own types stand for something has a schema exactly if it keeps all rules, and is
blamed otherwise, unless it leads to a type whose types stand for nothing. The schema has the columns of
the stored fields, numbered in the order of the fields, and a salt exactly if one of them is encrypted. -/
theorem ofRecordType_exact :
    ((∃ s, ofRecordType catalog r = .ok s) ↔ Valid catalog hints r) ∧
      (∀ fault, ofRecordType catalog r = .error fault →
        fault.isSchemaError ∨ ∃ f ∈ r.fields, LeadsAstray catalog hints f) ∧
      ∀ s, ofRecordType catalog r = .ok s → r.table = some s.name ∧ s.record = r ∧
        List.Forall₂ (IsColumnFor catalog hints) (storedFields hints r) s.columns ∧
        s.columns.map (·.ordinal) = (List.range s.columns.length).map Nat.cast ∧
        (s.hasEncryptedColumns ↔ ∃ c ∈ s.columns, c.isEncrypted) ∧
        (saltColumnName ∈ s.storageColumnNames ↔ s.hasEncryptedColumns) ∧
        s.storageColumnNames.Nodup ∧ s.storageColumnNames.length = s.columnCount := by
  refine ⟨exists_ofRecordType_iff hhints,fun fault h => ?_,fun s h => ?_⟩
  · exact (blames_ofRecordType hhints fault h).imp_right (·.2)
  · obtain ⟨_,hs⟩ := exists_isSchemaOf h
    cases hhints.symm.trans hs.hints_eq
    refine ⟨hs.table,hs.record_eq,hs.columns,hs.ordinals,?_,?_,
      s.nodup_storageColumnNames hs.names_nodup hs.salt_not_mem,s.length_storageColumnNames⟩
    · rw [hs.hasEncryptedColumns_eq, List.any_eq_true]
    · exact s.salt_mem_storageColumnNames_iff hs.salt_not_mem

end

end SealedRows.Schema

namespace SealedRows.Flower
open Schema

/-- A primary key of a written type. -/
def key (written : Text) : FieldDeclaration :=
  ⟨"id",written,some { ColumnOptions.plain with primaryKey := true },.required,true⟩

def visits : FieldDeclaration := ⟨"visits",.applied "list" [.quoted (.named "Flower")],none,.emptyList,true⟩

def odd : FieldDeclaration := ⟨"odd","Missing",none,.value .none,true⟩

def bee (fields : List FieldDeclaration) : RecordType :=
  Catalog.typeOf none ⟨"Bee",some "bees",none,true,fields⟩

def flower : RecordType :=
  Catalog.typeOf none ⟨"Flower",some "flowers",none,true,
    [key "int", ⟨"bee_id","int",some { ColumnOptions.plain with foreignKey := some ⟨"bee",true⟩ },
      .required,true⟩, ⟨"bee","Bee",none,.value .none,true⟩]⟩

def catalog (fields : List FieldDeclaration) : Catalog := [bee fields, flower]

def hints : List (Text × Hint) :=
  [("id",.one .int), ("bee_id",.one .int), ("bee",.one (.record "Bee"))]

theorem exact_flower : (catalog [key "int", visits]).hints flower = .ok hints ∧
    Valid (catalog [key "int", visits]) hints flower ∧
      ∃ s, ofRecordType (catalog [key "int", visits]) flower = .ok s ∧ s.storageColumnNames.Nodup := by
  have hhints : (catalog [key "int", visits]).hints flower = .ok hints := rfl
  obtain ⟨s,hs⟩ : ∃ s, ofRecordType (catalog [key "int", visits]) flower = .ok s := ⟨_,rfl⟩
  obtain ⟨hvalid,_,hschema⟩ := ofRecordType_exact hhints
  obtain ⟨_,_,_,_,_,_,hnodup,_⟩ := hschema s hs
  exact ⟨hhints,hvalid.mp ⟨s,hs⟩,s,hs,hnodup⟩

/-- A flower whose own types stand for something is neither stored nor blamed if the type of the bee's
key stands for nothing. Nor is it stored if any other type of the bee's fields does, although the key that
it refers to is the same. -/
theorem not_exact : (catalog [key "None | None"]).hints flower = .ok hints ∧
    ¬((∃ s, ofRecordType (catalog [key "None | None"]) flower = .ok s) ∨
      ∃ fault, ofRecordType (catalog [key "None | None"]) flower = .error fault ∧ fault.isSchemaError) ∧
    (catalog [key "int", odd]).hints flower = .ok hints ∧
    keyField? (bee [key "int", odd]) = keyField? (bee [key "int"]) ∧
    ¬((∃ s, ofRecordType (catalog [key "int", odd]) flower = .ok s) ↔
      ∃ s, ofRecordType (catalog [key "int"]) flower = .ok s) := by
  have hastray : ofRecordType (catalog [key "None | None"]) flower = .error (.general .wrongType) :=
    faultOf_eq_some.mp (by decide +kernel)
  have hodd : ofRecordType (catalog [key "int", odd]) flower = .error (.unresolvedHints "bees") := rfl
  refine ⟨rfl,?_,rfl,rfl,fun h => ?_⟩
  · rintro (⟨s,h⟩ | ⟨fault,h,hfault⟩)
    · cases hastray.symm.trans h
    · cases hastray.symm.trans h
      cases hfault
  · obtain ⟨s,hs⟩ := h.mpr ⟨_,rfl⟩
    cases hodd.symm.trans hs

end SealedRows.Flower
