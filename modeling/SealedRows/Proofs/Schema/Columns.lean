import SealedRows.Proofs.Lookup
import SealedRows.Proofs.Schema.Rules

/-! # Columns of record types

The columns of a record type are those of its stored fields, in the order of the fields and numbered from
zero. A schema that is built of the type has exactly these columns, one of them is the primary key, and no
two have one name.
-/
namespace SealedRows.Schema
variable {catalog : Catalog} {r : RecordType} {hints : List (Text × Hint)} {ordinal : Nat}
  {fields : List Field} {columns : List Column} {s : Schema}

/-- The fields that make columns. -/
def storedFields (hints : List (Text × Hint)) (r : RecordType) : List Field :=
  r.fields.filter (isStored hints)

theorem exists_columnsFrom_iff : (∃ columns, columnsFrom catalog r hints ordinal fields = .ok columns) ↔
    ∀ f ∈ fields, f.options.ignored = false → KeepsRules catalog hints f := by
  induction fields generalizing ordinal with
  | nil => exact iff_of_true ⟨[],rfl⟩ (List.forall_mem_nil _)
  | cons f rest ih =>
    have hone : (∃ column, columnOf catalog r hints ordinal f = .ok column) ↔ _ := exists_columnOf_iff
    rw [List.forall_mem_cons, ← hone]
    constructor
    · rintro ⟨columns,h⟩
      obtain ⟨column,hcolumn,h⟩ := bind_eq_ok.mp h
      refine ⟨⟨column,hcolumn⟩,?_⟩
      cases column with
      | none => exact ih.mp ⟨columns,h⟩
      | some c =>
        obtain ⟨others,hothers,_⟩ := bind_eq_ok.mp h
        exact ih.mp ⟨others,hothers⟩
    · rintro ⟨⟨column,hcolumn⟩,hrest⟩
      cases column with
      | none =>
        obtain ⟨columns,hcolumns⟩ := ih.mpr hrest
        exact ⟨columns,bind_eq_ok.mpr ⟨none,hcolumn,hcolumns⟩⟩
      | some c =>
        obtain ⟨others,hothers⟩ := ih.mpr hrest
        exact ⟨c :: others,bind_eq_ok.mpr ⟨some c,hcolumn,bind_eq_ok.mpr ⟨others,hothers,rfl⟩⟩⟩

/-- The columns are those of the stored fields, in their order and numbered one after the other. -/
theorem forall₂_columnsFrom (h : columnsFrom catalog r hints ordinal fields = .ok columns) :
    List.Forall₂ (IsColumnFor catalog hints) (fields.filter (isStored hints)) columns ∧
      columns.map (·.ordinal) = (List.range' ordinal columns.length).map Nat.cast := by
  induction fields generalizing ordinal columns with
  | nil =>
    cases h
    exact ⟨.nil,rfl⟩
  | cons f rest ih =>
    obtain ⟨column,hcolumn,h⟩ := bind_eq_ok.mp h
    cases column with
    | none =>
      rw [List.filter_cons_of_neg (by rw [isStored_of_eq_none hcolumn]; nofun)]
      exact ih h
    | some c =>
      obtain ⟨others,hothers,h⟩ := bind_eq_ok.mp h
      cases h
      obtain ⟨hfields,hordinals⟩ := ih hothers
      obtain ⟨_,hordinal,hc⟩ := columnOf_eq_some_iff.mp hcolumn
      rw [List.filter_cons_of_pos (isStored_of_eq_some hcolumn)]
      refine ⟨.cons hc hfields,?_⟩
      rw [List.map_cons, List.length_cons, List.range'_succ, List.map_cons, hordinal, hordinals]

theorem blames_columnsFrom : Blames (∃ f ∈ fields, LeadsAstray catalog hints f)
    (columnsFrom catalog r hints ordinal fields) := by
  induction fields generalizing ordinal with
  | nil => exact blames_ok _
  | cons f rest ih =>
    have hrest (ordinal : Nat) : Blames (∃ g ∈ f :: rest, LeadsAstray catalog hints g)
        (columnsFrom catalog r hints ordinal rest) :=
      ih.mono fun ⟨g,hg,hastray⟩ => ⟨g,List.mem_cons_of_mem _ hg,hastray⟩
    refine (blames_columnOf.mono fun hastray => ⟨f,List.mem_cons_self ..,hastray⟩).bind ?_
    intro column _
    cases column with
    | none => exact hrest ordinal
    | some c => exact (hrest (ordinal + 1)).bind fun others _ => blames_ok _

theorem IsColumnFor.name_eq {f : Field} {c : Column} (h : IsColumnFor catalog hints f c) :
    c.name = storageName f := by
  obtain ⟨_,_,_,_,_,hc⟩ := h
  rw [hc, columnAt]

theorem IsColumnFor.isPrimaryKey_eq {f : Field} {c : Column} (h : IsColumnFor catalog hints f c) :
    c.isPrimaryKey = f.options.primaryKey := by
  obtain ⟨_,_,_,_,_,hc⟩ := h
  rw [hc, columnAt]

theorem names_eq_of_forall₂ (h : List.Forall₂ (IsColumnFor catalog hints) fields columns) :
    columns.map (·.name) = fields.map storageName := by
  induction h with
  | nil => rfl
  | cons hc _ ih => rw [List.map_cons, List.map_cons, hc.name_eq, ih]

theorem length_primaryKeys (h : List.Forall₂ (IsColumnFor catalog hints) fields columns) :
    (columns.filter (·.isPrimaryKey)).length = (fields.filter (·.options.primaryKey)).length := by
  induction h with
  | nil => rfl
  | @cons f c _ _ hc _ ih =>
    rw [List.filter_cons, List.filter_cons, hc.isPrimaryKey_eq]
    split
    · rw [List.length_cons, List.length_cons, ih]
    · exact ih

theorem firstRepeated?_eq_none_iff {seen names : List Text} :
    firstRepeated? seen names = none ↔ names.Nodup ∧ ∀ name ∈ names, name ∉ seen := by
  induction names generalizing seen with
  | nil => exact iff_of_true rfl ⟨List.nodup_nil,List.forall_mem_nil _⟩
  | cons name rest ih =>
    rw [firstRepeated?, List.nodup_cons, List.forall_mem_cons]
    by_cases hseen : name ∈ seen
    · rw [if_pos (by simpa using hseen)]
      exact iff_of_false nofun fun h => h.2.1 hseen
    · rw [if_neg (by simpa using hseen), ih]
      constructor
      · rintro ⟨hrest,hnew⟩
        refine ⟨⟨fun hname => hnew name hname (List.mem_cons_self ..),hrest⟩,hseen,?_⟩
        exact fun other hother hmem => hnew other hother (List.mem_cons_of_mem _ hmem)
      · rintro ⟨⟨hname,hrest⟩,_,hnew⟩
        refine ⟨hrest,fun other hother hmem => ?_⟩
        rcases List.mem_cons.mp hmem with rfl | hmem
        · exact hname hother
        · exact hnew other hother hmem

theorem checkColumns_eq_ok_iff {table : Text} :
    checkColumns table columns = .ok () ↔
      (columns.filter (·.isPrimaryKey)).length = 1 ∧ (columns.map (·.name)).Nodup := by
  have hnames : firstRepeated? [] (columns.map (·.name)) = none ↔ _ := firstRepeated?_eq_none_iff
  unfold checkColumns
  split
  · next hnone => exact iff_of_false nofun (by rw [hnone]; nofun)
  · next c hone =>
    rw [hone, and_iff_right List.length_singleton]
    split
    · next name hrepeated =>
      refine iff_of_false nofun fun hnodup => ?_
      cases hrepeated.symm.trans (hnames.mpr ⟨hnodup,fun _ _ => List.not_mem_nil⟩)
    · next hrepeated => exact iff_of_true rfl (hnames.mp hrepeated).1
  · next hnone hmany =>
    refine iff_of_false nofun fun ⟨hlength,_⟩ => ?_
    obtain ⟨c,hc⟩ := List.length_eq_one_iff.mp hlength
    exact hmany c hc

theorem blames_checkColumns {table : Text} {astray : Prop} :
    Blames astray (checkColumns table columns) := by
  unfold checkColumns
  split
  · exact blames_error rfl
  · split
    · exact blames_error rfl
    · exact blames_ok _
  · exact blames_error rfl

structure IsSchemaOf (catalog : Catalog) (hints : List (Text × Hint)) (r : RecordType) (s : Schema) :
    Prop where
  table : r.table = some s.name
  record_eq : s.record = r
  hints_eq : catalog.hints r = .ok hints
  rules : ∀ f ∈ r.fields, f.options.ignored = false → KeepsRules catalog hints f
  columns : List.Forall₂ (IsColumnFor catalog hints) (storedFields hints r) s.columns
  ordinals : s.columns.map (·.ordinal) = (List.range s.columns.length).map Nat.cast
  primaryKey : (s.columns.filter (·.isPrimaryKey)).length = 1
  names_nodup : (s.columns.map (·.name)).Nodup
  hasEncryptedColumns_eq : s.hasEncryptedColumns = s.columns.any (·.isEncrypted)

/-- A schema is made of the columns of the fields of its type, which have been checked together. -/
theorem ofRecordType_eq_ok_iff : ofRecordType catalog r = .ok s ↔
    ∃ table hints columns, r.table = some table ∧ table ≠ [] ∧ r.isRecord ∧
      catalog.hints r = .ok hints ∧ columnsFrom catalog r hints 0 r.fields = .ok columns ∧
      checkColumns table columns = .ok () ∧ s = ⟨table,r,columns,columns.any (·.isEncrypted)⟩ := by
  unfold ofRecordType
  split
  · next hnone => exact iff_of_false nofun fun ⟨_,_,_,hsome,_⟩ => by cases hnone.symm.trans hsome
  · next table htable =>
    simp only [guard_eq_ok, List.isEmpty_iff, Bool.not_eq_true', Bool.not_eq_false, bind_eq_ok]
    constructor
    · rintro ⟨hne,hrecord,hints,hhints,columns,hcolumns,_,hcheck,⟨⟩⟩
      exact ⟨table,hints,columns,htable,hne,hrecord,hintsOf_eq_ok.mp hhints,hcolumns,hcheck,rfl⟩
    · rintro ⟨_,hints,columns,htable',hne,hrecord,hhints,hcolumns,hcheck,rfl⟩
      cases htable.symm.trans htable'
      exact ⟨hne,hrecord,hints,hintsOf_eq_ok.mpr hhints,columns,hcolumns,(),hcheck,rfl⟩

theorem exists_isSchemaOf (h : ofRecordType catalog r = .ok s) : ∃ hints, IsSchemaOf catalog hints r s := by
  obtain ⟨table,hints,columns,htable,_,_,hhints,hcolumns,hcheck,rfl⟩ := ofRecordType_eq_ok_iff.mp h
  obtain ⟨hfields,hordinals⟩ := forall₂_columnsFrom hcolumns
  obtain ⟨hkey,hnames⟩ := checkColumns_eq_ok_iff.mp hcheck
  rw [← List.range_eq_range'] at hordinals
  exact ⟨hints,htable,rfl,hhints,exists_columnsFrom_iff.mp ⟨columns,hcolumns⟩,hfields,hordinals,hkey,
    hnames,rfl⟩

/-- The first of the columns that is a primary key is the one of the first of the fields. -/
theorem exists_find?_primaryKey (h : List.Forall₂ (IsColumnFor catalog hints) fields columns)
    (hone : (columns.filter (·.isPrimaryKey)).length = 1) : ∃ key c,
      fields.find? (·.options.primaryKey) = some key ∧ columns.find? (·.isPrimaryKey) = some c ∧
        IsColumnFor catalog hints key c := by
  induction h with
  | nil => cases hone
  | @cons f c fields columns hc _ ih =>
    cases hkey : c.isPrimaryKey with
    | true => exact ⟨f,c,List.find?_cons_of_pos (hc.isPrimaryKey_eq ▸ hkey),List.find?_cons_of_pos hkey,hc⟩
    | false =>
      rw [List.filter_cons_of_neg (by rw [hkey]; nofun)] at hone
      rw [List.find?_cons, List.find?_cons, ← hc.isPrimaryKey_eq, hkey]
      exact ih hone

namespace IsSchemaOf
variable (h : IsSchemaOf catalog hints r s)
include h

theorem exists_field {c : Column} (hc : c ∈ s.columns) : ∃ f ∈ r.fields, IsColumnFor catalog hints f c := by
  obtain ⟨f,hf,hcolumn⟩ := exists_of_forall₂ h.columns.flip hc
  exact ⟨f,List.mem_of_mem_filter hf,hcolumn⟩

theorem name_eq : s.name = r.tableName := by
  rw [RecordType.tableName, h.table]
  rfl

/-- No field that is a primary key is left out, so the first of them is the first among the stored ones. -/
theorem keyField?_eq : keyField? r = (storedFields hints r).find? (·.options.primaryKey) := by
  rw [keyField?, storedFields, ← List.head?_filter, ← List.head?_filter, List.filter_filter]
  refine congrArg _ (List.filter_congr fun f hf => ?_)
  cases hkey : f.options.primaryKey with
  | false => rfl
  | true =>
    cases hignored : f.options.ignored with
    | true => simp [isStored, hignored]
    | false =>
      cases hkind : kindOf? hints f with
      | none => cases hkey.symm.trans ((h.rules f hf hignored).unstored hkind).2.1
      | some kind => simp [isStored, hignored, hkind]

/-- The primary key is the column of the first field that is declared as such. -/
theorem exists_primaryKey : ∃ key c, keyField? r = some key ∧ s.columns.find? (·.isPrimaryKey) = some c ∧
    IsColumnFor catalog hints key c := by
  rw [h.keyField?_eq]
  exact exists_find?_primaryKey h.columns h.primaryKey

end IsSchemaOf

end SealedRows.Schema
