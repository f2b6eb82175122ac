import SealedRows.Proofs.Schema.Columns

/-! # Sound schemas

A declared record type has one field of each name, however it extends other types. The schema that is
built of it has columns of different fields and different storage names, none of which is that of the
salt, and the database neither counts nor fills in an encrypted column.
-/
namespace SealedRows

namespace RecordType

def HasDistinctFields (r : RecordType) : Prop := (r.fields.map (·.name)).Nodup

theorem nodup_withField {fields : List Field} (h : (fields.map (·.name)).Nodup) (f : Field) :
    ((withField fields f).map (·.name)).Nodup := by
  unfold withField
  split
  · have hnames : (fields.map fun g => if g.name = f.name then f else g).map (·.name)
        = fields.map (·.name) := by
      rw [List.map_map]
      refine List.map_congr_left fun g _ => ?_
      by_cases hg : g.name = f.name <;> simp [hg]
    rw [hnames]
    exact h
  · rename_i hnew
    rw [List.map_append, List.map_singleton]
    refine List.nodup_append.mpr ⟨h,List.nodup_singleton _,?_⟩
    intro name hname other hother heq
    rw [List.mem_singleton] at hother
    subst heq hother
    obtain ⟨g,hg,hgname⟩ := List.mem_map.mp hname
    exact hnew (List.any_eq_true.mpr ⟨g,hg,by simp [hgname]⟩)

theorem nodup_foldl_withField {declared fields : List Field} (h : (fields.map (·.name)).Nodup) :
    ((declared.foldl withField fields).map (·.name)).Nodup := by
  induction declared generalizing fields with
  | nil => exact h
  | cons f rest ih => exact ih (nodup_withField h f)

end RecordType

namespace Catalog

theorem typeOf_hasDistinctFields {base : Option RecordType} (d : TypeDeclaration)
    (h : ∀ r, base = some r → r.HasDistinctFields) : (typeOf base d).HasDistinctFields := by
  have hinherited : (((base.map (·.fields)).getD []).map (·.name)).Nodup := by
    cases base with
    | none => exact List.nodup_nil
    | some r => exact h r rfl
  unfold RecordType.HasDistinctFields typeOf
  dsimp only
  split
  · exact RecordType.nodup_foldl_withField hinherited
  · exact hinherited

def NamesColumns (d : TypeDeclaration) : Prop :=
  d.isRecord → ∀ f ∈ d.fields, ∀ c, f.column = some c → c.name ≠ some []

def baseOf? (catalog : Catalog) (d : TypeDeclaration) : Option RecordType := d.base.bind catalog.find?

theorem mem_of_baseOf? {catalog : Catalog} {d : TypeDeclaration} {r : RecordType}
    (h : catalog.baseOf? d = some r) : r ∈ catalog := by
  obtain ⟨name,_,hfind⟩ := Option.bind_eq_some_iff.mp h
  exact List.mem_of_find?_eq_some hfind

/-- A declaration adds the type that it declares, which may extend a type of the catalog. -/
theorem declare_eq_ok {catalog after : Catalog} {d : TypeDeclaration} (h : declare catalog d = .ok after) :
    after = catalog ++ [typeOf (catalog.baseOf? d) d] ∧ NamesColumns d := by
  unfold declare at h
  extract_lets rest at h
  have hlast (base : Option RecordType) (h : rest base = .ok after) :
      after = catalog ++ [typeOf base d] ∧ NamesColumns d := by
    unfold rest at h
    split at h
    · split at h
      · cases h
      · rename_i hnames
        refine ⟨?_,fun _ f hf c hc hempty => hnames ?_⟩
        · split at h
          · cases h
          · cases h
            rfl
        · exact List.any_eq_true.mpr ⟨f,hf,by simp [hc, hempty]⟩
    · rename_i hrecord
      cases h
      exact ⟨rfl,fun h => absurd h hrecord⟩
  split at h
  · next hbase =>
    rw [baseOf?, hbase]
    exact hlast none h
  · next name hbase =>
    split at h
    · next r hfind =>
      rw [baseOf?, hbase, Option.bind_some, hfind]
      exact hlast (some r) h
    · cases h

/-- What every declaration passes on from the type that it extends is true of all declared types. -/
theorem forall_mem_of_declarations {P : RecordType → Prop} {ds : List TypeDeclaration} {catalog : Catalog}
    (h : ofDeclarations ds = .ok catalog)
    (hP : ∀ d ∈ ds, NamesColumns d → ∀ base, (∀ r, base = some r → P r) → P (typeOf base d)) :
    ∀ r ∈ catalog, P r := by
  suffices hall : ∀ before : Catalog, (∀ r ∈ before, P r) → ds.foldlM declare before = .ok catalog →
      ∀ r ∈ catalog, P r from hall [] nofun h
  clear h
  induction ds with
  | nil =>
    intro before hbefore h
    cases h
    exact hbefore
  | cons d ds ih =>
    obtain ⟨hd,hds⟩ := List.forall_mem_cons.mp hP
    intro before hbefore h
    obtain ⟨after,hdeclare,h⟩ := bind_eq_ok.mp h
    refine ih hds after ?_ h
    obtain ⟨rfl,hnames⟩ := declare_eq_ok hdeclare
    intro r hr
    rcases List.mem_append.mp hr with hr | hr
    · exact hbefore r hr
    · cases List.mem_singleton.mp hr
      exact hd hnames _ fun r hr => hbefore r (mem_of_baseOf? hr)

/-- The fields of a declared type have different names. -/
theorem hasDistinctFields_of_mem {ds : List TypeDeclaration} {catalog : Catalog}
    (h : ofDeclarations ds = .ok catalog) {r : RecordType} (hr : r ∈ catalog) : r.HasDistinctFields :=
  forall_mem_of_declarations h (fun d _ _ _ hbase => typeOf_hasDistinctFields d hbase) r hr

end Catalog

namespace Schema

structure Sound (s : Schema) : Prop where
  names_nodup : (s.columns.map (·.name)).Nodup
  fields_nodup : (s.columns.map (·.fieldName)).Nodup
  salt_not_mem : saltColumnName ∉ s.columns.map (·.name)
  hasEncryptedColumns_eq : s.hasEncryptedColumns = s.columns.any (·.isEncrypted)
  /-- Neither a count nor a default stands in for a value of an encrypted column. -/
  encrypted : ∀ c ∈ s.columns, c.isEncrypted → c.isAutoIncrement = false ∧ c.defaultValue = .none

theorem nodup_storageColumnNames (s : Schema) (hnames : (s.columns.map (·.name)).Nodup)
    (hsalt : saltColumnName ∉ s.columns.map (·.name)) : s.storageColumnNames.Nodup := by
  unfold storageColumnNames
  split
  · refine List.nodup_append.mpr ⟨hnames,List.nodup_singleton _,?_⟩
    intro name hname other hother heq
    rw [List.mem_singleton] at hother
    subst heq hother
    exact hsalt hname
  · rw [List.append_nil]
    exact hnames

theorem salt_mem_storageColumnNames_iff (s : Schema) (hsalt : saltColumnName ∉ s.columns.map (·.name)) :
    saltColumnName ∈ s.storageColumnNames ↔ s.hasEncryptedColumns := by
  rw [storageColumnNames, List.mem_append, or_iff_right hsalt]
  split
  · next h => exact iff_of_true (List.mem_singleton_self _) h
  · next h => exact iff_of_false List.not_mem_nil h

namespace Sound
variable {s : Schema} (hs : s.Sound)
include hs

theorem column?_name {c : Column} (hc : c ∈ s.columns) : s.column? c.name = some c :=
  find?_of_nodup hs.names_nodup hc

theorem column?_saltColumnName : s.column? saltColumnName = none := by
  refine List.find?_eq_none.mpr fun c hc hname => ?_
  exact hs.salt_not_mem (List.mem_map.mpr ⟨c,hc,by simpa using hname⟩)

theorem hasEncryptedColumns_of_mem {c : Column} (hc : c ∈ s.columns) (h : c.isEncrypted) :
    s.hasEncryptedColumns := by
  rw [hs.hasEncryptedColumns_eq]
  exact List.any_eq_true.mpr ⟨c,hc,h⟩

theorem nodup_storageColumnNames : s.storageColumnNames.Nodup :=
  s.nodup_storageColumnNames hs.names_nodup hs.salt_not_mem

end Sound

/-- What a column takes over from its field, and what the options of the field may not be. -/
structure IsColumnOf (c : Column) (f : Field) : Prop where
  fieldName_eq : c.fieldName = f.name
  name_ne_salt : c.name ≠ saltColumnName
  encrypted : c.isEncrypted → c.isAutoIncrement = false ∧ c.defaultValue = .none

theorem IsColumnFor.isColumnOf {catalog : Catalog} {hints : List (Text × Hint)} {f : Field} {c : Column}
    (h : IsColumnFor catalog hints f c) : IsColumnOf c f := by
  obtain ⟨kind,reference,_,hoptions,_,hc⟩ := h
  rw [hc]
  exact ⟨rfl,hoptions.name_ne_salt,fun hencrypted => (hoptions.encrypted hencrypted).2⟩

namespace IsSchemaOf
variable {catalog : Catalog} {hints : List (Text × Hint)} {r : RecordType} {s : Schema}
  (h : IsSchemaOf catalog hints r s)
include h

theorem isColumnOf {c : Column} (hc : c ∈ s.columns) : ∃ f, IsColumnOf c f := by
  obtain ⟨f,_,hf⟩ := h.exists_field hc
  exact ⟨f,hf.isColumnOf⟩

theorem fieldNames_sublist : (s.columns.map (·.fieldName)).Sublist (r.fields.map (·.name)) := by
  have hfields : ∀ {fields : List Field} {columns : List Column},
      List.Forall₂ (IsColumnFor catalog hints) fields columns →
      columns.map (·.fieldName) = fields.map (·.name) := by
    intro fields columns hcolumns
    induction hcolumns with
    | nil => rfl
    | cons hc _ ih => rw [List.map_cons, List.map_cons, hc.isColumnOf.fieldName_eq, ih]
  rw [hfields h.columns]
  exact List.filter_sublist.map _

theorem salt_not_mem : saltColumnName ∉ s.columns.map (·.name) := by
  intro hsalt
  obtain ⟨c,hc,hname⟩ := List.mem_map.mp hsalt
  obtain ⟨f,hf⟩ := h.isColumnOf hc
  exact hf.name_ne_salt hname

end IsSchemaOf

theorem sound_of_ofRecordType {catalog : Catalog} {r : RecordType} {s : Schema}
    (hr : r.HasDistinctFields) (h : ofRecordType catalog r = .ok s) : s.Sound := by
  obtain ⟨hints,hs⟩ := exists_isSchemaOf h
  refine ⟨hs.names_nodup,hr.sublist hs.fieldNames_sublist,hs.salt_not_mem,hs.hasEncryptedColumns_eq,?_⟩
  intro c hc
  obtain ⟨f,hf⟩ := hs.isColumnOf hc
  exact hf.encrypted

/-- The types that a schema refers to, in the order of its columns. -/
def references (s : Schema) : List Text := s.foreignKeys.map (·.referencedType)

theorem length_references_le {catalog : Catalog} {r : RecordType} {s : Schema}
    (h : ofRecordType catalog r = .ok s) : s.references.length ≤ r.fields.length := by
  obtain ⟨hints,hs⟩ := exists_isSchemaOf h
  have hlength := hs.fieldNames_sublist.length_le
  rw [List.length_map, List.length_map] at hlength
  rw [references, List.length_map]
  exact Nat.le_trans (List.length_filterMap_le ..) hlength

end Schema
end SealedRows
