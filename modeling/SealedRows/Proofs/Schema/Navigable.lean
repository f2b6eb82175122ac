import SealedRows.Proofs.Schema.History

/-! # Schemas that refer to each other

A foreign key names the table of a declared type and the column of its primary key. Schemas that refer
only to each other can be navigated if their tables and their navigation fields can be told apart; the
registered schemas are such if every type that they refer to is registered.
-/
namespace SealedRows

namespace Schema
variable {catalog : Catalog} {r : RecordType} {hints : List (Text × Hint)}

/-- Whether a foreign key refers to the primary key of a declared type. -/
def Refers (catalog : Catalog) (k : ForeignKey) : Prop :=
  ∃ referenced keyKind, catalog.find? k.referencedType = some referenced ∧
    referenced.tableName = k.referencedTable ∧
    primaryKeyOf catalog referenced = .ok (some (k.referencedColumn,keyKind))

theorem Declares.refers {f : Field} {kind : ValueKind} {k : ForeignKey}
    (h : Declares catalog hints f kind (some k)) : k.fieldName = f.name ∧ Refers catalog k := by
  cases h with
  | reference _ _ _ hleads hkey =>
    obtain ⟨hfield,l,hkind,_⟩ := hkey
    exact ⟨rfl,_,some (.integer l),hleads.declared,rfl,primaryKeyOf_eq_some_iff.mpr ⟨_,hfield,rfl,hkind⟩⟩

theorem IsColumnFor.refers {f : Field} {c : Column} (h : IsColumnFor catalog hints f c) {k : ForeignKey}
    (hk : c.foreignKey = some k) : k.fieldName = c.fieldName ∧ Refers catalog k := by
  obtain ⟨kind,reference,_,_,hdeclares,hc⟩ := h
  rw [hc] at hk ⊢
  cases hk
  exact hdeclares.refers

theorem storageName_of_primaryKeyOf {column : Text} {kind : Option ValueKind}
    (h : primaryKeyOf catalog r = .ok (some (column,kind))) : (keyField? r).map storageName = some column := by
  unfold primaryKeyOf at h
  rw [← keyField?] at h
  split at h
  · cases h
  · next key hkey =>
    rw [hkey]
    split at h
    · cases h
      rfl
    · obtain ⟨_,_,h⟩ := bind_eq_ok.mp h
      cases h
      rfl

theorem foreignKey_of_schemaOf {typeName : Text} {s : Schema}
    (h : catalog.schemaOf typeName = .ok s) {k : ForeignKey} (hk : k ∈ s.foreignKeys) :
    (∃ c ∈ s.columns, c.foreignKey = some k ∧ c.fieldName = k.fieldName) ∧ Refers catalog k := by
  obtain ⟨r,_,hr⟩ := Catalog.schemaOf_eq_ok.mp h
  obtain ⟨hints,hs⟩ := exists_isSchemaOf hr
  obtain ⟨c,hc,hck⟩ := List.mem_filterMap.mp hk
  obtain ⟨f,_,hf⟩ := hs.exists_field hc
  obtain ⟨hfield,hrefers⟩ := hf.refers hck
  exact ⟨⟨c,hc,hck,hfield.symm⟩,hrefers⟩

/-- A foreign key names the table and the primary key of the schema of its type. -/
theorem Refers.target {k : ForeignKey} (hk : Refers catalog k) {t : Schema}
    (ht : catalog.schemaOf k.referencedType = .ok t) :
    t.name = k.referencedTable ∧ ∃ c, t.primaryKey = .ok c ∧ c ∈ t.columns ∧ c.isPrimaryKey ∧
      c.name = k.referencedColumn := by
  obtain ⟨referenced,keyKind,hfind,htable,hkey⟩ := hk
  obtain ⟨r,hfind',hr⟩ := Catalog.schemaOf_eq_ok.mp ht
  cases hfind.symm.trans hfind'
  obtain ⟨hints,hs⟩ := exists_isSchemaOf hr
  obtain ⟨key,c,hfirst,hc,hcolumn⟩ := hs.exists_primaryKey
  have hname := storageName_of_primaryKeyOf hkey
  rw [hfirst, Option.map_some, Option.some.injEq, ← hcolumn.name_eq] at hname
  refine ⟨hs.name_eq.trans htable,c,?_,List.mem_of_find?_eq_some hc,
    by simpa using List.find?_some hc,hname⟩
  rw [primaryKey, hc]

end Schema
theorem Registry.mem_of_schemaFor {catalog : Catalog} {registry : Registry} {typeName : Text}
    {s : Schema} (h : (registry.schemaFor catalog typeName).1 = .ok s) :
    ∃ e ∈ (registry.schemaFor catalog typeName).2, e.typeName = typeName ∧ e.schema = s := by
  unfold schemaFor at h ⊢
  generalize register catalog (fuelFor catalog) registry typeName = result at h ⊢
  rcases result with ⟨_ | _,after⟩
  · cases h
  · dsimp only at h ⊢
    cases hfind : find? after typeName with
    | none =>
      rw [hfind] at h
      cases h
    | some e =>
      rw [hfind] at h
      cases h
      exact ⟨e,List.mem_of_find?_eq_some hfind,by simpa using List.find?_some hfind,rfl⟩

/-- Schemas of declared types that refer only to each other. Each has a table of its own, and what a
foreign key leads to is kept in a field of its own, which is not stored. -/
structure Navigable (catalog : Catalog) (schemas : List Schema) : Prop where
  declarations : ∃ ds, Catalog.ofDeclarations ds = .ok catalog
  declared : ∀ s ∈ schemas, catalog.schemaOf s.record.name = .ok s
  closed : ∀ s ∈ schemas, ∀ k ∈ s.foreignKeys, ∃ t ∈ schemas, t.record.name = k.referencedType
  tables_nodup : (schemas.map (·.name)).Nodup
  navigation_nodup : ∀ s ∈ schemas, (s.foreignKeys.map (·.navigationField)).Nodup
  navigation_not_stored : ∀ s ∈ schemas, ∀ k ∈ s.foreignKeys, ∀ c ∈ s.columns,
    k.navigationField ≠ c.fieldName

namespace Navigable
variable {catalog : Catalog} {schemas : List Schema} (h : Navigable catalog schemas)
include h

theorem sound {s : Schema} (hs : s ∈ schemas) : s.Sound := by
  obtain ⟨ds,hds⟩ := h.declarations
  obtain ⟨r,hr,hbuilt⟩ := Catalog.schemaOf_eq_ok.mp (h.declared s hs)
  exact Schema.sound_of_ofRecordType
    (Catalog.hasDistinctFields_of_mem hds (List.mem_of_find?_eq_some hr)) hbuilt

theorem primaryKey {s : Schema} (hs : s ∈ schemas) : ∃ c ∈ s.columns, s.primaryKey = .ok c := by
  obtain ⟨r,_,hbuilt⟩ := Catalog.schemaOf_eq_ok.mp (h.declared s hs)
  obtain ⟨hints,hschema⟩ := Schema.exists_isSchemaOf hbuilt
  obtain ⟨_,c,_,hc,_⟩ := hschema.exists_primaryKey
  refine ⟨c,List.mem_of_find?_eq_some hc,?_⟩
  rw [Schema.primaryKey, hc]

theorem eq_of_type {s t : Schema} (hs : s ∈ schemas) (ht : t ∈ schemas)
    (hname : s.record.name = t.record.name) : s = t := by
  have hdeclared := h.declared s hs
  rw [hname, h.declared t ht] at hdeclared
  cases hdeclared
  rfl

theorem eq_of_table {s t : Schema} (hs : s ∈ schemas) (ht : t ∈ schemas) (hname : s.name = t.name) :
    s = t :=
  List.inj_on_of_nodup_map h.tables_nodup hs ht hname

theorem target {s : Schema} (hs : s ∈ schemas) {k : ForeignKey} (hk : k ∈ s.foreignKeys) :
    ∃ t ∈ schemas, t.record.name = k.referencedType ∧ t.name = k.referencedTable ∧
      ∃ c ∈ t.columns, t.primaryKey = .ok c ∧ c.name = k.referencedColumn := by
  obtain ⟨t,ht,htype⟩ := h.closed s hs k hk
  obtain ⟨_,hrefers⟩ := Schema.foreignKey_of_schemaOf (h.declared s hs) hk
  obtain ⟨htable,c,hkey,hc,_,hname⟩ := hrefers.target (htype ▸ h.declared t ht)
  exact ⟨t,ht,htype,htable,c,hc,hkey,hname⟩

theorem fault_eq_none {registry after : Registry} {typeNames : List Text} {fault : Option SchemaFault}
    (hrun : Registry.Registers catalog registry typeNames fault after)
    (hnames : ∀ typeName ∈ typeNames, ∃ s ∈ schemas, s.record.name = typeName) : fault = none := by
  induction hrun with
  | nil => rfl
  | known _ _ ih => exact ih fun typeName hmem => hnames typeName (List.mem_cons_of_mem _ hmem)
  | @unbuilt _ typeName _ fault _ hfault =>
    obtain ⟨s,hs,rfl⟩ := hnames typeName (List.mem_cons_self ..)
    cases hfault.symm.trans (h.declared s hs)
  | done _ _ _ _ _ ih => exact ih fun typeName hmem => hnames typeName (List.mem_cons_of_mem _ hmem)
  | @undone _ _ typeName _ s _ _ hs _ ih =>
    obtain ⟨t,ht,rfl⟩ := hnames typeName (List.mem_cons_self ..)
    cases hs.symm.trans (h.declared t ht)
    refine absurd (ih fun other hother => ?_) (Option.some_ne_none _)
    obtain ⟨k,hk,rfl⟩ := List.mem_map.mp hother
    exact h.closed s ht k hk

/-- Whatever is registered already, the schema of such a type is given. -/
theorem schemaFor_eq_ok {registry : Registry} (hbuilt : Registry.Built catalog registry) {s : Schema}
    (hs : s ∈ schemas) : (registry.schemaFor catalog s.record.name).1 = .ok s ∧
      Registry.Built catalog (registry.schemaFor catalog s.record.name).2 := by
  have hrun := Registry.registers_schemaFor catalog registry s.record.name
  have hafter := hrun.built hbuilt
  obtain ⟨t,ht⟩ := faultOf_eq_none.mp (h.fault_eq_none hrun fun typeName hmem =>
    ⟨s,hs,(List.mem_singleton.mp hmem).symm⟩)
  obtain ⟨e,he,hname,rfl⟩ := Registry.mem_of_schemaFor ht
  have hdeclared := hafter e he
  rw [hname, h.declared s hs] at hdeclared
  cases hdeclared
  exact ⟨ht,hafter⟩

omit h in
/-- The schemas of a closed registry whose tables and navigation fields can be told apart. -/
theorem of_closed {ds : List TypeDeclaration} (hcatalog : Catalog.ofDeclarations ds = .ok catalog)
    {registry : Registry} (hregistry : registry.Reached catalog) (hclosed : registry.Closed)
    (htables : (registry.map (·.schema.name)).Nodup)
    (hnavigation : ∀ e ∈ registry, (e.schema.foreignKeys.map (·.navigationField)).Nodup ∧
      ∀ k ∈ e.schema.foreignKeys, ∀ c ∈ e.schema.columns, k.navigationField ≠ c.fieldName) :
    Navigable catalog (registry.map (·.schema)) where
  declarations := ⟨ds,hcatalog⟩
  declared := by
    intro s hs
    obtain ⟨e,he,rfl⟩ := List.mem_map.mp hs
    exact hregistry.built e he
  closed := by
    intro s hs k hk
    obtain ⟨e,he,rfl⟩ := List.mem_map.mp hs
    obtain ⟨d,hd,hname⟩ := List.mem_map.mp (Registry.find?_isSome.mp (hclosed e he k hk))
    exact ⟨d.schema,List.mem_map_of_mem hd,hname⟩
  tables_nodup := by
    rw [List.map_map]
    exact htables
  navigation_nodup := by
    intro s hs
    obtain ⟨e,he,rfl⟩ := List.mem_map.mp hs
    exact (hnavigation e he).1
  navigation_not_stored := by
    intro s hs
    obtain ⟨e,he,rfl⟩ := List.mem_map.mp hs
    exact (hnavigation e he).2

end Navigable
end SealedRows
