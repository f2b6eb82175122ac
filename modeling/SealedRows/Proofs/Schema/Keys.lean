import SealedRows.Proofs.Schema.Navigable

/-! # Kinds of keys

A column that refers to another table holds integers of 16 or 32 bits, and the primary key that it
refers to holds integers of at most 32 bits; the two need not have the same range. Neither of them is
encrypted.
-/
namespace SealedRows.Schema
variable {catalog : Catalog} {r : RecordType} {hints : List (Text × Hint)} {ordinal : Nat} {f : Field}
  {c : Column} {k : ForeignKey}

/-- Whether the primary key of the type that a foreign key refers to has a kind that can be referred
to. -/
def RefersToInteger (catalog : Catalog) (k : ForeignKey) : Prop :=
  ∃ referenced keyKind, catalog.find? k.referencedType = some referenced ∧
    primaryKeyOf catalog referenced = .ok (some (k.referencedColumn,some keyKind)) ∧
      keyKind.canBeReferred

structure IsKeyColumn (catalog : Catalog) (c : Column) : Prop where
  primary : c.isPrimaryKey → c.isEncrypted = false
  foreign : ∀ k, c.foreignKey = some k →
    c.isEncrypted = false ∧ c.kind.canRefer ∧ RefersToInteger catalog k

theorem Declares.allows {kind : ValueKind} (h : Declares catalog hints f kind (some k)) :
    f.options.encrypted = false ∧ kind.canRefer ∧ RefersToInteger catalog k := by
  cases h with
  | reference _ hallows hkind hleads hkey =>
    obtain ⟨hfield,l,hhas,hl⟩ := hkey
    exact ⟨hallows.encrypted,ValueKind.canRefer_iff.mpr hkind,_,.integer l,hleads.declared,
      primaryKeyOf_eq_some_iff.mpr ⟨_,hfield,rfl,hhas⟩,ValueKind.canBeReferred_iff.mpr ⟨l,rfl,hl⟩⟩

theorem IsColumnFor.isKeyColumn (h : IsColumnFor catalog hints f c) :
    kindOf? hints f = some c.kind ∧ IsKeyColumn catalog c := by
  obtain ⟨kind,reference,hkind,hoptions,hdeclares,hc⟩ := h
  rw [hc]
  refine ⟨hkind,fun hprimary => ?_,?_⟩
  · by_contra hencrypted
    obtain ⟨hplain,_⟩ := hoptions.encrypted (Bool.not_eq_false _ ▸ hencrypted)
    cases hplain.symm.trans hprimary
  · rintro k ⟨⟩
    exact hdeclares.allows

/-- With its own types a record type finds the kind of its primary key as others do. -/
theorem HasKind.kindOf?_eq {kind : ValueKind} (h : HasKind catalog r f kind)
    (hhints : catalog.hints r = .ok hints) : kindOf? hints f = some kind := by
  cases h with
  | declared hkind =>
    rw [kindOf?, hkind]
    rfl
  | written _ hhints' hkind =>
    cases hhints.symm.trans hhints'
    exact hkind

theorem isKeyColumn_of_schemaOf {typeName : Text} {s : Schema} (h : catalog.schemaOf typeName = .ok s)
    (hc : c ∈ s.columns) : IsKeyColumn catalog c := by
  obtain ⟨_,_,hr⟩ := Catalog.schemaOf_eq_ok.mp h
  obtain ⟨_,hs⟩ := exists_isSchemaOf hr
  obtain ⟨f,_,hf⟩ := hs.exists_field hc
  exact hf.isKeyColumn.2

/-- A foreign key leads to a plain integer column of at most 32 bits. -/
theorem RefersToInteger.target (hk : RefersToInteger catalog k) (hrefers : Refers catalog k)
    {t : Schema} (ht : catalog.schemaOf k.referencedType = .ok t) :
    t.name = k.referencedTable ∧ ∃ c ∈ t.columns, t.primaryKey = .ok c ∧ c.name = k.referencedColumn ∧
      c.isEncrypted = false ∧ c.kind.canBeReferred := by
  obtain ⟨htable,c,hprimary,hc,hkey,hname⟩ := hrefers.target ht
  refine ⟨htable,c,hc,hprimary,hname,(isKeyColumn_of_schemaOf ht hc).primary hkey,?_⟩
  obtain ⟨referenced,keyKind,hfind,hkey,hcan⟩ := hk
  obtain ⟨r,hfind',hr⟩ := Catalog.schemaOf_eq_ok.mp ht
  cases hfind.symm.trans hfind'
  obtain ⟨hints,hs⟩ := exists_isSchemaOf hr
  obtain ⟨key,d,hfirst,hd,hcolumn⟩ := hs.exists_primaryKey
  obtain ⟨_,hfirst',_,hkind⟩ := primaryKeyOf_eq_some_iff.mp hkey
  cases hfirst.symm.trans hfirst'
  rw [primaryKey, hd] at hprimary
  cases hprimary
  cases hcolumn.isKeyColumn.1.symm.trans (hkind.kindOf?_eq hs.hints_eq)
  exact hcan

end SealedRows.Schema

/-- The schema that a registry gives for a record type is the one that the type declares. -/
theorem SealedRows.Registry.Built.schemaFor {catalog : Catalog} {registry : Registry}
    (h : Built catalog registry) (typeName : Text) :
    Built catalog (registry.schemaFor catalog typeName).2 ∧
      ∀ s, (registry.schemaFor catalog typeName).1 = .ok s →
        catalog.schemaOf typeName = .ok s ∧ s.record.name = typeName := by
  have hafter := (registers_schemaFor catalog registry typeName).built h
  refine ⟨hafter,fun s hs => ?_⟩
  obtain ⟨e,he,hname,rfl⟩ := mem_of_schemaFor hs
  have hdeclared := hafter e he
  rw [hname] at hdeclared
  exact ⟨hdeclared,hname⟩
