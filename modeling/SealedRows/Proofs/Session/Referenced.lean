import SealedRows.Proofs.Session.Dangling

/-! # What foreign keys say of other tables

The reference of a column is made by a look at the fields of the other type, whose schema may still be
waiting to be built. Once all types are registered it agrees with that schema: it names its table and its
primary key, so the column of a lookup is always found.
-/
namespace SealedRows

/-- Whether a foreign key says of a schema what it is: the name of its table, and of the column that is
its primary key, plain and of at most 32 bits. -/
structure ForeignKey.Matches (k : ForeignKey) (t : Schema) (c : Column) : Prop where
  name_eq : t.name = k.referencedTable
  column?_eq : t.column? k.referencedColumn = some c
  primaryKey_eq : t.primaryKey = .ok c
  isEncrypted_eq : c.isEncrypted = false
  kind : ∃ l, c.kind = .integer l ∧ l.width.bytes ≤ 4

theorem ForeignKey.exists_matches {catalog : Catalog} {typeName : Text} {s t : Schema} {k : ForeignKey}
    (hs : catalog.schemaOf typeName = .ok s) (hk : k ∈ s.foreignKeys)
    (ht : catalog.schemaOf k.referencedType = .ok t) : ∃ c, k.Matches t c := by
  obtain ⟨c,hcolumn,hprimary,_,hplain,hreferred⟩ := ForeignKey.column?_of_schemaOf hs hk ht
  obtain ⟨_,hrefers⟩ := Schema.foreignKey_of_schemaOf hs hk
  obtain ⟨l,hkind,hwidth⟩ := ValueKind.canBeReferred_iff.mp hreferred
  refine ⟨c,(hrefers.target ht).1,hcolumn,hprimary,hplain,l,hkind,?_⟩
  revert hwidth
  cases l.width <;> decide

namespace Registry
variable {catalog : Catalog} {registry : Registry} {typeName : Text} {s : Schema}

/-- In a closed registry every foreign key matches the registered schema of its type. -/
theorem Closed.exists_matches (hclosed : registry.Closed) (hbuilt : Built catalog registry)
    {e : RegistryEntry} (he : e ∈ registry) {k : ForeignKey} (hk : k ∈ e.schema.foreignKeys) :
    ∃ d c, registry.find? k.referencedType = some d ∧ k.Matches d.schema c := by
  obtain ⟨d,hd⟩ := Option.isSome_iff_exists.mp (hclosed e he k hk)
  have hname : d.typeName = k.referencedType := by simpa using List.find?_some hd
  have hdeclared := hbuilt d (List.mem_of_find?_eq_some hd)
  rw [hname] at hdeclared
  obtain ⟨c,hc⟩ := ForeignKey.exists_matches (hbuilt e he) hk hdeclared
  exact ⟨d,c,hd,hc⟩

theorem closed_of_schemaFor (h : (schemaFor catalog [] typeName).1 = .ok s) :
    Closed (schemaFor catalog [] typeName).2 := by
  have hrun := registers_schemaFor catalog [] typeName
  rw [faultOf_eq_none.mpr ⟨s,h⟩] at hrun
  exact closed_iff.mpr (hrun.closedBut nofun (closed_iff.mp closed_nil))

/-- When the schema of a type is given on an empty registry, every foreign key of every registered schema
matches the registered schema of its type. A lookup of such a key asks for the primary key with the value
that is looked up, and fails before it asks only if the key can't hold that value. -/
theorem foreignKey_matches (h : (schemaFor catalog [] typeName).1 = .ok s) {e : RegistryEntry}
    (he : e ∈ (schemaFor catalog [] typeName).2) {k : ForeignKey} (hk : k ∈ e.schema.foreignKeys) :
    ∃ d c, (schemaFor catalog [] typeName).2.find? k.referencedType = some d ∧ k.Matches d.schema c ∧
      schemaFor catalog (schemaFor catalog [] typeName).2 k.referencedType =
        (.ok d.schema,(schemaFor catalog [] typeName).2) ∧
      ∀ ring key registry heap db,
        let fetched := Session.fetchReferenced ring d.schema k.referencedColumn key registry heap db
        (∀ fault, Session.lookupParameters c key = .error fault →
          fetched = (.error (.value fault),heap,db)) ∧
        ∀ ps, Session.lookupParameters c key = .ok ps →
          fetched.2.2 = db.after [⟨.statement (Session.referenceQuery d.schema c key) ps,.none⟩] := by
  have hempty : Built catalog [] := nofun
  have hbuilt := (hempty.schemaFor typeName).1
  obtain ⟨d,c,hd,hmatches⟩ := (closed_of_schemaFor h).exists_matches hbuilt he hk
  refine ⟨d,c,hd,hmatches,schemaFor_of_find? hd catalog,fun ring key registry heap db => ⟨?_,?_⟩⟩
  · intro fault hfault
    exact Session.fetchReferenced_of_error hmatches.column?_eq hfault ring registry heap db
  · intro ps hps
    exact Session.fetchReferenced_after hmatches.column?_eq hps ring registry heap db

end Registry

namespace Parcel

/-- The number of a record is kept under another name, and an old number is not kept any more. -/
def numbered : List FieldDeclaration :=
  [⟨"old","int",some { ColumnOptions.plain with primaryKey := true, ignored := true },.value .none,true⟩,
    ⟨"number","int",some { ColumnOptions.plain with primaryKey := true, name := some "no" },.required,true⟩]

def declarations : List TypeDeclaration :=
  [⟨"Numbered",none,none,true,numbered⟩,
    ⟨"Parcel",some "parcels",some "Numbered",true,
      [Circle.reference "sender_no" "sender", ⟨"sender","Sender",none,.value .none,true⟩]⟩,
    ⟨"Sender",some "senders",some "Numbered",true,
      [Circle.reference "last_no" "last", ⟨"last","Parcel",none,.value .none,true⟩]⟩]

def catalog : Catalog :=
  let numbered := Catalog.typeOf none ⟨"Numbered",none,none,true,numbered⟩
  numbered :: (declarations.drop 1).map (Catalog.typeOf (some numbered))

example : Catalog.ofDeclarations declarations = .ok catalog := rfl

def registry : Registry := (Registry.schemaFor catalog [] "Parcel").2

set_option maxRecDepth 8000 in
/-- A sender's reference to its last parcel names the inherited number as it is stored. -/
theorem foreignKey_matches_last : ∃ s, (Registry.schemaFor catalog [] "Parcel").1 = .ok s ∧
    ∃ e ∈ registry, ∃ k ∈ e.schema.foreignKeys, k.referencedColumn = "no" ∧ ∃ d c,
      registry.find? k.referencedType = some d ∧ k.Matches d.schema c ∧ c.fieldName = "number" := by
  obtain ⟨s,hs⟩ : ∃ s, (Registry.schemaFor catalog [] "Parcel").1 = .ok s := ⟨_,rfl⟩
  have hlast : ∃ e ∈ registry, ∃ k ∈ e.schema.foreignKeys, k.referencedType = "Parcel" ∧
      k.referencedColumn = "no" := by decide
  have hnumber : ∀ d ∈ registry.find? "Parcel", ∀ c ∈ d.schema.column? "no", c.fieldName = "number" := by
    decide
  obtain ⟨e,he,k,hk,htype,hname⟩ := hlast
  obtain ⟨d,c,hd,hmatches,_⟩ := Registry.foreignKey_matches hs he hk
  refine ⟨s,hs,e,he,k,hk,hname,d,c,hd,hmatches,?_⟩
  exact hnumber d (htype ▸ hd) c (hname ▸ hmatches.column?_eq)

end Parcel
end SealedRows
