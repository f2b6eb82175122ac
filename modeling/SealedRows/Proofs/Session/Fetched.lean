import SealedRows.Proofs.Session.Sends

/-! # Fetched references

A foreign key leads to the primary key of a declared type, so whatever references are resolved, the
database is asked for nothing but rows of primary keys.
-/
namespace SealedRows

theorem Catalog.schemaOf_name {catalog : Catalog} {typeName : Text} {s : Schema}
    (h : catalog.schemaOf typeName = .ok s) : catalog.schemaOf s.record.name = .ok s := by
  rw [name_of_schemaOf h]
  exact h

theorem Schema.nodup_names_of_schemaOf {catalog : Catalog} {typeName : Text} {s : Schema}
    (h : catalog.schemaOf typeName = .ok s) : (s.columns.map (·.name)).Nodup := by
  obtain ⟨_,_,hr⟩ := Catalog.schemaOf_eq_ok.mp h
  obtain ⟨_,hbuilt⟩ := Schema.exists_isSchemaOf hr
  exact hbuilt.names_nodup

theorem Schema.hasEncryptedColumns_of_schemaOf {catalog : Catalog} {typeName : Text} {s : Schema}
    (h : catalog.schemaOf typeName = .ok s) : s.hasEncryptedColumns = s.columns.any (·.isEncrypted) := by
  obtain ⟨_,_,hr⟩ := Catalog.schemaOf_eq_ok.mp h
  obtain ⟨_,hbuilt⟩ := Schema.exists_isSchemaOf hr
  exact hbuilt.hasEncryptedColumns_eq

/-- The column that a foreign key refers to is the primary key of the other type. -/
theorem ForeignKey.column?_of_schemaOf {catalog : Catalog} {typeName : Text} {s t : Schema} {k : ForeignKey}
    (hs : catalog.schemaOf typeName = .ok s) (hk : k ∈ s.foreignKeys)
    (ht : catalog.schemaOf k.referencedType = .ok t) :
    ∃ c, t.column? k.referencedColumn = some c ∧ t.primaryKey = .ok c ∧ c ∈ t.columns ∧
      c.isEncrypted = false ∧ c.kind.canBeReferred := by
  obtain ⟨_,hrefers⟩ := Schema.foreignKey_of_schemaOf hs hk
  have hinteger : Schema.RefersToInteger catalog k := by
    obtain ⟨c,hc,hforeign⟩ := List.mem_filterMap.mp hk
    exact ((Schema.isKeyColumn_of_schemaOf hs hc).foreign k hforeign).2.2
  obtain ⟨_,c,hc,hprimary,hname,hplain,hkind⟩ := hinteger.target hrefers ht
  have hcolumn : t.column? c.name = some c := find?_of_nodup (Schema.nodup_names_of_schemaOf ht) hc
  rw [hname] at hcolumn
  exact ⟨c,hcolumn,hprimary,hc,hplain,hkind⟩

namespace Session
variable {catalog : Catalog} {P : Request → Prop}

theorem schema_entryOf {registry : Registry} (hbuilt : Registry.Built catalog registry) {s : Schema}
    (hs : catalog.schemaOf s.record.name = .ok s) : (entryOf registry s).schema = s := by
  unfold entryOf
  cases hfind : registry.find? s.record.name with
  | none => rfl
  | some e =>
    have hdeclared := hbuilt e (List.mem_of_find?_eq_some hfind)
    have hname : e.typeName = s.record.name := by simpa using List.find?_some hfind
    rw [hname, hs] at hdeclared
    exact (Except.ok.inj hdeclared).symm

section
variable {s : Schema} {column : Text} {c : Column} (hc : s.column? column = some c) {key : Value}
include hc

/-- A key that the column can't hold is an error before the database is asked. -/
theorem fetchReferenced_of_error {fault : ValueFault} (hkey : lookupParameters c key = .error fault)
    (ring : KeyRing) (registry : Registry) (heap : Heap) (db : Database) :
    fetchReferenced ring s column key registry heap db = (.error (.value fault),heap,db) := by
  unfold fetchReferenced
  rw [hc]
  dsimp only
  rw [hkey]

/-- Any other key is looked up, whatever the database answers. -/
theorem fetchReferenced_after {ps : List Value} (hkey : lookupParameters c key = .ok ps)
    (ring : KeyRing) (registry : Registry) (heap : Heap) (db : Database) :
    (fetchReferenced ring s column key registry heap db).2.2 =
      db.after [⟨.statement (referenceQuery s c key) ps,.none⟩] := by
  rw [← Database.query_after]
  unfold fetchReferenced
  rw [hc]
  dsimp only
  rw [hkey]
  dsimp only
  generalize Database.query (referenceQuery s c key) ps db = answer
  rcases answer with ⟨_ | _ | _,later⟩
  · rfl
  · rfl
  · dsimp only
    split <;> rfl

end

theorem asked_fetchReferenced {s : Schema} {column : Text}
    (hP : ∀ c, s.column? column = some c → ∀ key ps, lookupParameters c key = .ok ps →
      P (.statement (referenceQuery s c key) ps))
    (ring : KeyRing) (key : Value) (registry : Registry) (heap : Heap) (db : Database) :
    Database.Asked P db (fetchReferenced ring s column key registry heap db).2.2 := by
  cases hcolumn : s.column? column with
  | none =>
    unfold fetchReferenced
    rw [hcolumn]
    exact .refl P db
  | some c =>
    cases hkey : lookupParameters c key with
    | error fault =>
      rw [fetchReferenced_of_error hcolumn hkey]
      exact .refl P db
    | ok ps =>
      rw [fetchReferenced_after hcolumn hkey]
      exact Database.asked_after (List.forall_mem_singleton.mpr (hP c hcolumn key ps hkey))

section
variable (hP : ∀ (t : Schema) (c : Column), catalog.schemaOf t.record.name = .ok t →
  t.primaryKey = .ok c → c ∈ t.columns → c.isEncrypted = false →
    ∀ key ps, lookupParameters c key = .ok ps → P (.statement (referenceQuery t c key) ps))
include hP

theorem kept_asked (ring : KeyRing) : Traversal.Kept catalog (source ring)
    (fun t => Registry.Built catalog t.registry)
    (fun t t' => Database.Asked P t.source t'.source)
    (fun _ _ s => catalog.schemaOf s.record.name = .ok s) where
  refl t := .refl P t.source
  trans := .trans
  stands_mono hs _ := hs
  enter := by
    intro t id s ht _
    rcases Traversal.enter_cases id s t with henter | ⟨key,henter⟩
    · rw [henter]
      exact ⟨ht,.refl P _⟩
    · rw [henter]
      exact ⟨ht,.refl P _⟩
  load := by
    intro onward honward t id s k ht hs hk _ key
    have hregistry := Registry.Built.schemaFor ht k.referencedType
    -- Whatever comes of the lookup, it was one of a primary key.
    have hfetched : ∀ u, (t.registry.schemaFor catalog k.referencedType).1 = .ok u → ∀ asked,
        asked = (Traversal.fetch (source ring) u k.referencedColumn key
          (t.registered catalog k.referencedType)).2 →
        Registry.Built catalog asked.registry ∧ Database.Asked P t.source asked.source := by
      rintro u hu asked rfl
      obtain ⟨hdeclared,hname⟩ := hregistry.2 u hu
      refine ⟨hregistry.1,asked_fetchReferenced ?_ ring key _ t.heap t.source⟩
      intro c hcolumn
      obtain ⟨d,hd,hprimary,hmem,hplain,_⟩ := ForeignKey.column?_of_schemaOf hs hk hdeclared
      cases hcolumn.symm.trans hd
      rw [← hname] at hdeclared
      exact hP u c hdeclared hprimary hmem hplain
    generalize houtcome : Traversal.load catalog (source ring) onward id k key t = outcome
    have hloads : Traversal.Loads catalog (source ring) onward id k key t outcome :=
      houtcome ▸ Traversal.load_loads
    cases hloads with
    | refused => exact ⟨ht,.refl P _⟩
    | met => exact ⟨ht,.refl P _⟩
    | unregistered => exact ⟨hregistry.1,.refl P _⟩
    | @failed u _ asked hu hfetch => exact hfetched u hu asked (congrArg Prod.snd hfetch.symm)
    | @missing u asked hu hfetch => exact hfetched u hu asked (congrArg Prod.snd hfetch.symm)
    | @loaded u asked found hu hfetch =>
      obtain ⟨hbuilt,hasked⟩ := hfetched u hu asked (congrArg Prod.snd hfetch.symm)
      obtain ⟨hdeclared,hname⟩ := hregistry.2 u hu
      rw [← hname] at hdeclared
      obtain ⟨hlast,hmore⟩ := honward (t := asked.reached id k key found) hbuilt hdeclared
      exact ⟨hlast,hasked.trans hmore⟩

variable {session : Session}

theorem sends_resolve {records : List (RecordId × Schema)}
    (hrecords : ∀ e ∈ records, catalog.schemaOf e.2.record.name = .ok e.2) :
    Sends catalog P session (resolve records) fun _ => True := by
  intro hready
  have hkept := (kept_asked hP session.ring).resolveAll
    (t := ⟨session.registry,session.heap,[],session.database⟩) hready.built hrecords
  rw [← hready.catalog_eq] at hkept
  refine ⟨⟨hready.catalog_eq,?_⟩,hkept.2,fun _ _ => trivial⟩
  rw [← hready.catalog_eq]
  exact hkept.1

theorem sends_recordsOf {s : Schema} (hs : catalog.schemaOf s.record.name = .ok s) (rows : List Row) :
    Sends catalog P session (recordsOf s rows) fun _ => True := by
  unfold recordsOf
  refine (sends_build [s] false rows).bind fun ids _ later => ?_
  refine (sends_resolve hP ?_).bind fun _ _ later => ?_
  · intro e he
    obtain ⟨id,_,rfl⟩ := List.mem_map.mp he
    exact hs
  · exact sends_pure trivial

theorem sends_read {s : Schema} (hs : catalog.schemaOf s.record.name = .ok s) {sql : Text}
    (hsql : ∀ ps, P (.statement sql ps)) (parameters : List Value) :
    Sends catalog P session (read s sql parameters) fun _ => True := by
  unfold read
  exact (sends_query hsql).bind fun rows _ later => sends_recordsOf hP hs rows

end
end Session
end SealedRows
