import SealedRows.Proofs.Schema.Registration

/-! # Registered schemas

A registry begins empty, registers record types with all that they refer to, and gives tables keys or
takes them away. Whatever is registered then is the schema of the declared type of its name.
-/
namespace SealedRows.Registry
variable {catalog : Catalog}

def Built (catalog : Catalog) (registry : Registry) : Prop :=
  ∀ e ∈ registry, catalog.schemaOf e.typeName = .ok e.schema

/-- The registries that a connection can have. -/
inductive Reached (catalog : Catalog) : Registry → Prop where
  | empty : Reached catalog []
  | schemaFor {registry : Registry} (h : Reached catalog registry) (typeName : Text) :
      Reached catalog (registry.schemaFor catalog typeName).2
  | withKey {registry : Registry} (h : Reached catalog registry) (typeName : Text)
      (key : Option Bytes) : Reached catalog (registry.withKey typeName key)

theorem Built.append {registry : Registry} (h : Built catalog registry) {typeName : Text} {s : Schema}
    (hs : catalog.schemaOf typeName = .ok s) : Built catalog (registry ++ [⟨s,none⟩]) := by
  intro e he
  rcases List.mem_append.mp he with he | he
  · exact h e he
  · rw [List.mem_singleton] at he
    subst he
    rw [RegistryEntry.typeName, Catalog.name_of_schemaOf hs, hs]

theorem Built.without {registry : Registry} (h : Built catalog registry) (typeName : Text) :
    Built catalog (registry.without typeName) :=
  fun e he => h e (List.mem_of_mem_filter he)

theorem Built.withKey {registry : Registry} (h : Built catalog registry) (typeName : Text)
    (key : Option Bytes) : Built catalog (registry.withKey typeName key) := by
  intro e he
  obtain ⟨d,hd,rfl⟩ := List.mem_map.mp he
  split <;> exact h d hd

theorem Registers.built {registry after : Registry} {typeNames : List Text}
    {fault : Option SchemaFault} (h : Registers catalog registry typeNames fault after)
    (hbuilt : Built catalog registry) : Built catalog after := by
  induction h with
  | nil => exact hbuilt
  | known _ _ ih => exact ih hbuilt
  | unbuilt => exact hbuilt
  | done _ hs _ _ ihreferences ihrest => exact ihrest (ihreferences (hbuilt.append hs))
  | @undone _ _ typeName _ _ _ _ hs _ ih =>
    have hmiddle := ih (hbuilt.append hs)
    split
    · exact hmiddle.without typeName
    · exact hmiddle

theorem Reached.built {registry : Registry} (h : Reached catalog registry) :
    Built catalog registry := by
  induction h with
  | empty => exact nofun
  | schemaFor _ typeName ih => exact (registers_schemaFor catalog _ typeName).built ih
  | withKey _ typeName key ih => exact ih.withKey typeName key

theorem Reached.sound {ds : List TypeDeclaration} (hcatalog : Catalog.ofDeclarations ds = .ok catalog)
    {registry : Registry} (h : Reached catalog registry) {e : RegistryEntry} (he : e ∈ registry) :
    e.schema.Sound := by
  obtain ⟨r,hr,hs⟩ := Catalog.schemaOf_eq_ok.mp (h.built e he)
  exact Schema.sound_of_ofRecordType
    (Catalog.hasDistinctFields_of_mem hcatalog (List.mem_of_find?_eq_some hr)) hs

end SealedRows.Registry
