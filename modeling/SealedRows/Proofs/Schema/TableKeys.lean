import SealedRows.Proofs.Schema.Faulty

/-! # Keys of tables

The key of a table is kept with its schema. It changes only when it is given or taken away: registering
types adds no key and loses none, also when it fails. A good type always gets its schema, whatever else is
registered.
-/
namespace SealedRows.Registry
variable {catalog : Catalog} {registry after : Registry} {typeName other : Text}

/-- The key of the table of a record type. -/
def tableKey (registry : Registry) (typeName : Text) : Option Bytes :=
  (registry.find? typeName).bind (·.key)

theorem find?_eq_none_iff : registry.find? typeName = none ↔ typeName ∉ registry.names := by
  rw [← find?_isSome, Option.not_isSome_iff_eq_none]

theorem tableKey_of_not_mem (h : typeName ∉ registry.names) : registry.tableKey typeName = none := by
  rw [tableKey, find?_eq_none_iff.mpr h]
  rfl

theorem tableKey_append (s : Schema) :
    tableKey (registry ++ [⟨s,none⟩]) typeName = registry.tableKey typeName := by
  have hnew : (find? [⟨s,none⟩] typeName).bind (·.key) = none := by
    unfold find?
    rw [List.find?_singleton]
    split <;> rfl
  unfold tableKey
  unfold find? at hnew ⊢
  rw [List.find?_append]
  cases List.find? (fun e => e.typeName = typeName) registry with
  | none => exact hnew
  | some e => rfl

theorem tableKey_without_of_ne (h : other ≠ typeName) :
    (registry.without typeName).tableKey other = registry.tableKey other := by
  unfold tableKey find? without
  rw [List.find?_filter]
  congr 2
  funext e
  simp only [decide_eq_true_eq]
  grind

theorem tableKey_without (h : typeName ∉ registry.names) (later : Registry)
    (hlater : ∀ name, later.tableKey name = registry.tableKey name) :
    (later.without typeName).tableKey other = registry.tableKey other := by
  by_cases hother : other = typeName
  · subst hother
    have hgone : other ∉ (later.without other).names := fun hmem => (mem_names_without.mp hmem).2 rfl
    rw [tableKey_of_not_mem h, tableKey_of_not_mem hgone]
  · rw [tableKey_without_of_ne hother, hlater]

/-- Registering types changes no key, whatever goes wrong. -/
theorem Registers.tableKey_eq {typeNames : List Text} {fault : Option SchemaFault}
    (h : Registers catalog registry typeNames fault after) (name : Text) :
    after.tableKey name = registry.tableKey name := by
  induction h generalizing name with
  | nil => rfl
  | known _ _ ih => exact ih name
  | unbuilt => rfl
  | done _ _ _ _ ihreferences ihrest => rw [ihrest, ihreferences, tableKey_append]
  | undone hnew _ _ ih =>
    have hmiddle : ∀ name, _ := fun name => (ih name).trans (tableKey_append _)
    split
    · exact tableKey_without hnew _ hmiddle
    · exact hmiddle name

theorem tableKey_schemaFor (catalog : Catalog) (registry : Registry) (typeName other : Text) :
    (registry.schemaFor catalog typeName).2.tableKey other = registry.tableKey other :=
  (registers_schemaFor catalog registry typeName).tableKey_eq other

theorem find?_withKey (key : Option Bytes) : (registry.withKey typeName key).find? other =
    (registry.find? other).map fun e => if e.typeName = typeName then { e with key := key } else e := by
  unfold find? withKey
  rw [List.find?_map]
  congr 2
  funext e
  simp only [Function.comp_apply]
  split <;> rfl

/-- Giving a key changes that of one table, if it is registered. -/
theorem tableKey_withKey (key : Option Bytes) : (registry.withKey typeName key).tableKey other =
    if other = typeName ∧ other ∈ registry.names then key else registry.tableKey other := by
  unfold tableKey
  rw [find?_withKey]
  cases hfind : registry.find? other with
  | none =>
    have hnot := find?_eq_none_iff.mp hfind
    rw [if_neg fun h => hnot h.2]
    rfl
  | some e =>
    have hmem : other ∈ registry.names := find?_isSome.mp (by rw [hfind]; rfl)
    have hname : e.typeName = other := by simpa using List.find?_some hfind
    simp only [Option.map_some, Option.bind_some, hmem, and_true, hname]
    split <;> rfl

/-- The keys of the tables of record types are forgotten one after the other. -/
theorem tableKey_foldl_withKey (typeNames : List Text) :
    tableKey (typeNames.foldl (fun registry typeName => registry.withKey typeName none) registry) other =
      if other ∈ typeNames then none else registry.tableKey other := by
  induction typeNames generalizing registry with
  | nil => simp
  | cons typeName rest ih =>
    rw [List.foldl_cons, ih, tableKey_withKey]
    by_cases hmem : other ∈ registry.names
    · simp only [hmem, and_true, List.mem_cons]
      grind
    · rw [tableKey_of_not_mem hmem]
      grind

def Uniform (registry : Registry) : Prop := ∀ e ∈ registry, e.key = registry.tableKey e.typeName

theorem Uniform.append (h : registry.Uniform) {s : Schema} (hnew : s.record.name ∉ registry.names) :
    Uniform (registry ++ [⟨s,none⟩]) := by
  intro e he
  rw [tableKey_append]
  rcases List.mem_append.mp he with he | he
  · exact h e he
  · rw [List.mem_singleton.mp he]
    exact (tableKey_of_not_mem hnew).symm

theorem Uniform.without (h : registry.Uniform) (typeName : Text) : (registry.without typeName).Uniform := by
  intro e he
  obtain ⟨hmem,hne⟩ := List.mem_filter.mp he
  rw [tableKey_without_of_ne (of_decide_eq_true hne)]
  exact h e hmem

theorem Uniform.withKey (h : registry.Uniform) (typeName : Text) (key : Option Bytes) :
    (registry.withKey typeName key).Uniform := by
  intro e he
  obtain ⟨old,hold,rfl⟩ := List.mem_map.mp he
  rw [tableKey_withKey]
  by_cases hname : old.typeName = typeName
  · rw [if_pos hname]
    have hmem : old.typeName ∈ registry.names := List.mem_map_of_mem hold
    exact (if_pos ⟨hname,hmem⟩).symm
  · rw [if_neg hname, if_neg fun h => hname h.1]
    exact h old hold

theorem Uniform.forgotten (h : registry.Uniform) (typeNames : List Text) :
    Uniform (typeNames.foldl (fun registry typeName => registry.withKey typeName none) registry) := by
  induction typeNames generalizing registry with
  | nil => exact h
  | cons typeName rest ih => exact ih (h.withKey typeName none)

theorem Registers.uniform {typeNames : List Text} {fault : Option SchemaFault}
    (h : Registers catalog registry typeNames fault after) (huniform : registry.Uniform) : after.Uniform := by
  induction h with
  | nil | unbuilt => exact huniform
  | known _ _ ih => exact ih huniform
  | done hnew hs _ _ ihreferences ihrest =>
    rw [← Catalog.name_of_schemaOf hs] at hnew
    exact ihrest (ihreferences (huniform.append hnew))
  | undone hnew hs _ ih =>
    rw [← Catalog.name_of_schemaOf hs] at hnew
    have hmiddle := ih (huniform.append hnew)
    split
    · exact hmiddle.without _
    · exact hmiddle

theorem Uniform.schemaFor (h : registry.Uniform) (catalog : Catalog) (typeName : Text) :
    (registry.schemaFor catalog typeName).2.Uniform :=
  (registers_schemaFor catalog registry typeName).uniform h

theorem mem_foldl_withKey {typeNames : List Text} {e : RegistryEntry}
    (he : e ∈ typeNames.foldl (fun registry typeName => registry.withKey typeName none) registry) :
    ∃ old ∈ registry, e.schema = old.schema ∧ e.key = if old.typeName ∈ typeNames then none else old.key := by
  induction typeNames generalizing registry with
  | nil => exact ⟨e,he,rfl,(if_neg List.not_mem_nil).symm⟩
  | cons typeName rest ih =>
    obtain ⟨middle,hmiddle,hschema,hkey⟩ := ih he
    obtain ⟨old,hold,rfl⟩ := List.mem_map.mp hmiddle
    refine ⟨old,hold,hschema.trans ?_,hkey.trans ?_⟩
    · split <;> rfl
    · unfold RegistryEntry.typeName
      grind

theorem Built.forgotten (hbuilt : Built catalog registry) (typeNames : List Text) :
    Built catalog (typeNames.foldl (fun registry typeName => registry.withKey typeName none) registry) := by
  induction typeNames generalizing registry with
  | nil => exact hbuilt
  | cons typeName rest ih => exact ih (hbuilt.withKey typeName none)

theorem find?_of_schemaFor {s : Schema} (h : (registry.schemaFor catalog typeName).1 = .ok s) :
    ∃ e, (registry.schemaFor catalog typeName).2.find? typeName = some e ∧ e.schema = s := by
  unfold schemaFor at h ⊢
  generalize register catalog (fuelFor catalog) registry typeName = result at h ⊢
  rcases result with ⟨_ | _,later⟩
  · cases h
  · dsimp only at h ⊢
    cases hfind : later.find? typeName with
    | none =>
      rw [hfind] at h
      cases h
    | some e =>
      rw [hfind] at h
      cases h
      exact ⟨e,hfind,rfl⟩

theorem schemaFor_of_mem (catalog : Catalog) (h : typeName ∈ registry.names) :
    ∃ s, registry.schemaFor catalog typeName = (.ok s,registry) := by
  have hrun := registers_schemaFor catalog registry typeName
  generalize hresult : registry.schemaFor catalog typeName = result at hrun
  obtain ⟨answer,after⟩ := result
  generalize hfault : faultOf answer = fault at hrun
  cases hrun with
  | known _ hrest =>
    cases hrest
    obtain ⟨s,hs⟩ := faultOf_eq_none.mp hfault
    exact ⟨s,by rw [hs]⟩
  | unbuilt hnew => exact absurd h hnew
  | done hnew => exact absurd h hnew
  | undone hnew => exact absurd h hnew

/-- A good type gets its schema on every registry. -/
theorem gives_of_not_faulty (hgood : ¬catalog.Faulty typeName) (registry : Registry) :
    ∃ s, (registry.schemaFor catalog typeName).1 = .ok s := by
  have hrun := registers_schemaFor catalog registry typeName
  -- Every registered type may be faulty: all of them are taken to be on the path.
  have hclean : CleanBut catalog registry.names registry := fun _ hother _ => hother
  obtain ⟨hnone,_⟩ := hrun.good hclean (fun _ hother => hother) fun other hother hfaulty => by
    rw [List.mem_singleton.mp hother] at hfaulty
    exact absurd hfaulty hgood
  exact faultOf_eq_none.mp hnone

end SealedRows.Registry
