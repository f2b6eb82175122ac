import Mathlib.Algebra.Order.BigOperators.Group.List
import Mathlib.Algebra.Order.Group.Nat
import SealedRows.Proofs.Schema.Sound
import SealedRows.Schema.Registry

/-! # Registration

What registering record types does, type by type and without a bound on the depth of references: a
registered type is passed over, a type without a schema ends everything, and any other type is
registered before the types that it refers to and is taken out again when one of those fails. The
bound that registration works with is never reached, since every reference that is followed registers
another type.
-/
namespace SealedRows

namespace Catalog
variable (catalog : Catalog)

def schemaOf (typeName : Text) : Except SchemaFault Schema :=
  match catalog.find? typeName with
  | none => .error (.general .absentKey)
  | some r => Schema.ofRecordType catalog r

variable {catalog}

theorem schemaOf_eq_ok {typeName : Text} {s : Schema} : catalog.schemaOf typeName = .ok s ↔
    ∃ r, catalog.find? typeName = some r ∧ Schema.ofRecordType catalog r = .ok s := by
  unfold schemaOf
  cases catalog.find? typeName <;> simp

theorem name_of_schemaOf {typeName : Text} {s : Schema} (h : catalog.schemaOf typeName = .ok s) :
    s.record.name = typeName := by
  obtain ⟨r,hfind,hs⟩ := schemaOf_eq_ok.mp h
  obtain ⟨_,hbuilt⟩ := Schema.exists_isSchemaOf hs
  rw [hbuilt.record_eq]
  simpa using List.find?_some hfind

/-- No schema has more references than there are fields. -/
theorem length_references_of_schemaOf {typeName : Text} {s : Schema}
    (h : catalog.schemaOf typeName = .ok s) :
    s.references.length ≤ (catalog.map (·.fields.length)).sum := by
  obtain ⟨r,hfind,hs⟩ := schemaOf_eq_ok.mp h
  exact (Schema.length_references_le hs).trans
    (List.le_sum_of_mem (List.mem_map_of_mem (List.mem_of_find?_eq_some hfind)))

end Catalog

namespace Registry
variable {catalog : Catalog}

def names (registry : Registry) : List Text := registry.map (·.typeName)

theorem find?_isSome {registry : Registry} {typeName : Text} :
    (registry.find? typeName).isSome ↔ typeName ∈ registry.names := by
  simp [find?, names]

theorem names_append {registry : Registry} {typeName : Text} {s : Schema}
    (hs : catalog.schemaOf typeName = .ok s) :
    names (registry ++ [⟨s,none⟩]) = registry.names ++ [typeName] := by
  rw [names, List.map_append, List.map_singleton, RegistryEntry.typeName, Catalog.name_of_schemaOf hs]
  rfl

theorem mem_names_without {registry : Registry} {typeName other : Text} :
    other ∈ (registry.without typeName).names ↔ other ∈ registry.names ∧ other ≠ typeName := by
  simp only [names, without, List.mem_map, List.mem_filter, decide_eq_true_eq]
  constructor
  · rintro ⟨e,⟨he,hne⟩,rfl⟩
    exact ⟨⟨e,he,rfl⟩,hne⟩
  · rintro ⟨⟨e,he,rfl⟩,hne⟩
    exact ⟨e,⟨he,hne⟩,rfl⟩

/-- What a registry becomes when record types are registered one after the other, and what went wrong
if anything did. -/
inductive Registers (catalog : Catalog) :
    Registry → List Text → Option SchemaFault → Registry → Prop where
  | nil (registry : Registry) : Registers catalog registry [] none registry
  | known {registry after : Registry} {typeName : Text} {rest : List Text}
      {fault : Option SchemaFault} (hknown : typeName ∈ registry.names)
      (hrest : Registers catalog registry rest fault after) :
      Registers catalog registry (typeName :: rest) fault after
  | unbuilt {registry : Registry} {typeName : Text} {rest : List Text} {fault : SchemaFault}
      (hnew : typeName ∉ registry.names) (hfault : catalog.schemaOf typeName = .error fault) :
      Registers catalog registry (typeName :: rest) (some fault) registry
  | done {registry middle after : Registry} {typeName : Text} {rest : List Text} {s : Schema}
      {fault : Option SchemaFault} (hnew : typeName ∉ registry.names)
      (hs : catalog.schemaOf typeName = .ok s)
      (hreferences : Registers catalog (registry ++ [⟨s,none⟩]) s.references none middle)
      (hrest : Registers catalog middle rest fault after) :
      Registers catalog registry (typeName :: rest) fault after
  | undone {registry middle : Registry} {typeName : Text} {rest : List Text} {s : Schema}
      {fault : SchemaFault} (hnew : typeName ∉ registry.names)
      (hs : catalog.schemaOf typeName = .ok s)
      (hreferences : Registers catalog (registry ++ [⟨s,none⟩]) s.references (some fault) middle) :
      Registers catalog registry (typeName :: rest) (some fault)
        (if fault.isSchemaError then middle.without typeName else middle)

namespace Registers
variable {registry middle after : Registry} {typeName : Text} {rest typeNames : List Text}
  {fault : Option SchemaFault}

/-- What was registered before stays registered, whatever happens. -/
theorem names_mono (h : Registers catalog registry typeNames fault after) :
    ∀ other ∈ registry.names, other ∈ after.names := by
  induction h with
  | nil => exact fun _ hother => hother
  | known _ _ ih => exact ih
  | unbuilt => exact fun _ hother => hother
  | done _ hs _ _ ihreferences ihrest =>
    rw [names_append hs] at ihreferences
    exact fun other hother => ihrest other (ihreferences other (List.mem_append_left _ hother))
  | undone hnew hs _ ih =>
    rw [names_append hs] at ih
    intro other hother
    have hmiddle := ih other (List.mem_append_left _ hother)
    split
    · refine mem_names_without.mpr ⟨hmiddle,?_⟩
      rintro rfl
      exact hnew hother
    · exact hmiddle

/-- All types are registered if nothing went wrong. -/
theorem names_of_ok (h : Registers catalog registry typeNames none after) :
    ∀ other ∈ typeNames, other ∈ after.names := by
  generalize hfault : (none : Option SchemaFault) = fault at h
  induction h with
  | nil => exact nofun
  | known hknown hrest ih =>
    intro other hother
    rcases List.mem_cons.mp hother with rfl | hother
    · exact hrest.names_mono _ hknown
    · exact ih hfault other hother
  | unbuilt => cases hfault
  | done _ hs hreferences hrest _ ih =>
    intro other hother
    rcases List.mem_cons.mp hother with rfl | hother
    · refine hrest.names_mono _ (hreferences.names_mono _ ?_)
      rw [names_append hs]
      exact List.mem_append_right _ (List.mem_singleton_self _)
    · exact ih hfault other hother
  | undone => cases hfault

theorem cons_of_ok (h : Registers catalog registry [typeName] none middle)
    (hrest : Registers catalog middle rest fault after) :
    Registers catalog registry (typeName :: rest) fault after := by
  cases h with
  | known hknown h =>
    cases h
    exact .known hknown hrest
  | done hnew hs hreferences h =>
    cases h
    exact .done hnew hs hreferences hrest

theorem cons_of_error {fault : SchemaFault}
    (h : Registers catalog registry [typeName] (some fault) after) (rest : List Text) :
    Registers catalog registry (typeName :: rest) (some fault) after := by
  cases h with
  | known _ h => cases h
  | unbuilt hnew hfault => exact .unbuilt hnew hfault
  | done _ _ _ h => cases h
  | undone hnew hs hreferences => exact .undone hnew hs hreferences

end Registers

def missing (catalog : Catalog) (registry : Registry) : Nat :=
  (catalog.filter fun r => r.name ∉ registry.names).length

theorem missing_mono {registry after : Registry}
    (h : ∀ other ∈ registry.names, other ∈ after.names) :
    missing catalog after ≤ missing catalog registry := by
  refine (List.monotone_filter_right catalog fun r hr => ?_).length_le
  rw [decide_eq_true_iff] at hr ⊢
  exact fun hmem => hr (h _ hmem)

/-- One type less is missing when a declared one has been registered. -/
theorem missing_append {registry : Registry} {typeName : Text} {s : Schema}
    (hnew : typeName ∉ registry.names) (hs : catalog.schemaOf typeName = .ok s) :
    missing catalog (registry ++ [⟨s,none⟩]) < missing catalog registry := by
  obtain ⟨r,hfind,_⟩ := Catalog.schemaOf_eq_ok.mp hs
  have hname : r.name = typeName := by simpa using List.find?_some hfind
  have hsublist : (catalog.filter fun r => r.name ∉ names (registry ++ [⟨s,none⟩])).Sublist
      (catalog.filter fun r => r.name ∉ registry.names) := by
    refine List.monotone_filter_right catalog fun r hr => ?_
    rw [decide_eq_true_iff, names_append hs, List.mem_append, not_or] at hr
    exact decide_eq_true hr.1
  refine lt_of_le_of_ne hsublist.length_le fun hlength => ?_
  have hmem : r ∈ catalog.filter fun r => r.name ∉ registry.names :=
    List.mem_filter.mpr ⟨List.mem_of_find?_eq_some hfind,decide_eq_true (hname ▸ hnew)⟩
  rw [← hsublist.eq_of_length hlength, List.mem_filter, decide_eq_true_iff, names_append hs, hname]
    at hmem
  exact hmem.2 (List.mem_append_right _ (List.mem_singleton_self _))

/-- How a type that is not registered is registered. -/
theorem register_new {registry : Registry} {typeName : Text} (hnew : typeName ∉ registry.names)
    (fuel : Nat) : register catalog (fuel + 1) registry typeName =
      match catalog.schemaOf typeName with
      | .error fault => (.error fault, registry)
      | .ok s =>
        match registerAll catalog fuel (registry ++ [⟨s,none⟩]) s.references with
        | (.ok (), middle) => (.ok (), middle)
        | (.error fault, middle) =>
          (.error fault, if fault.isSchemaError then middle.without typeName else middle) := by
  rw [register, if_neg (mt find?_isSome.mp hnew), Catalog.schemaOf]
  cases catalog.find? typeName <;> rfl

def width (catalog : Catalog) : Nat := (catalog.map (·.fields.length)).sum

/-- With enough fuel for all missing types, registering is what the relation says. -/
theorem registers_of_fuel (fuel : Nat) :
    (∀ registry typeName, missing catalog registry * (width catalog + 1) + 1 ≤ fuel →
      Registers catalog registry [typeName] (faultOf (register catalog fuel registry typeName).1)
        (register catalog fuel registry typeName).2) ∧
    (∀ registry typeNames,
      typeNames.length + missing catalog registry * (width catalog + 1) + 1 ≤ fuel →
      Registers catalog registry typeNames (faultOf (registerAll catalog fuel registry typeNames).1)
        (registerAll catalog fuel registry typeNames).2) := by
  induction fuel with
  | zero => exact ⟨fun _ _ h => absurd h (by omega),fun _ _ h => absurd h (by omega)⟩
  | succ fuel ih =>
    obtain ⟨ihone,ihall⟩ := ih
    refine ⟨fun registry typeName hfuel => ?_,fun registry typeNames hfuel => ?_⟩
    · by_cases hknown : typeName ∈ registry.names
      · simp only [register, if_pos (find?_isSome.mpr hknown), faultOf]
        exact .known hknown (.nil _)
      · rw [register_new hknown]
        cases hs : catalog.schemaOf typeName with
        | error fault => exact .unbuilt hknown hs
        | ok s =>
          have hmissing := missing_append hknown hs
          have hlength : s.references.length ≤ width catalog := Catalog.length_references_of_schemaOf hs
          have hall := ihall (registry ++ [⟨s,none⟩]) s.references ?_
          · dsimp only
            generalize registerAll catalog fuel (registry ++ [⟨s,none⟩]) s.references = result at hall ⊢
            rcases result with ⟨fault | _,middle⟩
            · exact .undone hknown hs hall
            · exact .done hknown hs hall (.nil _)
          · have hmul : (missing catalog (registry ++ [⟨s,none⟩]) + 1) * (width catalog + 1)
                ≤ missing catalog registry * (width catalog + 1) := Nat.mul_le_mul_right _ hmissing
            rw [Nat.succ_mul] at hmul
            omega
    · cases typeNames with
      | nil => exact .nil _
      | cons typeName rest =>
        rw [List.length_cons] at hfuel
        have hone := ihone registry typeName (by omega)
        unfold registerAll
        generalize register catalog fuel registry typeName = result at hone ⊢
        rcases result with ⟨fault | _,middle⟩
        · exact hone.cons_of_error rest
        · have hmissing : missing catalog middle * (width catalog + 1)
              ≤ missing catalog registry * (width catalog + 1) :=
            Nat.mul_le_mul_right _ (missing_mono hone.names_mono)
          exact hone.cons_of_ok (ihall middle rest (by omega))

theorem missing_le_fuelFor (registry : Registry) :
    missing catalog registry * (width catalog + 1) + 1 ≤ fuelFor catalog := by
  have hmissing : missing catalog registry ≤ catalog.length := List.length_filter_le ..
  have hmul : missing catalog registry * (width catalog + 1) ≤ catalog.length * (width catalog + 1) :=
    Nat.mul_le_mul_right _ hmissing
  have hle : catalog.length * (width catalog + 1) ≤ catalog.length * (width catalog + 2) :=
    Nat.mul_le_mul_left _ (by omega)
  have hsplit := Nat.add_mul catalog.length 2 (width catalog + 2)
  rw [fuelFor, ← width]
  omega

theorem registers_schemaFor (catalog : Catalog) (registry : Registry) (typeName : Text) :
    Registers catalog registry [typeName] (faultOf (registry.schemaFor catalog typeName).1)
      (registry.schemaFor catalog typeName).2 := by
  have h := (registers_of_fuel (fuelFor catalog)).1 registry typeName (missing_le_fuelFor registry)
  unfold schemaFor
  generalize register catalog (fuelFor catalog) registry typeName = result at h ⊢
  rcases result with ⟨fault | _,after⟩
  · exact h
  · have hmem := h.names_of_ok typeName (List.mem_singleton_self _)
    obtain ⟨e,he⟩ := Option.isSome_iff_exists.mp (find?_isSome.mpr hmem)
    simp only [he]
    exact h

end Registry
end SealedRows
