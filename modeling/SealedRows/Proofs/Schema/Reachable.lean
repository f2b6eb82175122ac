import Mathlib.Logic.Relation
import SealedRows.Proofs.Schema.Keys

/-! # Reachable types

A type reaches the types that it refers to, and whatever those reach. Registering a type comes to an end
on every graph of references, since what is registered is not followed again. If it succeeds, it has
registered the types that are reached and were missing, each built once and behind all that was
registered before; and on a registry that is closed under references it succeeds exactly if every type
that is reached has a schema.
-/
namespace SealedRows

namespace Catalog

def RefersTo (catalog : Catalog) (typeName other : Text) : Prop :=
  ∃ s, catalog.schemaOf typeName = .ok s ∧ other ∈ s.references

def Reaches (catalog : Catalog) : Text → Text → Prop := Relation.ReflTransGen catalog.RefersTo

variable {catalog : Catalog} {typeName : Text}

theorem faulty_iff_reaches : catalog.Faulty typeName ↔
    ∃ other fault, catalog.Reaches typeName other ∧ catalog.schemaOf other = .error fault := by
  constructor
  · intro h
    induction h with
    | unbuilt h => exact ⟨_,_,.refl,h⟩
    | refers hs hother _ ih =>
      obtain ⟨last,fault,hreaches,hfault⟩ := ih
      exact ⟨last,fault,.head ⟨_,hs,hother⟩ hreaches,hfault⟩
  · rintro ⟨last,fault,hreaches,hfault⟩
    induction hreaches using Relation.ReflTransGen.head_induction_on with
    | refl => exact .unbuilt hfault
    | head hrefers _ ih =>
      obtain ⟨s,hs,hother⟩ := hrefers
      exact .refers hs hother ih

theorem not_faulty_iff_reaches : ¬catalog.Faulty typeName ↔
    ∀ other, catalog.Reaches typeName other → ∃ s, catalog.schemaOf other = .ok s := by
  rw [faulty_iff_reaches]
  constructor
  · intro h other hreaches
    cases hother : catalog.schemaOf other with
    | ok s => exact ⟨s,rfl⟩
    | error fault => exact absurd ⟨other,fault,hreaches,hother⟩ h
  · rintro h ⟨other,fault,hreaches,hfault⟩
    obtain ⟨s,hs⟩ := h other hreaches
    cases hfault.symm.trans hs

end Catalog

namespace Registry
variable {catalog : Catalog} {registry after added others : Registry} {typeName : Text}
  {rest typeNames : List Text} {s : Schema} {fault : Option SchemaFault}

/-- There is only one way to register types. -/
theorem Registers.unique {fault' : Option SchemaFault} {after' : Registry}
    (h : Registers catalog registry typeNames fault after)
    (h' : Registers catalog registry typeNames fault' after') : fault = fault' ∧ after = after' := by
  -- Two rules for one list differ on whether its head is registered, on its schema, or on its references.
  induction h generalizing fault' after' with
  | nil =>
    cases h'
    exact ⟨rfl,rfl⟩
  | known hknown _ ih =>
    cases h' with
    | known _ hrest => exact ih hrest
    | unbuilt hnew => exact absurd hknown hnew
    | done hnew => exact absurd hknown hnew
    | undone hnew => exact absurd hknown hnew
  | unbuilt hnew hfault =>
    cases h' with
    | known hknown => exact absurd hknown hnew
    | unbuilt _ hfault' =>
      cases hfault.symm.trans hfault'
      exact ⟨rfl,rfl⟩
    | done _ hs => cases hfault.symm.trans hs
    | undone _ hs => cases hfault.symm.trans hs
  | done hnew hs _ _ ihreferences ihrest =>
    cases h' with
    | known hknown => exact absurd hknown hnew
    | unbuilt _ hfault => cases hs.symm.trans hfault
    | done _ hs' hreferences hrest =>
      cases hs.symm.trans hs'
      obtain ⟨_,rfl⟩ := ihreferences hreferences
      exact ihrest hrest
    | undone _ hs' hreferences =>
      cases hs.symm.trans hs'
      cases (ihreferences hreferences).1
  | undone hnew hs _ ih =>
    cases h' with
    | known hknown => exact absurd hknown hnew
    | unbuilt _ hfault => cases hs.symm.trans hfault
    | done _ hs' hreferences =>
      cases hs.symm.trans hs'
      cases (ih hreferences).1
    | undone _ hs' hreferences =>
      cases hs.symm.trans hs'
      obtain ⟨⟨⟩,rfl⟩ := ih hreferences
      exact ⟨rfl,rfl⟩

theorem faultOf_injective {x y : Except SchemaFault Unit} (h : faultOf x = faultOf y) : x = y := by
  cases x <;> cases y <;> simp_all [faultOf]

/-- A type is registered with all that it refers to before any bound is reached. -/
theorem register_of_fuelFor_le {fuel : Nat} (h : fuelFor catalog ≤ fuel) :
    register catalog fuel registry typeName = register catalog (fuelFor catalog) registry typeName := by
  have hbound : missing catalog registry * (width catalog + 1) + 1 ≤ fuelFor catalog :=
    missing_le_fuelFor registry
  have hrun := (registers_of_fuel (fuelFor catalog)).1 registry typeName hbound
  obtain ⟨hfault,hafter⟩ := ((registers_of_fuel fuel).1 registry typeName (hbound.trans h)).unique hrun
  exact Prod.ext (faultOf_injective hfault) hafter

mutual

/-- The types whose schemas are built while a type is registered, one after the other. -/
def builds (catalog : Catalog) : Nat → Registry → Text → List Text
  | 0, _, _ => []
  | fuel + 1, registry, typeName =>
    if (registry.find? typeName).isSome then []
    else
      typeName ::
        match catalog.schemaOf typeName with
        | .error _ => []
        | .ok s => buildsAll catalog fuel (registry ++ [⟨s,none⟩]) s.references

def buildsAll (catalog : Catalog) : Nat → Registry → List Text → List Text
  | _, _, [] => []
  | 0, _, _ => []
  | fuel + 1, registry, typeName :: rest =>
    builds catalog fuel registry typeName ++
      match register catalog fuel registry typeName with
      | (.ok (), middle) => buildsAll catalog fuel middle rest
      | (.error _, _) => []

end

/-- What is added to a registry when types are registered: schemas of types that are reached, each once
and none of them registered before. -/
structure Adds (catalog : Catalog) (registry : Registry) (typeNames : List Text) (added : Registry) :
    Prop where
  nodup : added.names.Nodup
  new : ∀ other ∈ added.names, other ∉ registry.names
  built : ∀ e ∈ added, catalog.schemaOf e.typeName = .ok e.schema ∧ e.key = none
  reached : ∀ other ∈ added.names, ∃ typeName ∈ typeNames, catalog.Reaches typeName other

theorem Adds.nil : Adds catalog registry typeNames [] :=
  ⟨List.nodup_nil,List.forall_mem_nil _,List.forall_mem_nil _,List.forall_mem_nil _⟩

theorem names_cons (hs : catalog.schemaOf typeName = .ok s) :
    names (⟨s,none⟩ :: added) = typeName :: added.names := by
  rw [names, List.map_cons, RegistryEntry.typeName, Catalog.name_of_schemaOf hs]
  rfl

/-- A type is added before those that it refers to. -/
theorem Adds.cons (hnew : typeName ∉ registry.names) (hs : catalog.schemaOf typeName = .ok s)
    (h : Adds catalog (registry ++ [⟨s,none⟩]) s.references added) :
    Adds catalog registry [typeName] (⟨s,none⟩ :: added) where
  nodup := by
    rw [names_cons hs]
    refine List.nodup_cons.mpr ⟨fun hmem => h.new typeName hmem ?_,h.nodup⟩
    rw [names_append hs]
    exact List.mem_append_right _ (List.mem_singleton_self _)
  new := by
    rw [names_cons hs]
    refine List.forall_mem_cons.mpr ⟨hnew,fun other hother hmem => h.new other hother ?_⟩
    rw [names_append hs]
    exact List.mem_append_left _ hmem
  built := by
    refine List.forall_mem_cons.mpr ⟨⟨?_,rfl⟩,h.built⟩
    rw [RegistryEntry.typeName, Catalog.name_of_schemaOf hs, hs]
  reached := by
    rw [names_cons hs]
    refine List.forall_mem_cons.mpr ⟨⟨typeName,List.mem_singleton_self _,.refl⟩,fun other hother => ?_⟩
    obtain ⟨next,hnext,hreaches⟩ := h.reached other hother
    exact ⟨typeName,List.mem_singleton_self _,.head ⟨s,hs,hnext⟩ hreaches⟩

/-- What several types add is what the first adds and then the others. -/
theorem Adds.append (h : Adds catalog registry [typeName] added)
    (hrest : Adds catalog (registry ++ added) rest others) :
    Adds catalog registry (typeName :: rest) (added ++ others) where
  nodup := by
    rw [names, List.map_append]
    refine List.nodup_append.mpr ⟨h.nodup,hrest.nodup,?_⟩
    rintro other hother _ hmem rfl
    exact hrest.new other hmem (by rw [names, List.map_append]; exact List.mem_append_right _ hother)
  new := by
    rw [names, List.map_append]
    refine List.forall_mem_append.mpr ⟨h.new,fun other hother hmem => hrest.new other hother ?_⟩
    rw [names, List.map_append]
    exact List.mem_append_left _ hmem
  built := List.forall_mem_append.mpr ⟨h.built,hrest.built⟩
  reached := by
    rw [names, List.map_append]
    refine List.forall_mem_append.mpr ⟨fun other hother => ?_,fun other hother => ?_⟩
    · obtain ⟨next,hnext,hreaches⟩ := h.reached other hother
      rw [List.mem_singleton.mp hnext] at hreaches
      exact ⟨typeName,List.mem_cons_self ..,hreaches⟩
    · obtain ⟨next,hnext,hreaches⟩ := hrest.reached other hother
      exact ⟨next,List.mem_cons_of_mem _ hnext,hreaches⟩

/-- Whether registering a type, when nothing goes wrong, adds the types that are built behind all that was
registered before. -/
def RegisterAdds (catalog : Catalog) (fuel : Nat) : Prop :=
  ∀ registry typeName after, register catalog fuel registry typeName = (.ok (),after) →
    ∃ added, after = registry ++ added ∧ builds catalog fuel registry typeName = added.names ∧
      Adds catalog registry [typeName] added

def RegisterAllAdds (catalog : Catalog) (fuel : Nat) : Prop :=
  ∀ registry typeNames after, registerAll catalog fuel registry typeNames = (.ok (),after) →
    ∃ added, after = registry ++ added ∧ buildsAll catalog fuel registry typeNames = added.names ∧
      Adds catalog registry typeNames added

theorem RegisterAllAdds.register {fuel : Nat} (hall : RegisterAllAdds catalog fuel) :
    RegisterAdds catalog (fuel + 1) := by
  intro registry typeName after h
  by_cases hknown : typeName ∈ registry.names
  · rw [Registry.register, if_pos (find?_isSome.mpr hknown)] at h
    cases h
    refine ⟨[],(List.append_nil _).symm,?_,.nil⟩
    rw [builds, if_pos (find?_isSome.mpr hknown)]
    rfl
  · rw [register_new hknown] at h
    rw [builds, if_neg (mt find?_isSome.mp hknown)]
    cases hs : catalog.schemaOf typeName with
    | error fault =>
      rw [hs] at h
      cases h
    | ok s =>
      rw [hs] at h
      dsimp only at h ⊢
      rcases hreferences : registerAll catalog fuel (registry ++ [⟨s,none⟩]) s.references with ⟨_ | _,middle⟩
      · rw [hreferences] at h
        cases h
      · rw [hreferences] at h
        cases h
        obtain ⟨added,rfl,hbuilds,hadds⟩ := hall _ _ _ hreferences
        refine ⟨⟨s,none⟩ :: added,List.append_assoc ..,?_,hadds.cons hknown hs⟩
        rw [hbuilds, names_cons hs]

theorem RegisterAdds.registerAll {fuel : Nat} (hone : RegisterAdds catalog fuel)
    (hall : RegisterAllAdds catalog fuel) : RegisterAllAdds catalog (fuel + 1) := by
  intro registry typeNames after h
  cases typeNames with
  | nil =>
    cases h
    exact ⟨[],(List.append_nil _).symm,rfl,.nil⟩
  | cons typeName rest =>
    rw [Registry.registerAll] at h
    rw [buildsAll]
    rcases hfirst : register catalog fuel registry typeName with ⟨_ | _,middle⟩
    · rw [hfirst] at h
      cases h
    · rw [hfirst] at h
      obtain ⟨added,rfl,hbuilds,hadds⟩ := hone _ _ _ hfirst
      obtain ⟨others,rfl,hothers,hrest⟩ := hall _ _ _ h
      refine ⟨added ++ others,List.append_assoc ..,?_,hadds.append hrest⟩
      dsimp only
      rw [hbuilds, hothers, names, names, names, List.map_append]

/-- What is built when nothing goes wrong is what is added. -/
theorem adds_of_register (fuel : Nat) : RegisterAdds catalog fuel ∧ RegisterAllAdds catalog fuel := by
  -- Both functions call each other with less fuel, so both halves go through one induction.
  induction fuel with
  | zero =>
    refine ⟨fun registry typeName after h => ?_,fun registry typeNames after h => ?_⟩
    · cases h
    · cases typeNames with
      | nil =>
        cases h
        exact ⟨[],(List.append_nil _).symm,rfl,.nil⟩
      | cons => cases h
  | succ fuel ih => exact ⟨ih.2.register,ih.1.registerAll ih.2⟩

/-- In a closed registry whatever is reached from a registered type is registered. -/
theorem Closed.reaches (h : registry.Closed) (hbuilt : Built catalog registry)
    (hmem : typeName ∈ registry.names) {other : Text} (hreaches : catalog.Reaches typeName other) :
    other ∈ registry.names := by
  induction hreaches with
  | refl => exact hmem
  | tail _ hrefers ih =>
    obtain ⟨s,hs,hother⟩ := hrefers
    obtain ⟨e,he,rfl⟩ := List.mem_map.mp ih
    cases hs.symm.trans (hbuilt e he)
    exact closed_iff.mp h e he id _ hother

theorem register_of_schemaFor (h : (registry.schemaFor catalog typeName).1 = .ok s) :
    register catalog (fuelFor catalog) registry typeName =
      (.ok (),(registry.schemaFor catalog typeName).2) := by
  unfold schemaFor at h ⊢
  generalize register catalog (fuelFor catalog) registry typeName = result at h ⊢
  rcases result with ⟨_ | _,after⟩
  · cases h
  · dsimp only at h ⊢
    split <;> rfl

/-- The types that are built while the schema of a type is asked for. -/
def buildsFor (catalog : Catalog) (registry : Registry) (typeName : Text) : List Text :=
  builds catalog (fuelFor catalog) registry typeName

/-- On a closed registry exactly the types are added that are reached and are missing. -/
theorem Closed.adds (hclosed : registry.Closed) (hbuilt : Built catalog registry)
    (h : (registry.schemaFor catalog typeName).1 = .ok s) :
    ∃ added, (registry.schemaFor catalog typeName).2 = registry ++ added ∧
      buildsFor catalog registry typeName = added.names ∧ Adds catalog registry [typeName] added ∧
      ∀ other, other ∈ added.names ↔ catalog.Reaches typeName other ∧ other ∉ registry.names := by
  obtain ⟨added,hafter,hbuilds,hadds⟩ :=
    (adds_of_register (fuelFor catalog)).1 registry typeName _ (register_of_schemaFor h)
  refine ⟨added,hafter,hbuilds,hadds,fun other => ⟨fun hother => ⟨?_,hadds.new other hother⟩,?_⟩⟩
  · obtain ⟨_,hname,hreaches⟩ := hadds.reached other hother
    rwa [List.mem_singleton.mp hname] at hreaches
  · rintro ⟨hreaches,hmissing⟩
    have hrun := registers_schemaFor catalog registry typeName
    rw [h, hafter, faultOf] at hrun
    have hmem := (closed_iff.mpr (hrun.closedBut hbuilt (closed_iff.mp hclosed))).reaches
      (hrun.built hbuilt) (hrun.names_of_ok typeName (List.mem_singleton_self _)) hreaches
    rw [names, List.map_append] at hmem
    exact (List.mem_append.mp hmem).resolve_left hmissing

/-- Registering a type comes to an end. On an empty registry it gives the schema of the type exactly if
every type that is reached has a schema, and then these types are registered, each built once. On a closed
registry it adds those of them that are missing, and leaves the entries as they are with their keys. -/
theorem schemaFor_reaches (catalog : Catalog) (typeName : Text) :
    (∀ registry fuel, fuelFor catalog ≤ fuel →
      register catalog fuel registry typeName = register catalog (fuelFor catalog) registry typeName) ∧
    ((∃ s, (schemaFor catalog [] typeName).1 = .ok s) ↔
      ∀ other, catalog.Reaches typeName other → ∃ s, catalog.schemaOf other = .ok s) ∧
    (∀ s, (schemaFor catalog [] typeName).1 = .ok s → catalog.schemaOf typeName = .ok s ∧
      buildsFor catalog [] typeName = names (schemaFor catalog [] typeName).2 ∧
      (names (schemaFor catalog [] typeName).2).Nodup ∧
      ∀ other, other ∈ names (schemaFor catalog [] typeName).2 ↔ catalog.Reaches typeName other) ∧
    ∀ registry : Registry, Built catalog registry → registry.Closed →
      ∀ s, (registry.schemaFor catalog typeName).1 = .ok s → catalog.schemaOf typeName = .ok s ∧
        ∃ added, (registry.schemaFor catalog typeName).2 = registry ++ added ∧
          buildsFor catalog registry typeName = added.names ∧ added.names.Nodup ∧
          (∀ other, other ∈ added.names ↔ catalog.Reaches typeName other ∧ other ∉ registry.names) ∧
          ∀ e ∈ added, catalog.schemaOf e.typeName = .ok e.schema ∧ e.key = none := by
  have hempty : Built catalog [] := nofun
  refine ⟨fun registry fuel h => register_of_fuelFor_le h,?_,fun s h => ?_,fun registry hbuilt hclosed s h => ?_⟩
  · exact (closed_nil.gives_iff hempty typeName).trans Catalog.not_faulty_iff_reaches
  · obtain ⟨added,hafter,hbuilds,hadds,hmem⟩ := closed_nil.adds hempty h
    rw [List.nil_append] at hafter
    rw [hafter]
    refine ⟨((hempty.schemaFor typeName).2 s h).1,hbuilds,hadds.nodup,fun other => ?_⟩
    exact (hmem other).trans (and_iff_left List.not_mem_nil)
  · obtain ⟨added,hafter,hbuilds,hadds,hmem⟩ := hclosed.adds hbuilt h
    exact ⟨((hbuilt.schemaFor typeName).2 s h).1,added,hafter,hbuilds,hadds.nodup,hmem,hadds.built⟩

end Registry

namespace Forest

/-- A tree refers to its parent, a leaf to its tree and to a bug, and the bug back to the leaf. -/
def declarations : List TypeDeclaration :=
  [⟨"Tree",some "trees",none,true,
      [Circle.key, Circle.reference "parent_id" "parent", ⟨"parent","Tree",none,.value .none,true⟩]⟩,
    ⟨"Leaf",some "leaves",none,true,
      [Circle.key, Circle.reference "tree_id" "tree", Circle.reference "bug_id" "bug",
        ⟨"tree","Tree",none,.value .none,true⟩, ⟨"bug","Bug",none,.value .none,true⟩]⟩,
    ⟨"Bug",some "bugs",none,true,
      [Circle.key, Circle.reference "leaf_id" "leaf", ⟨"leaf","Leaf",none,.value .none,true⟩]⟩]

def catalog : Catalog := declarations.map (Catalog.typeOf none)

/-- The trees are registered, and their table has a key. -/
def registry : Registry := Registry.withKey (Registry.schemaFor catalog [] "Tree").2 "Tree" (some [1])

set_option maxRecDepth 4000 in
/-- The leaf is added with the bug, which refers back to it; the trees keep their key. -/
theorem reaches_leaf : Registry.Built catalog registry ∧ registry.Closed ∧
    ∃ s, (registry.schemaFor catalog "Leaf").1 = .ok s ∧
      ∃ added, (registry.schemaFor catalog "Leaf").2 = registry ++ added ∧
        added.names = ["Leaf","Bug"] := by
  have hbuilt : Registry.Built catalog registry := ((Registry.Reached.empty.schemaFor "Tree").withKey _ _).built
  have hclosed : registry.Closed := by
    have hall : ∀ e ∈ registry, ∀ k ∈ e.schema.foreignKeys, (registry.find? k.referencedType).isSome := by
      decide
    exact hall
  obtain ⟨s,hs⟩ : ∃ s, (registry.schemaFor catalog "Leaf").1 = .ok s := ⟨_,rfl⟩
  obtain ⟨_,_,_,hadds⟩ := Registry.schemaFor_reaches catalog "Leaf"
  obtain ⟨_,added,hafter,hbuilds,_⟩ := hadds registry hbuilt hclosed s hs
  have hlog : Registry.buildsFor catalog registry "Leaf" = ["Leaf","Bug"] := by decide
  exact ⟨hbuilt,hclosed,s,hs,added,hafter,hbuilds.symm.trans hlog⟩

end Forest
end SealedRows
