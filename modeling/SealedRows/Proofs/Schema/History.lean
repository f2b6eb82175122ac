import SealedRows.Proofs.Schema.Faulty

/-! # What earlier calls leave behind

After calls that gave a schema or an error of a record type, the registered types are closed under
references, and later calls give a schema just as on an empty registry, exactly if every faulty type
that was called led out. A faulty type that does not lead out leaves a faulty type registered, whose
schema is then given although it refers to a type without a schema.
-/
namespace SealedRows.Registry
variable {catalog : Catalog} {registry : Registry} {calls : List Text}

/-- The registry after calls on an empty one, each of which gave a schema or an error of a record
type. -/
inductive Called (catalog : Catalog) : List Text → Registry → Prop where
  | none : Called catalog [] []
  | call {calls : List Text} {registry : Registry} (h : Called catalog calls registry)
      (typeName : Text)
      (hresult : ∀ fault, (registry.schemaFor catalog typeName).1 = .error fault → fault.isSchemaError) :
      Called catalog (calls ++ [typeName]) (registry.schemaFor catalog typeName).2

/-- Whether every type that a registered type refers to is registered. -/
def Closed (registry : Registry) : Prop :=
  ∀ e ∈ registry, ∀ k ∈ e.schema.foreignKeys, (registry.find? k.referencedType).isSome

def Gives (catalog : Catalog) (registry : Registry) (typeName : Text) : Prop :=
  ∃ s, (registry.schemaFor catalog typeName).1 = .ok s

/-- Whether every faulty type that was called led out. -/
def AllLedOut (catalog : Catalog) (calls : List Text) : Prop :=
  ∀ typeName ∈ calls, catalog.Faulty typeName → catalog.LeadsOut [] typeName

theorem closed_iff : registry.Closed ↔ ClosedBut (fun _ => False) registry := by
  constructor
  · intro h e he _ other hother
    obtain ⟨k,hk,rfl⟩ := List.mem_map.mp hother
    exact find?_isSome.mp (h e he k hk)
  · intro h e he k hk
    exact find?_isSome.mpr (h e he id _ (List.mem_map_of_mem hk))

/-- Nothing faulty is registered in a closed registry. -/
theorem Closed.good (h : registry.Closed) (hbuilt : Built catalog registry) {typeName : Text}
    (hmem : typeName ∈ registry.names) : ¬catalog.Faulty typeName := by
  intro hfaulty
  induction hfaulty with
  | unbuilt hfault =>
    obtain ⟨e,he,rfl⟩ := List.mem_map.mp hmem
    cases hfault.symm.trans (hbuilt e he)
  | refers hs hother _ ih =>
    obtain ⟨e,he,rfl⟩ := List.mem_map.mp hmem
    cases hs.symm.trans (hbuilt e he)
    exact ih (closed_iff.mp h e he id _ hother)

/-- On a closed registry exactly the good types have a schema. -/
theorem Closed.gives_iff (h : registry.Closed) (hbuilt : Built catalog registry) (typeName : Text) :
    Gives catalog registry typeName ↔ ¬catalog.Faulty typeName := by
  have hrun := registers_schemaFor catalog registry typeName
  constructor
  · intro hgives
    rw [faultOf_eq_none.mpr hgives] at hrun
    have hclosed := closed_iff.mpr (hrun.closedBut hbuilt (closed_iff.mp h))
    exact hclosed.good (hrun.built hbuilt) (hrun.names_of_ok _ (List.mem_singleton_self _))
  · intro hgood
    have hclean : CleanBut catalog [] registry := fun other hother hfaulty =>
      absurd hfaulty (h.good hbuilt hother)
    obtain ⟨hnone,_⟩ := hrun.good hclean nofun fun other hother hfaulty => by
      rw [List.mem_singleton.mp hother] at hfaulty
      exact absurd hfaulty hgood
    exact faultOf_eq_none.mp hnone

theorem Called.built (h : Called catalog calls registry) : Built catalog registry := by
  induction h with
  | none => exact nofun
  | call _ typeName _ ih => exact (registers_schemaFor catalog _ typeName).built ih

/-- Nothing faulty stays if all faulty types led out. -/
theorem Called.clean (h : Called catalog calls registry) (hout : AllLedOut catalog calls) :
    CleanBut catalog [] registry ∧ ClosedBut catalog.Faulty registry := by
  induction h with
  | none => exact ⟨nofun,nofun⟩
  | @call calls registry h typeName hresult ih =>
    obtain ⟨hclean,hclosed⟩ := ih fun other hother => hout other (List.mem_append_left _ hother)
    have hrun := registers_schemaFor catalog registry typeName
    by_cases hfaulty : catalog.Faulty typeName
    · have hlast := hout typeName (List.mem_append_right _ (List.mem_singleton_self _)) hfaulty
      exact (hrun.leadsOut h.built hclean hclosed nofun (.here hfaulty nofun) hlast
        fun fault hfault => hresult fault (faultOf_eq_some.mp hfault)).2
    · obtain ⟨hnone,hafter⟩ := hrun.good hclean nofun fun other hother hother' => by
        rw [List.mem_singleton.mp hother] at hother'
        exact absurd hother' hfaulty
      rw [hnone] at hrun
      exact ⟨hafter,hrun.closedBut h.built hclosed⟩

/-- Something faulty stays if a faulty type did not lead out. -/
theorem Called.stays (h : Called catalog calls registry) (hin : ¬AllLedOut catalog calls) :
    ∃ left ∈ registry.names, catalog.Faulty left := by
  induction h with
  | none => exact absurd nofun hin
  | @call calls registry h typeName hresult ih =>
    have hrun := registers_schemaFor catalog registry typeName
    by_cases hbefore : AllLedOut catalog calls
    · obtain ⟨hclean,_⟩ := h.clean hbefore
      have hlast : catalog.Faulty typeName ∧ ¬catalog.LeadsOut [] typeName := by
        refine Classical.not_imp.mp fun hlast => hin fun other hother => ?_
        rcases List.mem_append.mp hother with hother | hother
        · exact hbefore other hother
        · rw [List.mem_singleton.mp hother]
          exact hlast
      obtain ⟨left,hleft,hfaulty,_⟩ := hrun.stays hclean nofun (.here hlast.1 nofun) hlast.2
      exact ⟨left,hleft,hfaulty⟩
    · obtain ⟨left,hleft,hfaulty⟩ := ih hbefore
      exact ⟨left,hrun.names_mono left hleft,hfaulty⟩

theorem gives_of_mem {typeName : Text} (h : typeName ∈ registry.names) :
    Gives catalog registry typeName := by
  have hrun := registers_schemaFor catalog registry typeName
  refine faultOf_eq_none.mp ?_
  generalize faultOf (registry.schemaFor catalog typeName).1 = fault at hrun ⊢
  generalize (registry.schemaFor catalog typeName).2 = after at hrun
  cases hrun with
  | known _ hrest =>
    cases hrest
    rfl
  | unbuilt hnew => exact absurd h hnew
  | done hnew => exact absurd h hnew
  | undone hnew => exact absurd h hnew

theorem closed_nil : Closed [] := nofun

/-- The registered types are closed under references exactly if every faulty type that was called led
out, later calls succeed as on an empty registry exactly then, and nothing faulty stays registered
exactly then. -/
theorem closed_iff_allLedOut (h : Called catalog calls registry) :
    (registry.Closed ↔ AllLedOut catalog calls) ∧
      ((∀ typeName, Gives catalog registry typeName ↔ Gives catalog [] typeName) ↔
        AllLedOut catalog calls) ∧
      ((∀ e ∈ registry, ¬catalog.Faulty e.typeName) ↔ AllLedOut catalog calls) := by
  have hbuilt := h.built
  have hgives : ∀ typeName, Gives catalog [] typeName ↔ ¬catalog.Faulty typeName :=
    closed_nil.gives_iff nofun
  have hclosed : AllLedOut catalog calls → registry.Closed := by
    intro hout
    obtain ⟨hclean,hclosed⟩ := h.clean hout
    refine closed_iff.mpr fun e he _ => hclosed e he fun hfaulty => ?_
    cases hclean _ (List.mem_map_of_mem he) hfaulty
  have hout : (∀ left ∈ registry.names, ¬catalog.Faulty left) → AllLedOut catalog calls := by
    intro hgood
    by_contra hin
    obtain ⟨left,hleft,hfaulty⟩ := h.stays hin
    exact hgood left hleft hfaulty
  refine ⟨⟨fun hc => hout fun left hleft => hc.good hbuilt hleft,hclosed⟩,⟨?_,?_⟩,⟨?_,?_⟩⟩
  · exact fun hsame => hout fun left hleft => (hgives left).mp ((hsame left).mp (gives_of_mem hleft))
  · intro hled typeName
    rw [(hclosed hled).gives_iff hbuilt, hgives]
  · intro hgood
    refine hout fun left hleft => ?_
    obtain ⟨e,he,rfl⟩ := List.mem_map.mp hleft
    exact hgood e he
  · exact fun hled e he => (hclosed hled).good hbuilt (List.mem_map_of_mem he)

end SealedRows.Registry

namespace SealedRows.Circle

def key : FieldDeclaration :=
  ⟨"id","int",some { ColumnOptions.plain with primaryKey := true },.required,true⟩

def reference (name navigation : Text) : FieldDeclaration :=
  ⟨name,"int",some { ColumnOptions.plain with foreignKey := some ⟨navigation,true⟩ },.required,true⟩

/-- Three types: an order refers to its customer and to a type without a schema, the customer refers
back to the order. -/
def declarations : List TypeDeclaration :=
  [⟨"Order",some "orders",none,true,
      [key, reference "customer_id" "customer", reference "broken_id" "broken",
        ⟨"customer","Customer",none,.value .none,true⟩, ⟨"broken","Broken",none,.value .none,true⟩]⟩,
    ⟨"Customer",some "customers",none,true,
      [key, reference "order_id" "order", ⟨"order","Order",none,.value .none,true⟩]⟩,
    ⟨"Broken",some "broken",none,true,[key, ⟨"SaltColumn","int",none,.required,true⟩]⟩]

def catalog : Catalog := declarations.map (Catalog.typeOf none)

/-- What the failing call for an order leaves behind. -/
def registry : Registry := (Registry.schemaFor catalog [] "Order").2

set_option maxRecDepth 4000 in
theorem called : Registry.Called catalog ["Order"] registry := by
  have hfault : (Registry.schemaFor catalog [] "Order").1 = .error (.reservedColumn "broken") := rfl
  refine .call .none "Order" fun fault h => ?_
  rw [hfault] at h
  cases h
  rfl

set_option maxRecDepth 4000 in
/-- The customer stays registered without the order that it refers to. -/
theorem not_closed : ¬registry.Closed := by
  intro hclosed
  have hopen : ∃ e ∈ registry, ∃ k ∈ e.schema.foreignKeys,
      ¬(registry.find? k.referencedType).isSome := by decide
  obtain ⟨e,he,k,hk,hmissing⟩ := hopen
  exact hmissing (hclosed e he k hk)

/-- Calls that gave schemas or errors of record types do not always leave a closed registry. -/
theorem not_closed_after_calls : ¬∀ (ds : List TypeDeclaration) (catalog : Catalog)
    (calls : List Text) (registry : Registry), Catalog.ofDeclarations ds = .ok catalog →
    Registry.Called catalog calls registry → registry.Closed ∧
      ∀ typeName, Registry.Gives catalog registry typeName ↔ Registry.Gives catalog [] typeName :=
  fun h => not_closed (h declarations catalog ["Order"] registry rfl called).1

/-- The order does not lead out: its customer refers to nothing faulty but the order itself. -/
theorem not_allLedOut : Registry.Called catalog ["Order"] registry ∧
    ¬Registry.AllLedOut catalog ["Order"] :=
  ⟨called,fun hout => not_closed ((Registry.closed_iff_allLedOut called).1.mpr hout)⟩

end SealedRows.Circle
