import SealedRows.Proofs.Schema.Registered

/-! # Faulty types

A type is faulty if it has no schema or refers to a faulty type. When a faulty type is registered, its
references are followed in order up to the first faulty one that is not just being registered itself.
If going on like this ends at a type without a schema, everything faulty is taken out again. Otherwise
it ends at a type whose faulty references are all just being registered: that type is taken for a good
one, and stays when the others are taken out.
-/
namespace SealedRows

namespace Catalog

/-- Whether a type has no schema or refers to a faulty type. -/
inductive Faulty (catalog : Catalog) : Text → Prop where
  | unbuilt {typeName : Text} {fault : SchemaFault} (h : catalog.schemaOf typeName = .error fault) :
      Faulty catalog typeName
  | refers {typeName other : Text} {s : Schema} (hs : catalog.schemaOf typeName = .ok s)
      (hother : other ∈ s.references) (h : Faulty catalog other) : Faulty catalog typeName

inductive FirstFaulty (catalog : Catalog) (path : List Text) : List Text → Text → Prop where
  | here {typeName : Text} {rest : List Text} (hfaulty : Faulty catalog typeName)
      (hnew : typeName ∉ path) : FirstFaulty catalog path (typeName :: rest) typeName
  | later {typeName other : Text} {rest : List Text} (hpassed : Faulty catalog typeName → typeName ∈ path)
      (h : FirstFaulty catalog path rest other) : FirstFaulty catalog path (typeName :: rest) other

/-- Whether the first faulty references, followed from a type at the end of a path, lead to a type
without a schema. -/
inductive LeadsOut (catalog : Catalog) : List Text → Text → Prop where
  | unbuilt {path : List Text} {typeName : Text} {fault : SchemaFault}
      (h : catalog.schemaOf typeName = .error fault) : LeadsOut catalog path typeName
  | refers {path : List Text} {typeName other : Text} {s : Schema}
      (hs : catalog.schemaOf typeName = .ok s)
      (hfirst : FirstFaulty catalog (typeName :: path) s.references other)
      (h : LeadsOut catalog (typeName :: path) other) : LeadsOut catalog path typeName

variable {catalog : Catalog} {path typeNames : List Text}

theorem exists_firstFaulty (h : ¬∀ typeName ∈ typeNames, catalog.Faulty typeName → typeName ∈ path) :
    ∃ other, catalog.FirstFaulty path typeNames other := by
  induction typeNames with
  | nil => exact absurd nofun h
  | cons typeName rest ih =>
    by_cases hpassed : catalog.Faulty typeName → typeName ∈ path
    · obtain ⟨other,hother⟩ := ih fun hrest => h fun other hother => by
        rcases List.mem_cons.mp hother with rfl | hother
        · exact hpassed
        · exact hrest other hother
      exact ⟨other,.later hpassed hother⟩
    · rw [Classical.not_imp] at hpassed
      exact ⟨typeName,.here hpassed.1 hpassed.2⟩

end Catalog

namespace Registry
variable {catalog : Catalog} {registry after : Registry} {path typeNames : List Text}
  {fault : Option SchemaFault}

def CleanBut (catalog : Catalog) (path : List Text) (registry : Registry) : Prop :=
  ∀ typeName ∈ registry.names, catalog.Faulty typeName → typeName ∈ path

/-- Whether all references of the registered types are registered, some types excepted. -/
def ClosedBut (excepted : Text → Prop) (registry : Registry) : Prop :=
  ∀ e ∈ registry, ¬excepted e.typeName → ∀ other ∈ e.schema.references, other ∈ registry.names

theorem CleanBut.append (h : CleanBut catalog path registry) {typeName : Text} {s : Schema}
    (hs : catalog.schemaOf typeName = .ok s) (hpath : catalog.Faulty typeName → typeName ∈ path) :
    CleanBut catalog path (registry ++ [⟨s,none⟩]) := by
  intro other hother hfaulty
  rw [names_append hs, List.mem_append, List.mem_singleton] at hother
  rcases hother with hother | rfl
  · exact h other hother hfaulty
  · exact hpath hfaulty

theorem CleanBut.cons (h : CleanBut catalog path registry) {typeName : Text} {s : Schema}
    (hs : catalog.schemaOf typeName = .ok s) :
    CleanBut catalog (typeName :: path) (registry ++ [⟨s,none⟩]) := by
  refine CleanBut.append ?_ hs fun _ => List.mem_cons_self ..
  exact fun other hother hfaulty => List.mem_cons_of_mem _ (h other hother hfaulty)

theorem CleanBut.without {typeName : Text} (h : CleanBut catalog (typeName :: path) registry) :
    CleanBut catalog path (registry.without typeName) := by
  intro other hother hfaulty
  obtain ⟨hmem,hne⟩ := mem_names_without.mp hother
  exact (List.mem_cons.mp (h other hmem hfaulty)).resolve_left hne

theorem ClosedBut.append {excepted : Text → Prop} (h : ClosedBut excepted registry) {typeName : Text}
    {s : Schema} (hs : catalog.schemaOf typeName = .ok s) (hexcepted : excepted typeName) :
    ClosedBut excepted (registry ++ [⟨s,none⟩]) := by
  intro e he hnot other hother
  rw [names_append hs]
  rcases List.mem_append.mp he with he | he
  · exact List.mem_append_left _ (h e he hnot other hother)
  · rw [List.mem_singleton] at he
    subst he
    rw [RegistryEntry.typeName, Catalog.name_of_schemaOf hs] at hnot
    exact absurd hexcepted hnot

/-- Good types do not refer to a faulty one that is taken out. -/
theorem ClosedBut.without (h : ClosedBut catalog.Faulty registry) (hbuilt : Built catalog registry)
    {typeName : Text} (hfaulty : catalog.Faulty typeName) :
    ClosedBut catalog.Faulty (registry.without typeName) := by
  intro e he hgood other hother
  have hmem : e ∈ registry := List.mem_of_mem_filter he
  refine mem_names_without.mpr ⟨h e hmem hgood other hother,?_⟩
  rintro rfl
  exact hgood (.refers (hbuilt e hmem) hother hfaulty)

/-- If nothing goes wrong, the references of everything that has been registered are registered. -/
theorem Registers.closedBut {excepted : Text → Prop}
    (h : Registers catalog registry typeNames none after) (hbuilt : Built catalog registry)
    (hclosed : ClosedBut excepted registry) : ClosedBut excepted after := by
  generalize hfault : (none : Option SchemaFault) = fault at h
  induction h generalizing excepted with
  | nil => exact hclosed
  | known _ _ ih => exact ih hbuilt hclosed hfault
  | unbuilt => cases hfault
  | @done registry middle after typeName rest s fault hnew hs hreferences _ ihreferences ihrest =>
    have hmiddle := hreferences.built (hbuilt.append hs)
    have hbut : ClosedBut (fun other => excepted other ∨ other = typeName) middle := by
      refine ihreferences (hbuilt.append hs) (ClosedBut.append ?_ hs (Or.inr rfl)) rfl
      exact fun e he hnot => hclosed e he fun hexcepted => hnot (Or.inl hexcepted)
    refine ihrest hmiddle (fun e he hnot other hother => ?_) hfault
    by_cases hname : e.typeName = typeName
    · have hschema := hmiddle e he
      rw [hname, hs, Except.ok.injEq] at hschema
      subst hschema
      exact hreferences.names_of_ok other hother
    · exact hbut e he (by rintro (h | h); exacts [hnot h, hname h]) other hother
  | undone => cases hfault

theorem mem_names_append {typeName : Text} {s : Schema} (hs : catalog.schemaOf typeName = .ok s)
    (hpath : ∀ other ∈ path, other ∈ registry.names) :
    ∀ other ∈ typeName :: path, other ∈ names (registry ++ [⟨s,none⟩]) := by
  intro other hother
  rw [names_append hs]
  rcases List.mem_cons.mp hother with rfl | hother
  · exact List.mem_append_right _ (List.mem_singleton_self _)
  · exact List.mem_append_left _ (hpath other hother)

theorem not_faulty_of_new {typeName : Text} (hnew : typeName ∉ registry.names)
    (hpath : ∀ other ∈ path, other ∈ registry.names)
    (hpassed : catalog.Faulty typeName → typeName ∈ path) : ¬catalog.Faulty typeName :=
  fun hfaulty => hnew (hpath typeName (hpassed hfaulty))

/-- What a good type changes before its references are followed. -/
theorem append_good {typeName : Text} {s : Schema} (hclean : CleanBut catalog path registry)
    (hpath : ∀ other ∈ path, other ∈ registry.names) (hnew : typeName ∉ registry.names)
    (hs : catalog.schemaOf typeName = .ok s) (hpassed : catalog.Faulty typeName → typeName ∈ path) :
    CleanBut catalog path (registry ++ [⟨s,none⟩]) ∧
      (∀ other ∈ path, other ∈ names (registry ++ [⟨s,none⟩])) ∧
      ∀ other ∈ s.references, catalog.Faulty other → other ∈ path := by
  have hgood := not_faulty_of_new hnew hpath hpassed
  refine ⟨hclean.append hs fun hfaulty => absurd hfaulty hgood,?_,?_⟩
  · exact fun other hother => mem_names_append hs hpath other (List.mem_cons_of_mem _ hother)
  · exact fun other hother hfaulty => absurd (.refers hs hother hfaulty) hgood

/-- Types that are good, or registered already, are registered with nothing going wrong. -/
theorem Registers.good (h : Registers catalog registry typeNames fault after)
    (hclean : CleanBut catalog path registry) (hpath : ∀ typeName ∈ path, typeName ∈ registry.names)
    (hgood : ∀ typeName ∈ typeNames, catalog.Faulty typeName → typeName ∈ path) :
    fault = none ∧ CleanBut catalog path after := by
  induction h with
  | nil => exact ⟨rfl,hclean⟩
  | known _ _ ih => exact ih hclean hpath fun other hother => hgood other (List.mem_cons_of_mem _ hother)
  | unbuilt hnew hfault =>
    exact absurd (.unbuilt hfault) (not_faulty_of_new hnew hpath (hgood _ (List.mem_cons_self ..)))
  | done hnew hs hreferences _ ihreferences ihrest =>
    obtain ⟨hclean',hpath',hgood'⟩ :=
      append_good hclean hpath hnew hs (hgood _ (List.mem_cons_self ..))
    obtain ⟨_,hmiddle⟩ := ihreferences hclean' hpath' hgood'
    exact ihrest hmiddle (fun other hother => hreferences.names_mono _ (hpath' other hother))
      fun other hother => hgood other (List.mem_cons_of_mem _ hother)
  | undone hnew hs _ ih =>
    obtain ⟨hclean',hpath',hgood'⟩ :=
      append_good hclean hpath hnew hs (hgood _ (List.mem_cons_self ..))
    obtain ⟨hnone,_⟩ := ih hclean' hpath' hgood'
    cases hnone

theorem Registers.good_references {middle : Registry} {typeName : Text} {s : Schema}
    (hclean : CleanBut catalog path registry) (hpath : ∀ typeName ∈ path, typeName ∈ registry.names)
    (hnew : typeName ∉ registry.names) (hs : catalog.schemaOf typeName = .ok s)
    (hpassed : catalog.Faulty typeName → typeName ∈ path)
    (h : Registers catalog (registry ++ [⟨s,none⟩]) s.references fault middle) :
    fault = none ∧ CleanBut catalog path middle ∧ ∀ other ∈ path, other ∈ middle.names := by
  obtain ⟨hclean',hpath',hgood'⟩ := append_good hclean hpath hnew hs hpassed
  obtain ⟨hnone,hmiddle⟩ := h.good hclean' hpath' hgood'
  exact ⟨hnone,hmiddle,fun other hother => h.names_mono _ (hpath' other hother)⟩

/-- If the first faulty type leads out, everything faulty is taken out again. -/
theorem Registers.leadsOut {other : Text} (h : Registers catalog registry typeNames fault after)
    (hbuilt : Built catalog registry) (hclean : CleanBut catalog path registry)
    (hclosed : ClosedBut catalog.Faulty registry)
    (hpath : ∀ typeName ∈ path, typeName ∈ registry.names)
    (hfirst : catalog.FirstFaulty path typeNames other) (hout : catalog.LeadsOut path other)
    (herror : ∀ f, fault = some f → f.isSchemaError) :
    fault ≠ none ∧ CleanBut catalog path after ∧ ClosedBut catalog.Faulty after := by
  induction h generalizing path other with
  | nil => cases hfirst
  | known hknown _ ih =>
    cases hfirst with
    | here hfaulty hoff => exact absurd (hclean _ hknown hfaulty) hoff
    | later _ hfirst => exact ih hbuilt hclean hclosed hpath hfirst hout herror
  | unbuilt => exact ⟨nofun,hclean,hclosed⟩
  | done hnew hs hreferences _ ihreferences ihrest =>
    cases hfirst with
    | here hfaulty _ =>
      cases hout with
      | unbuilt hfault => cases hs.symm.trans hfault
      | refers hs' hfirst hout =>
        cases hs.symm.trans hs'
        obtain ⟨hne,_⟩ := ihreferences (hbuilt.append hs) (hclean.cons hs)
          (hclosed.append hs hfaulty) (mem_names_append hs hpath) hfirst hout nofun
        exact absurd rfl hne
    | later hpassed hfirst =>
      obtain ⟨_,hmiddle,hpath'⟩ := hreferences.good_references hclean hpath hnew hs hpassed
      have hone := Registers.done hnew hs hreferences (.nil _)
      exact ihrest (hone.built hbuilt) hmiddle (hone.closedBut hbuilt hclosed) hpath' hfirst hout herror
  | undone hnew hs hreferences ih =>
    cases hfirst with
    | here hfaulty _ =>
      cases hout with
      | unbuilt hfault => cases hs.symm.trans hfault
      | refers hs' hfirst hout =>
        cases hs.symm.trans hs'
        obtain ⟨_,hmiddle,hclosed'⟩ := ih (hbuilt.append hs) (hclean.cons hs)
          (hclosed.append hs hfaulty) (mem_names_append hs hpath) hfirst hout herror
        rw [if_pos (herror _ rfl)]
        exact ⟨nofun,hmiddle.without,
          hclosed'.without (hreferences.built (hbuilt.append hs)) hfaulty⟩
    | later hpassed _ =>
      obtain ⟨hnone,_⟩ := hreferences.good_references hclean hpath hnew hs hpassed
      cases hnone

/-- If the first faulty type does not lead out, something faulty stays. -/
theorem Registers.stays {other : Text} (h : Registers catalog registry typeNames fault after)
    (hclean : CleanBut catalog path registry) (hpath : ∀ typeName ∈ path, typeName ∈ registry.names)
    (hfirst : catalog.FirstFaulty path typeNames other) (hin : ¬catalog.LeadsOut path other) :
    ∃ left ∈ after.names, catalog.Faulty left ∧ left ∉ path := by
  induction h generalizing path other with
  | nil => cases hfirst
  | known hknown _ ih =>
    cases hfirst with
    | here hfaulty hoff => exact absurd (hclean _ hknown hfaulty) hoff
    | later _ hfirst => exact ih hclean hpath hfirst hin
  | unbuilt hnew hfault =>
    cases hfirst with
    | here => exact absurd (.unbuilt hfault) hin
    | later hpassed _ => exact absurd (.unbuilt hfault) (not_faulty_of_new hnew hpath hpassed)
  | @done _ _ _ typeName _ _ _ hnew hs hreferences hrest _ ihrest =>
    cases hfirst with
    | here hfaulty hoff =>
      refine ⟨typeName,hrest.names_mono _ (hreferences.names_mono _ ?_),hfaulty,hoff⟩
      exact mem_names_append hs hpath typeName (List.mem_cons_self ..)
    | later hpassed hfirst =>
      obtain ⟨_,hmiddle,hpath'⟩ := hreferences.good_references hclean hpath hnew hs hpassed
      exact ihrest hmiddle hpath' hfirst hin
  | @undone _ _ typeName _ s _ hnew hs hreferences ih =>
    cases hfirst with
    | here hfaulty hoff =>
      have hnot : ¬∀ next ∈ s.references, catalog.Faulty next → next ∈ typeName :: path := by
        intro hgood
        obtain ⟨hnone,_⟩ := hreferences.good (hclean.cons hs) (mem_names_append hs hpath) hgood
        cases hnone
      obtain ⟨next,hnext⟩ := Catalog.exists_firstFaulty hnot
      obtain ⟨left,hleft,hfaulty,hoff⟩ := ih (hclean.cons hs) (mem_names_append hs hpath) hnext
        fun hout => hin (.refers hs hnext hout)
      rw [List.mem_cons, not_or] at hoff
      refine ⟨left,?_,hfaulty,hoff.2⟩
      split
      · exact mem_names_without.mpr ⟨hleft,hoff.1⟩
      · exact hleft
    | later hpassed _ =>
      obtain ⟨hnone,_⟩ := hreferences.good_references hclean hpath hnew hs hpassed
      cases hnone

end Registry
end SealedRows
