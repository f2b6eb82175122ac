import SealedRows.Proofs.Schema.Registration

/-! # Names of columns

A column is named by its field or by its options, and no declaration gets by with an empty name in the
options. So where every field has a name every column has one.
-/
namespace SealedRows

/-- Whether all columns of a table have names. -/
def Schema.Named (s : Schema) : Prop := ∀ c ∈ s.columns, c.name ≠ []

/-- Whether all fields of a type are stored under names. -/
def RecordType.Named (r : RecordType) : Prop := ∀ f ∈ r.fields, Schema.storageName f ≠ []

/-- Whether all fields of a declaration have names. -/
def TypeDeclaration.Named (d : TypeDeclaration) : Prop := ∀ f ∈ d.fields, f.name ≠ []

theorem RecordType.mem_of_mem_foldl_withField {declared fields : List Field} {f : Field}
    (h : f ∈ declared.foldl withField fields) : f ∈ fields ∨ f ∈ declared := by
  induction declared generalizing fields with
  | nil => exact Or.inl h
  | cons d rest ih =>
    rcases ih h with hf | hf
    · unfold withField at hf
      split at hf
      · obtain ⟨g,hg,rfl⟩ := List.mem_map.mp hf
        split
        · exact Or.inr List.mem_cons_self
        · exact Or.inl hg
      · rcases List.mem_append.mp hf with hf | hf
        · exact Or.inl hf
        · rw [List.mem_singleton.mp hf]
          exact Or.inr List.mem_cons_self
    · exact Or.inr (List.mem_cons_of_mem d hf)

namespace Catalog

theorem typeOf_named {base : Option RecordType} {d : TypeDeclaration} (hcolumns : NamesColumns d)
    (hd : d.Named) (hbase : ∀ r, base = some r → r.Named) : (typeOf base d).Named := by
  have hinherited : ∀ f ∈ (base.map (·.fields)).getD [], Schema.storageName f ≠ [] := by
    cases base with
    | none => exact fun f hf => (List.not_mem_nil hf).elim
    | some r => exact hbase r rfl
  unfold RecordType.Named typeOf
  dsimp only
  split
  · rename_i hrecord
    intro f hf
    rcases RecordType.mem_of_mem_foldl_withField hf with hf | hf
    · exact hinherited f hf
    · obtain ⟨e,he,rfl⟩ := List.mem_map.mp hf
      unfold Schema.storageName fieldOf
      dsimp only
      cases hcolumn : e.column with
      | none => exact hd e he
      | some c =>
        have hname := hcolumns hrecord e he c hcolumn
        cases hoption : c.name with
        | none =>
          rw [Option.getD_some, hoption]
          exact hd e he
        | some name =>
          rw [Option.getD_some, hoption]
          exact fun hempty => hname (hoption.trans (congrArg some hempty))
  · exact hinherited

/-- Where all declared fields have names, all columns have names. -/
theorem named_of_schemaOf {ds : List TypeDeclaration} {catalog : Catalog}
    (hcatalog : ofDeclarations ds = .ok catalog) (hds : ∀ d ∈ ds, d.Named) {typeName : Text} {s : Schema}
    (hs : catalog.schemaOf typeName = .ok s) : s.Named := by
  obtain ⟨r,hfind,hr⟩ := schemaOf_eq_ok.mp hs
  have hnamed : r.Named := forall_mem_of_declarations hcatalog
    (fun d hd hcolumns _ hbase => typeOf_named hcolumns (hds d hd) hbase) r (List.mem_of_find?_eq_some hfind)
  obtain ⟨hints,hbuilt⟩ := Schema.exists_isSchemaOf hr
  intro c hc
  obtain ⟨f,hf,kind,reference,_,_,_,hcolumn⟩ := hbuilt.exists_field hc
  rw [hcolumn]
  exact hnamed f hf

end Catalog
end SealedRows
