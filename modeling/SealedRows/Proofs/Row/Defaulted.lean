import SealedRows.Proofs.Row.RoundTrip
import SealedRows.Proofs.Sql.Constraint

/-! # Columns left to their defaults

A column is left out of a written row if it holds null and has a default. The database then puts the
default of the column's clause in its place. The clause has one unless the column is the primary key, whose
default is never declared, or its encoded default has no literal: a number that is not finite or a text
with NUL.
-/
namespace SealedRows

/-- A column that has a default needs a value. -/
theorem Schema.IsColumnFor.isNotNull {catalog : Catalog} {hints : List (Text × Hint)} {f : Field} {c : Column}
    (h : IsColumnFor catalog hints f c) (hdefault : c.defaultValue ≠ .none) : c.isNotNull := by
  obtain ⟨kind,reference,-,-,-,hc⟩ := h
  rw [hc] at hdefault ⊢
  have hnone : f.options.defaultValue.isNone = false :=
    Bool.eq_false_iff.mpr (mt Value.isNone_iff.mp hdefault)
  simp [columnAt, ColumnOptions.isNotNull, hnone]

/-- Whether the clause of a column gives it a value as its default. -/
def Column.Declares (c : Column) (v : Value) : Prop := ∃ constraints,
  Sql.columnDefinition c = .ok (c.name ++ " " ++ c.storageClass.name ++ constraints) ∧
    Sql.Defaults constraints v

/-- The default that a column is declared with is the encoded one, if it has a literal and the column is no
key. -/
theorem Column.declares_iff {c : Column} (hplain : c.isEncrypted = false) (hrequired : c.isNotNull)
    (hdefault : c.defaultValue ≠ .none) (v : Value) : c.Declares v ↔
      c.isPrimaryKey = false ∧ c.encode c.defaultValue none = .ok v ∧ Sql.HasLiteral v := by
  rw [encode_eq_ok_of_plain hplain hdefault, ← ValueKind.encode_plain c.kind hdefault]
  constructor
  · rintro ⟨constraints,hclause,hv⟩
    obtain ⟨others,hconstrains,heq⟩ := Sql.columnDefinition_eq_ok hclause
    rw [← List.append_cancel_left heq] at hconstrains
    exact (hconstrains.defaults_iff hrequired hdefault v).mp hv
  · rintro ⟨hkey,hencode,hliteral⟩
    have hconstrains := Sql.Constrains.filled hkey hrequired hdefault hencode
    exact ⟨_,Sql.columnDefinition_of_filled hkey hrequired hdefault hencode,
      (hconstrains.defaults_iff hrequired hdefault v).mpr ⟨hkey,hencode,hliteral⟩⟩

/-- A column of a built schema that has a default is plain and needs a value. -/
theorem Registry.Reached.column_of_default {catalog : Catalog} {registry : Registry}
    (hregistry : registry.Reached catalog) {e : RegistryEntry} (he : e ∈ registry) {c : Column}
    (hc : c ∈ e.schema.columns) (hdefault : c.defaultValue ≠ .none) :
    c.isEncrypted = false ∧ c.isNotNull := by
  obtain ⟨r,-,hs⟩ := Catalog.schemaOf_eq_ok.mp (hregistry.built e he)
  obtain ⟨hints,hschema⟩ := Schema.exists_isSchemaOf hs
  obtain ⟨f,-,hf⟩ := hschema.exists_field hc
  refine ⟨?_,hf.isNotNull hdefault⟩
  rw [← Bool.not_eq_true]
  intro hencrypted
  exact hdefault (hf.isColumnOf.encrypted hencrypted).2

namespace Row
variable {ring : KeyRing} {e : RegistryEntry} {salt : Bytes} {includeCounted : Bool}
  {valueOf : Text → Value} {row : Row}

/-- A column that is left out of a row for its default is declared with what it stores of the default, if it
is not the primary key and what it stores has a literal, and with no default otherwise. What is stored is
read back as the default. -/
theorem declares_of_omitted {ds : List TypeDeclaration} {catalog : Catalog}
    (hcatalog : Catalog.ofDeclarations ds = .ok catalog) {registry : Registry}
    (hregistry : registry.Reached catalog) (he : e ∈ registry)
    (hrow : encode ring e salt includeCounted valueOf = .ok row) {c : Column} (hc : c ∈ e.schema.columns)
    (hnone : valueOf c.fieldName = .none) (hdefault : c.defaultValue ≠ .none) :
    c.name ∉ row.map (·.name) ∧
    (∀ v, c.Declares v ↔
      c.isPrimaryKey = false ∧ c.encode c.defaultValue none = .ok v ∧ Sql.HasLiteral v) ∧
    ∀ stored, c.encode c.defaultValue none = .ok stored → ∃ w, c.decode stored none = .ok w ∧
      (c.kind.Admits c.defaultValue → Canonical false c.kind c.defaultValue w) := by
  obtain ⟨hplain,hrequired⟩ := hregistry.column_of_default he hc hdefault
  refine ⟨?_,c.declares_iff hplain hrequired hdefault,?_⟩
  · rw [mem_names_encode (hregistry.sound hcatalog he) hrow hc]
    have hvalue : c.defaultValue.isNone = false := Bool.eq_false_iff.mpr (mt Value.isNone_iff.mp hdefault)
    have hnull : (valueOf c.fieldName).isNone := Value.isNone_iff.mpr hnone
    simp [isWritten, hvalue, hnull]
  · intro stored hstored
    obtain ⟨-,w,hread,hdecode⟩ := Column.decode_encode hstored
    refine ⟨w,hdecode,fun hadmits => ?_⟩
    rw [← hplain]
    exact Column.canonical_readBack hadmits hread

end Row
end SealedRows

namespace SealedRows.Label

def declaration : TypeDeclaration :=
  ⟨"Label",some "labels",none,true,
    [⟨"id","int",some { ColumnOptions.plain with primaryKey := true },.required,true⟩,
      ⟨"text","str",some { ColumnOptions.plain with defaultValue := .text "none" },.required,true⟩]⟩

def catalog : Catalog := [Catalog.typeOf none declaration]

def text : Column :=
  { name := "text", fieldName := "text", kind := .string, ordinal := 1, isNotNull := true,
    defaultValue := .text "none" }

def schema : Schema :=
  ⟨"labels",Catalog.typeOf none declaration,
    [{ name := "id", fieldName := "id", kind := .integer ⟨true,.four⟩, ordinal := 0, isPrimaryKey := true },
      text],false⟩

def entry : RegistryEntry := ⟨schema,none⟩

/-- The values of a label without a text. -/
def valueOf (field : Text) : Value := if field = "id" then .int 7 else .none

set_option maxRecDepth 2000 in
theorem reached : Registry.Reached catalog [entry] :=
  .schemaFor .empty "Label"

theorem declares_text : ∃ row, Row.encode ⟨.des,none⟩ entry [] true valueOf = .ok row ∧
    text.name ∉ row.map (·.name) ∧ text.Declares (.text "none") ∧
    ∃ w, text.decode (.text "none") none = .ok w ∧ Canonical false .string (.text "none") w := by
  obtain ⟨row,hrow⟩ : ∃ row, Row.encode ⟨.des,none⟩ entry [] true valueOf = .ok row := ⟨_,rfl⟩
  have hcatalog : Catalog.ofDeclarations [declaration] = .ok catalog := rfl
  have htext : text ∈ entry.schema.columns := List.mem_cons_of_mem _ (List.mem_singleton_self text)
  obtain ⟨homitted,hdeclares,hread⟩ := Row.declares_of_omitted hcatalog reached
    (List.mem_singleton_self entry) hrow htext rfl nofun
  have hstored : text.encode text.defaultValue none = .ok (.text "none") := rfl
  have hliteral : (0 : CodePoint) ∉ Text.ofString "none" := by decide
  obtain ⟨w,hw,hcanonical⟩ := hread _ hstored
  exact ⟨row,hrow,homitted,(hdeclares _).mpr ⟨rfl,hstored,hliteral⟩,w,hw,hcanonical (.string _)⟩

end SealedRows.Label

namespace SealedRows.Code

def declaration : TypeDeclaration :=
  ⟨"Code",some "codes",none,true,
    [⟨"code","str",some { ColumnOptions.plain with primaryKey := true, defaultValue := .text "none" },
      .required,true⟩]⟩

def catalog : Catalog := [Catalog.typeOf none declaration]

def code : Column :=
  { name := "code", fieldName := "code", kind := .string, ordinal := 0, isPrimaryKey := true,
    isNotNull := true, defaultValue := .text "none" }

def schema : Schema := ⟨"codes",Catalog.typeOf none declaration,[code],false⟩

def entry : RegistryEntry := ⟨schema,none⟩

set_option maxRecDepth 2000 in
theorem reached : Registry.Reached catalog [entry] :=
  .schemaFor .empty "Code"

/-- The clause of the key has no default. -/
example : Sql.columnDefinition code = .ok "code TEXT PRIMARY KEY NOT NULL" := rfl

/-- Not every column that is left out for its default is declared with it. -/
theorem omitted_without_default : ¬∀ (ds : List TypeDeclaration) (catalog : Catalog) (registry : Registry)
    (e : RegistryEntry) (c : Column) (ring : KeyRing) (salt : Bytes) (includeCounted : Bool)
    (valueOf : Text → Value) (row : Row), Catalog.ofDeclarations ds = .ok catalog →
      registry.Reached catalog → e ∈ registry → c ∈ e.schema.columns →
      Row.encode ring e salt includeCounted valueOf = .ok row → valueOf c.fieldName = .none →
      c.defaultValue ≠ .none →
      ∃ stored, c.encode c.defaultValue none = .ok stored ∧ c.Declares stored := by
  intro h
  have hcatalog : Catalog.ofDeclarations [declaration] = .ok catalog := rfl
  have hrow : Row.encode ⟨.des,none⟩ entry [] true (fun _ => .none) = .ok [] := rfl
  obtain ⟨stored,-,hdeclares⟩ := h [declaration] catalog [entry] entry code ⟨.des,none⟩ [] true
    (fun _ => .none) []
    hcatalog reached (List.mem_singleton_self entry) (List.mem_singleton_self code) hrow rfl nofun
  have hiff := Column.declares_iff (c := code) rfl rfl nofun stored
  cases (hiff.mp hdeclares).1

end SealedRows.Code
