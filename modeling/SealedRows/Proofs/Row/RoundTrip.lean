import SealedRows.Proofs.Row.Written
import SealedRows.Proofs.Schema.Registered

/-! # Rows read back as they were written

A row that is written of a record is decoded to one value for each column that was written, in the
order of the columns: the value of the record in its canonical form.
-/
namespace SealedRows.Row
variable {ring : KeyRing} {e : RegistryEntry} {salt : Bytes} {includeCounted : Bool}
  {valueOf : Text → Value} {row : Row}

/-- The salt is no value of a record. -/
theorem known_saltCell (hs : e.schema.Sound) : known e.schema (saltCell e.schema salt) = [] := by
  unfold saltCell
  split
  · rw [known_cons, hs.column?_saltColumnName]
    rfl
  · rfl

/-- Whether a stored cell belongs to a column and holds what the column stores of its value. -/
def Stores (valueOf : Text → Value) (cipher : Option CipherContext) (c : Column)
    (stored : Column × Value) : Prop :=
  stored.1 = c ∧ c.encode (valueOf c.fieldName) cipher = .ok stored.2

/-- Whether an entry is what a column gives back of its value, under the field of the column. -/
def GivesBack (valueOf : Text → Value) (c : Column) (entry : Text × Value) : Prop :=
  entry.1 = c.fieldName ∧ c.readBack (valueOf c.fieldName) = .ok entry.2

theorem known_of_holds (hs : e.schema.Sound) {cipher : Option CipherContext} {columns : List Column}
    (hcolumns : ∀ c ∈ columns, c ∈ e.schema.columns) {cells : Row}
    (h : List.Forall₂ (Holds valueOf cipher) columns cells) :
    List.Forall₂ (Stores valueOf cipher) columns (known e.schema cells) := by
  induction h with
  | nil => exact .nil
  | @cons c cell columns cells hcell _ ih =>
    have hc := hs.column?_name (hcolumns c (List.mem_cons_self ..))
    rw [known_cons, hcell.1, hc]
    exact .cons ⟨rfl,hcell.2⟩ (ih fun d hd => hcolumns d (List.mem_cons_of_mem _ hd))

/-- Stored cells are read as what their columns give back, in a row with the salt of the cells. -/
theorem exists_entries (hs : e.schema.Sound)
    (hsalt : e.schema.hasEncryptedColumns → row.salt = .bytes salt) {cipher : Option CipherContext}
    (hcipher : sealing ring e salt = .ok cipher) {columns : List Column}
    (hcolumns : ∀ c ∈ columns, c ∈ e.schema.columns) {stored : List (Column × Value)}
    (hstored : List.Forall₂ (Stores valueOf cipher) columns stored) :
    ∃ entries, List.Forall₂ (Reads ring e row) stored entries ∧
      List.Forall₂ (GivesBack valueOf) columns entries := by
  induction hstored with
  | nil => exact ⟨[],.nil,.nil⟩
  | @cons c stored columns rest hc _ ih =>
    obtain ⟨d,raw⟩ := stored
    obtain ⟨rfl,hraw⟩ := hc
    obtain ⟨w,hread,hopened⟩ :=
      opened_of_encode hs hsalt hcipher (hcolumns _ (List.mem_cons_self ..)) hraw
    obtain ⟨entries,hreads,hentries⟩ := ih fun c hc => hcolumns c (List.mem_cons_of_mem _ hc)
    exact ⟨(_,w) :: entries,.cons ⟨rfl,hopened⟩ hreads,.cons ⟨rfl,hread⟩ hentries⟩

/-- A written row is decoded to what the written columns give back. -/
theorem decode_written (hs : e.schema.Sound)
    (h : encode ring e salt includeCounted valueOf = .ok row) :
    ∃ values, row.decode ring e = .ok values ∧ List.Forall₂ (GivesBack valueOf)
      (e.schema.columns.filter (isWritten includeCounted valueOf)) values := by
  have hnames := nodup_names_encode hs h
  have hsalt : e.schema.hasEncryptedColumns → row.salt = .bytes salt := fun hencrypted =>
    salt_eq_of_mem hnames (salt_mem_encode hencrypted h)
  obtain ⟨cipher,cells,hcipher,hrow,hcells⟩ := encode_eq_ok h
  have hcolumns : ∀ c ∈ e.schema.columns.filter (isWritten includeCounted valueOf),
      c ∈ e.schema.columns := fun c hc => List.mem_of_mem_filter hc
  have hknown : known e.schema row = known e.schema cells := by
    rw [hrow, known, List.filterMap_append, ← known, ← known, known_saltCell hs, List.append_nil]
  obtain ⟨entries,hreads,hentries⟩ :=
    exists_entries hs hsalt hcipher hcolumns (known_of_holds hs hcolumns hcells)
  rw [← hknown] at hreads
  exact ⟨entries,(decode_eq_ok hs hnames).mpr hreads,hentries⟩

theorem ofValues_row (row : Row) : ofValues (row.map (·.name)) (row.map (·.value)) = .ok row := by
  unfold ofValues
  rw [if_neg (by simp)]
  congr 1
  induction row with
  | nil => rfl
  | cons cell rest ih => rw [List.map_cons, List.map_cons, List.zipWith_cons_cons, ih]

/-- A row that is written of a record whose values have the types of their columns is decoded to one
value for each written column, in its canonical form. -/
theorem decode_encode_canonical {ds : List TypeDeclaration} {catalog : Catalog}
    (hcatalog : Catalog.ofDeclarations ds = .ok catalog) {registry : Registry}
    (hregistry : registry.Reached catalog) (he : e ∈ registry)
    (hadmits : ∀ c ∈ e.schema.columns, c.kind.Admits (valueOf c.fieldName))
    (h : encode ring e salt includeCounted valueOf = .ok row) :
    ∃ cells values, ofValues (row.map (·.name)) (row.map (·.value)) = .ok cells ∧
      cells.decode ring e = .ok values ∧
      List.Forall₂ (fun c entry => entry.1 = c.fieldName ∧
          Canonical c.isEncrypted c.kind (valueOf c.fieldName) entry.2)
        (e.schema.columns.filter fun c => c.name ∈ row.map (·.name)) values := by
  have hs := hregistry.sound hcatalog he
  obtain ⟨values,hdecode,hvalues⟩ := decode_written hs h
  refine ⟨row,values,ofValues_row row,hdecode,?_⟩
  have hwritten : (e.schema.columns.filter fun c => c.name ∈ row.map (·.name)) =
      e.schema.columns.filter (isWritten includeCounted valueOf) := by
    refine List.filter_congr fun c hc => ?_
    rw [Bool.eq_iff_iff, decide_eq_true_iff, mem_names_encode hs h hc]
  have hall : ∀ c ∈ e.schema.columns.filter (isWritten includeCounted valueOf),
      c.kind.Admits (valueOf c.fieldName) := fun c hc => hadmits c (List.mem_of_mem_filter hc)
  rw [hwritten]
  refine ((List.forall₂_and_left _ _).mpr ⟨hall,hvalues⟩).imp ?_
  rintro c entry ⟨hc,hfield,hread⟩
  exact ⟨hfield,Column.canonical_readBack hc hread⟩

end SealedRows.Row

namespace SealedRows.Note

def declaration : TypeDeclaration :=
  ⟨"Note",some "notes",none,true,
    [⟨"id","int",some { ColumnOptions.plain with primaryKey := true, autoIncrement := true },.required,
        true⟩,
      ⟨"body","str",some { ColumnOptions.plain with encrypted := true },.required,true⟩]⟩

def catalog : Catalog := [Catalog.typeOf none declaration]

def schema : Schema :=
  ⟨"notes",Catalog.typeOf none declaration,
    [{ name := "id", fieldName := "id", kind := .integer ⟨true,.four⟩, ordinal := 0,
       isPrimaryKey := true, isAutoIncrement := true },
      { name := "body", fieldName := "body", kind := .string, ordinal := 1, isEncrypted := true }],true⟩

/-- The registered schema of notes, whose table has no key of its own. -/
def entry : RegistryEntry := ⟨schema,none⟩

/-- A ring with a key for all tables. -/
def ring : KeyRing := ⟨.des,some [1, 2, 3, 4, 5, 6, 7, 8]⟩

/-- The values of a note whose text is a surrogate pair. -/
def valueOf (field : Text) : Value := if field = "id" then .int 7 else .text [0xD83D, 0xDE00]

set_option maxRecDepth 2000 in
theorem reached : Registry.Reached catalog [entry] :=
  .schemaFor .empty "Note"

theorem admits : ∀ c ∈ entry.schema.columns, c.kind.Admits (valueOf c.fieldName) := by
  intro c hc
  rcases List.mem_cons.mp hc with rfl | hc
  · exact .integer _ rfl
  · rw [List.mem_singleton.mp hc]
    exact .string _

set_option maxRecDepth 2000 in
theorem decode_encode_note : ∃ row cells values,
    Row.encode ring entry (List.replicate 8 5) true valueOf = .ok row ∧
      Row.ofValues (row.map (·.name)) (row.map (·.value)) = .ok cells ∧
      cells.decode ring entry = .ok values ∧
      List.Forall₂ (fun c entry => entry.1 = c.fieldName ∧
          Canonical c.isEncrypted c.kind (valueOf c.fieldName) entry.2)
        (entry.schema.columns.filter fun c => c.name ∈ row.map (·.name)) values := by
  obtain ⟨row,hrow⟩ : ∃ row, Row.encode ring entry (List.replicate 8 5) true valueOf = .ok row :=
    ⟨_,rfl⟩
  have hcatalog : Catalog.ofDeclarations [declaration] = .ok catalog := rfl
  obtain ⟨cells,values,h⟩ := Row.decode_encode_canonical hcatalog reached
    (List.mem_singleton_self entry) admits hrow
  exact ⟨row,cells,values,hrow,h⟩

end SealedRows.Note
