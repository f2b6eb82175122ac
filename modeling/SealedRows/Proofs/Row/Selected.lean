import SealedRows.Proofs.Row.Overwritten
import SealedRows.Proofs.Sql.Discreet

/-! # Parts of rows

Cells of a row are decoded to the same values as in the whole row, in any order and as often as they
occur, if the salt is among them wherever it is needed. So reading some of the columns of a row agrees with
reading all of them.
-/
namespace SealedRows.Row

/-! ## Values under names -/

section
variable {values : List (Text × Value)} {name field : Text}

theorem lookup_eq_none (h : field ∉ values.map (·.1)) : values.lookup field = none := by
  refine List.lookup_eq_none_iff.mpr fun entry hentry => ?_
  rw [bne_iff_ne]
  rintro rfl
  exact h (List.mem_map_of_mem hentry)

theorem lookup_replaced_of_ne (h : field ≠ name) (values : List (Text × Value)) (v : Value) :
    (values.map fun e => if e.1 = name then (name,v) else e).lookup field = values.lookup field := by
  have hother : (field == name) = false := beq_eq_false_iff_ne.mpr h
  induction values with
  | nil => rfl
  | cons entry rest ih =>
    obtain ⟨k,w⟩ := entry
    rw [List.map_cons]
    split
    · rename_i hname
      cases hname
      rw [List.lookup_cons, List.lookup_cons, hother, ih]
    · rw [List.lookup_cons, List.lookup_cons, ih]

theorem lookup_replaced_self (h : name ∈ values.map (·.1)) (v : Value) :
    (values.map fun e => if e.1 = name then (name,v) else e).lookup name = some v := by
  induction values with
  | nil => cases h
  | cons entry rest ih =>
    obtain ⟨k,w⟩ := entry
    rw [List.map_cons]
    split
    · rw [List.lookup_cons_self]
    · rename_i hname
      have hother : (name == k) = false := beq_eq_false_iff_ne.mpr fun heq => hname heq.symm
      rw [List.lookup_cons, hother]
      rcases List.mem_cons.mp h with heq | hrest
      · exact absurd heq.symm hname
      · exact ih hrest

/-- A value that is put under a name is found there, and all others are found as before. -/
theorem lookup_withEntry (values : List (Text × Value)) (name : Text) (v : Value) (field : Text) :
    (withEntry values name v).lookup field = if field = name then some v else values.lookup field := by
  by_cases hname : name ∈ values.map (·.1)
  · have hany : values.any (·.1 = name) := by
      obtain ⟨entry,hentry,heq⟩ := List.mem_map.mp hname
      exact List.any_eq_true.mpr ⟨entry,hentry,decide_eq_true heq⟩
    rw [withEntry, if_pos hany]
    by_cases hfield : field = name
    · rw [if_pos hfield, hfield, lookup_replaced_self hname]
    · rw [if_neg hfield, lookup_replaced_of_ne hfield]
  · rw [withEntry_of_new hname, List.lookup_append]
    by_cases hfield : field = name
    · rw [if_pos hfield, hfield, lookup_eq_none hname, Option.none_or, List.lookup_cons_self]
    · have hother : (field == name) = false := beq_eq_false_iff_ne.mpr hfield
      rw [if_neg hfield, List.lookup_cons, hother, List.lookup_nil, Option.or_none]

end

variable {ring : KeyRing} {e : RegistryEntry} {row cells : Row}

/-! ## Cells of a row -/

/-- The fields of the columns that a row holds. -/
def fields (s : Schema) (cells : Row) : List Text := (known s cells).map fun stored => stored.1.fieldName

/-- Cells that can be decoded by themselves are decoded together, also where one column occurs again. -/
theorem decodeCells_of_opened (valueAt : Text → Value)
    (h : ∀ p ∈ known e.schema cells, opened ring e row p.1 p.2 = .ok (valueAt p.1.fieldName))
    {context : Option CipherContext} (hcontext : ∀ k, context = some k → cipher ring e row = .ok k)
    (values : List (Text × Value)) : ∃ result, decodeCells ring e row context values cells = .ok result ∧
      ∀ field, result.lookup field =
        if field ∈ fields e.schema cells then some (valueAt field) else values.lookup field := by
  induction cells generalizing context values with
  | nil => exact ⟨values,rfl,fun field => (if_neg (by simp [fields, known])).symm⟩
  | cons cell rest ih =>
    rw [known_cons] at h
    unfold fields
    rw [known_cons]
    cases hcolumn : e.schema.column? cell.name with
    | none =>
      rw [hcolumn] at h
      unfold decodeCells
      rw [hcolumn]
      exact ih h hcontext values
    | some c =>
      rw [hcolumn] at h
      obtain ⟨hc,hrest⟩ := List.forall_mem_cons.mp h
      obtain ⟨next,hcipher,hv⟩ := (opened_eq_ok hcontext).mp hc
      obtain ⟨result,hresult,hlookup⟩ := ih hrest (cipher_of_nextContext hcontext hcipher)
        (withEntry values c.fieldName (valueAt c.fieldName))
      refine ⟨result,?_,fun field => ?_⟩
      · rw [decodeCells_cons hcolumn]
        exact bind_eq_ok.mpr ⟨next,hcipher,bind_eq_ok.mpr ⟨_,hv,hresult⟩⟩
      · have hmem : field ∈ (((some c).map fun c => (c,cell.value)).toList ++ known e.schema rest).map
            (fun stored => stored.1.fieldName) ↔ field = c.fieldName ∨ field ∈ fields e.schema rest :=
          List.mem_cons
        simp only [hlookup, lookup_withEntry, hmem]
        by_cases hfield : field = c.fieldName
        · simp [hfield]
        · simp [hfield]

theorem mem_known_of_subset {s : Schema} (h : ∀ cell ∈ cells, cell ∈ row) {p : Column × Value}
    (hp : p ∈ known s cells) : p ∈ known s row := by
  obtain ⟨cell,hcell,hp⟩ := List.mem_filterMap.mp hp
  exact List.mem_filterMap.mpr ⟨cell,h cell hcell,hp⟩

/-- A cell is decoded in the same way in every row with the same salt, and in any row if it is plain. -/
theorem opened_congr {c : Column} (h : c.isEncrypted → cells.salt = row.salt) (raw : Value) :
    opened ring e cells c raw = opened ring e row c raw := by
  unfold opened
  cases hencrypted : c.isEncrypted with
  | false => rfl
  | true => rw [cipher, cipher, h hencrypted]

/-- Cells of a row with one cell for each name are decoded as in the row, if they have its salt. -/
theorem decode_of_subset (hs : e.schema.Sound) (hnames : (row.map (·.name)).Nodup)
    {values : List (Text × Value)} (h : row.decode ring e = .ok values) (hcells : ∀ cell ∈ cells, cell ∈ row)
    (hsalt : ∀ p ∈ known e.schema cells, p.1.isEncrypted → cells.salt = row.salt) :
    ∃ part, cells.decode ring e = .ok part ∧ ∀ field,
      part.lookup field = if field ∈ fields e.schema cells then values.lookup field else none := by
  have hfound : ∀ p ∈ known e.schema cells, ∃ v, opened ring e cells p.1 p.2 = .ok v ∧
      values.lookup p.1.fieldName = some v := by
    intro p hp
    obtain ⟨hc,hcell⟩ := mem_of_mem_known (mem_known_of_subset hcells hp)
    obtain ⟨v,hv,hlookup⟩ := lookup_decoded hs hnames h hc hcell
    exact ⟨v,by rw [opened_congr (hsalt p hp), hv],hlookup⟩
  let valueAt (field : Text) : Value := (values.lookup field).getD .none
  have hopened : ∀ p ∈ known e.schema cells, opened ring e cells p.1 p.2 = .ok (valueAt p.1.fieldName) := by
    intro p hp
    obtain ⟨v,hv,hlookup⟩ := hfound p hp
    rw [hv, ← Option.getD_some (a := v), ← hlookup]
  have hnone : ∀ k, (none : Option CipherContext) = some k → cipher ring e cells = .ok k := nofun
  obtain ⟨part,hpart,hlookup⟩ := decodeCells_of_opened valueAt hopened hnone []
  refine ⟨part,hpart,fun field => ?_⟩
  rw [hlookup]
  split
  · rename_i hfield
    obtain ⟨p,hp,rfl⟩ := List.mem_map.mp hfield
    obtain ⟨v,_,hv⟩ := hfound p hp
    simp only [valueAt, hv, Option.getD_some]
  · rfl

/-! ## Rows in another order -/

theorem find?_of_perm (hnames : (row.map (·.name)).Nodup) (h : row.Perm cells) (name : Text) :
    List.find? (fun cell => cell.name = name) cells = List.find? (fun cell => cell.name = name) row := by
  cases hfind : List.find? (fun cell => cell.name = name) row with
  | none =>
    refine List.find?_eq_none.mpr fun cell hcell => ?_
    exact List.find?_eq_none.mp hfind cell (h.mem_iff.mpr hcell)
  | some cell =>
    have hname : cell.name = name := by simpa using List.find?_some hfind
    subst hname
    exact find?_of_nodup ((h.map _).nodup_iff.mp hnames) (h.mem_iff.mp (List.mem_of_find?_eq_some hfind))

theorem salt_of_perm (hnames : (row.map (·.name)).Nodup) (h : row.Perm cells) : cells.salt = row.salt := by
  rw [salt, salt, find?_of_perm hnames h]

theorem fields_of_perm {s : Schema} (h : row.Perm cells) : (fields s row).Perm (fields s cells) :=
  (h.filterMap _).map _

/-- The cells of a row are decoded to the same values in any order. -/
theorem decode_of_perm (hs : e.schema.Sound) (hnames : (row.map (·.name)).Nodup) (hcells : row.Perm cells)
    {values : List (Text × Value)} (h : row.decode ring e = .ok values) :
    ∃ other, cells.decode ring e = .ok other ∧ ∀ field, other.lookup field = values.lookup field := by
  obtain ⟨other,hother,hlookup⟩ := decode_of_subset hs hnames h (fun cell => hcells.mem_iff.mpr)
    fun _ _ _ => salt_of_perm hnames hcells
  refine ⟨other,hother,fun field => ?_⟩
  rw [hlookup]
  split
  · rfl
  · rename_i hfield
    have hreads := fields_of_reads ((decode_eq_ok hs hnames).mp h)
    rw [← (fields_of_perm hcells).mem_iff, fields, hreads] at hfield
    exact (lookup_eq_none hfield).symm

/-! ## Selected columns -/

/-- The cells of a row under names. -/
def selected (row : Row) (names : List Text) : Row :=
  names.filterMap fun name => List.find? (fun cell => cell.name = name) row

theorem mem_selected {names : List Text} {cell : Cell} (h : cell ∈ selected row names) :
    cell ∈ row ∧ cell.name ∈ names := by
  obtain ⟨name,hname,hfind⟩ := List.mem_filterMap.mp h
  have heq : cell.name = name := by simpa using List.find?_some hfind
  exact ⟨List.mem_of_find?_eq_some hfind,heq ▸ hname⟩

theorem find?_selected {names : List Text} {name : Text} (h : name ∈ names) :
    List.find? (fun cell => cell.name = name) (selected row names) =
      List.find? (fun cell => cell.name = name) row := by
  cases hfind : List.find? (fun cell => cell.name = name) row with
  | none =>
    refine List.find?_eq_none.mpr fun cell hcell => ?_
    exact List.find?_eq_none.mp hfind cell (mem_selected hcell).1
  | some cell =>
    have hname : cell.name = name := by simpa using List.find?_some hfind
    induction names with
    | nil => cases h
    | cons other names ih =>
      unfold selected
      rw [List.filterMap_cons]
      by_cases hother : other = name
      · rw [hother, hfind]
        exact List.find?_cons_of_pos (decide_eq_true hname)
      · have hnames : name ∈ names := (List.mem_cons.mp h).resolve_left fun heq => hother heq.symm
        cases hskipped : List.find? (fun cell => cell.name = other) row with
        | none => exact ih hnames
        | some d =>
          have hd : d.name = other := by simpa using List.find?_some hskipped
          rw [← hd] at hother
          exact (List.find?_cons_of_neg (by simpa using hother)).trans (ih hnames)

theorem salt_selected {names : List Text} (h : saltColumnName ∈ names) :
    (selected row names).salt = row.salt := by
  rw [salt, salt, find?_selected h]

theorem names_selected {names : List Text} (h : ∀ name ∈ names, name ∈ row.map (·.name)) :
    (selected row names).map (·.name) = names := by
  induction names with
  | nil => rfl
  | cons name names ih =>
    obtain ⟨hname,hnames⟩ := List.forall_mem_cons.mp h
    obtain ⟨cell,hcell,hcellName⟩ := List.mem_map.mp hname
    cases hfind : List.find? (fun cell => cell.name = name) row with
    | none => exact absurd (decide_eq_true hcellName) (List.find?_eq_none.mp hfind cell hcell)
    | some d =>
      have hd : d.name = name := by simpa using List.find?_some hfind
      unfold selected
      rw [List.filterMap_cons, hfind]
      exact congrArg₂ List.cons hd (ih hnames)

/-! ## Stored rows -/

/-- What the database holds in a column that was left out when a row was written. -/
inductive Omitted (c : Column) : Value → Prop where
  | null : Omitted c .none
  | default {raw : Value} (h : c.encode c.defaultValue none = .ok raw) : Omitted c raw
  | counted {n : Int} {raw : Value} (hcounted : c.isAutoIncrement) (h : c.encode (.int n) none = .ok raw) :
      Omitted c raw

/-- Whether a whole row of a table is what was written of it, with the columns that were left out. -/
structure Completes (s : Schema) (written row : Row) : Prop where
  names : (row.map (·.name)).Perm s.storageColumnNames
  kept : ∀ cell ∈ written, cell ∈ row
  omitted : ∀ c ∈ s.columns, c.name ∉ written.map (·.name) → ∀ raw, ⟨c.name,raw⟩ ∈ row → Omitted c raw

theorem Omitted.decode {c : Column} {raw : Value} (h : Omitted c raw) : ∃ v, c.decode raw none = .ok v := by
  cases h with
  | null => exact ⟨.none,rfl⟩
  | default h =>
    obtain ⟨_,w,_,hw⟩ := Column.decode_encode h
    exact ⟨w,hw⟩
  | counted _ h =>
    obtain ⟨_,w,_,hw⟩ := Column.decode_encode h
    exact ⟨w,hw⟩

variable {salt : Bytes} {includeCounted : Bool} {valueOf : Text → Value} {written : Row}

theorem Completes.nodup (h : Completes e.schema written row) (hs : e.schema.Sound) : (row.map (·.name)).Nodup :=
  nodup_names_stored hs h.names

theorem Completes.exists_decode (h : Completes e.schema written row) (hs : e.schema.Sound)
    (hwritten : encode ring e salt includeCounted valueOf = .ok written) :
    ∃ values, row.decode ring e = .ok values := by
  have hnames := h.nodup hs
  refine Row.exists_decode hs hnames fun c hc raw hraw => ?_
  by_cases hname : c.name ∈ written.map (·.name)
  · obtain ⟨cell,hcell,hcellName⟩ := List.mem_map.mp hname
    have hsame := List.inj_on_of_nodup_map hnames (h.kept cell hcell) hraw hcellName
    rw [hsame] at hcell
    have hsalt : e.schema.hasEncryptedColumns → row.salt = .bytes salt := fun hencrypted =>
      salt_eq_of_mem hnames (h.kept _ (salt_mem_encode hencrypted hwritten))
    obtain ⟨w,_,hw⟩ := opened_of_mem hs hwritten hsalt hc hcell
    exact ⟨w,hw⟩
  · have hplain : ¬(c.isEncrypted ∧ raw ≠ .none) := fun hboth =>
      hname ((mem_names_encode hs hwritten hc).mpr (isWritten_of_isEncrypted hs hc hboth.1))
    rw [opened_of_plain hplain none]
    exact (h.omitted c hc hname raw hraw).decode

/-- An encrypted column is read together with the salt. -/
theorem salt_selectedColumns {columns : List Column} {c : Column} (hc : c ∈ columns)
    (hencrypted : c.isEncrypted) :
    (selected row (Session.selectedColumns columns)).salt = row.salt := by
  apply salt_selected
  rw [Session.selectedColumns, if_pos (List.any_eq_true.mpr ⟨c,hc,hencrypted⟩)]
  exact List.mem_append_right _ (List.mem_singleton_self _)

/-- The fields of selected columns are those of the columns. -/
theorem mem_fields_selected (hs : e.schema.Sound) {columns : List Column}
    (hcolumns : ∀ c ∈ columns, c ∈ e.schema.columns)
    (hnames : ∀ name ∈ Session.selectedColumns columns, name ∈ row.map (·.name)) (field : Text) :
    field ∈ fields e.schema (selected row (Session.selectedColumns columns)) ↔
      field ∈ columns.map (·.fieldName) := by
  constructor
  · intro h
    obtain ⟨⟨c,raw⟩,hp,rfl⟩ := List.mem_map.mp h
    obtain ⟨hc,hcell⟩ := mem_of_mem_known hp
    rcases List.mem_append.mp (mem_selected hcell).2 with hname | hname
    · obtain ⟨d,hd,hname⟩ := List.mem_map.mp hname
      cases List.inj_on_of_nodup_map hs.names_nodup (hcolumns d hd) hc hname
      exact List.mem_map_of_mem hd
    · split at hname
      · exact absurd (List.mem_map.mpr ⟨c,hc,List.mem_singleton.mp hname⟩) hs.salt_not_mem
      · cases hname
  · intro h
    obtain ⟨c,hc,rfl⟩ := List.mem_map.mp h
    have hname : c.name ∈ (selected row (Session.selectedColumns columns)).map (·.name) := by
      rw [names_selected hnames]
      exact List.mem_append_left _ (List.mem_map_of_mem hc)
    obtain ⟨cell,hcell,hcellName⟩ := List.mem_map.mp hname
    refine List.mem_map.mpr ⟨(c,cell.value),List.mem_filterMap.mpr ⟨cell,hcell,?_⟩,rfl⟩
    rw [hcellName, hs.column?_name (hcolumns c hc)]
    rfl

/-- Reading columns of a row that can be read gives the values of their fields in the whole row, and no
others. -/
theorem decode_selectedColumns (hs : e.schema.Sound)
    (hstored : (row.map (·.name)).Perm e.schema.storageColumnNames) {whole : List (Text × Value)}
    (hwhole : row.decode ring e = .ok whole) {names : List Text} {columns : List Column}
    (hcolumns : names.mapM e.schema.resolve = .ok columns) :
    (selected row (Session.selectedColumns columns)).map (·.name) = Session.selectedColumns columns ∧
      ∃ part, (selected row (Session.selectedColumns columns)).decode ring e = .ok part ∧
        (∀ c ∈ columns, ∃ v, part.lookup c.fieldName = some v ∧ whole.lookup c.fieldName = some v) ∧
          ∀ field, field ∉ columns.map (·.fieldName) → part.lookup field = none := by
  have hrow := nodup_names_stored hs hstored
  have hnames : ∀ name ∈ Session.selectedColumns columns, name ∈ row.map (·.name) := fun name hname =>
    hstored.mem_iff.mpr (Session.selectedColumns_stored hs.hasEncryptedColumns_eq hcolumns name hname)
  have hmem : ∀ c ∈ columns, c ∈ e.schema.columns := by
    intro c hc
    obtain ⟨field,_,hfield⟩ := exists_of_forall₂ (forall₂_of_mapM hcolumns).flip hc
    exact Schema.mem_of_resolve? (Schema.resolve_eq_ok.mp hfield)
  have hfields := mem_fields_selected hs hmem hnames
  have hsalt : ∀ p ∈ known e.schema (selected row (Session.selectedColumns columns)), p.1.isEncrypted →
      (selected row (Session.selectedColumns columns)).salt = row.salt := by
    intro p hp hencrypted
    obtain ⟨c,hc,hfield⟩ := List.mem_map.mp ((hfields p.1.fieldName).mp (List.mem_map_of_mem hp))
    cases List.inj_on_of_nodup_map hs.fields_nodup (hmem c hc) (mem_of_mem_known hp).1 hfield
    exact salt_selectedColumns hc hencrypted
  obtain ⟨part,hpart,hlookup⟩ := decode_of_subset hs hrow hwhole (fun cell hcell => (mem_selected hcell).1)
    hsalt
  refine ⟨names_selected hnames,part,hpart,fun c hc => ?_,fun field hfield => ?_⟩
  · have hname : c.name ∈ row.map (·.name) :=
      hnames _ (List.mem_append_left _ (List.mem_map_of_mem hc))
    obtain ⟨⟨_,raw⟩,hcell,rfl⟩ := List.mem_map.mp hname
    obtain ⟨v,_,hv⟩ := lookup_decoded hs hrow hwhole (hmem c hc) hcell
    refine ⟨v,?_,hv⟩
    rw [hlookup, if_pos ((hfields _).mpr (List.mem_map_of_mem hc)), hv]
  · rw [hlookup, if_neg (mt (hfields field).mp hfield)]

/-- A stored row is read as a whole and in parts alike, whatever columns are selected, in any order and with
repetitions. The cells of a row that can be read may stand in any order. -/
theorem decode_selected {ds : List TypeDeclaration} {catalog : Catalog}
    (hcatalog : Catalog.ofDeclarations ds = .ok catalog) {registry : Registry}
    (hregistry : registry.Reached catalog) (he : e ∈ registry)
    (hwritten : encode ring e salt includeCounted valueOf = .ok written)
    (hstored : Completes e.schema written row) :
    (∃ whole, row.decode ring e = .ok whole ∧
      ∀ (names : List Text) (columns : List Column), names.mapM e.schema.resolve = .ok columns →
        (selected row (Session.selectedColumns columns)).map (·.name) = Session.selectedColumns columns ∧
        ∃ part, (selected row (Session.selectedColumns columns)).decode ring e = .ok part ∧
          (∀ c ∈ columns, ∃ v, part.lookup c.fieldName = some v ∧ whole.lookup c.fieldName = some v) ∧
            ∀ field, field ∉ columns.map (·.fieldName) → part.lookup field = none) ∧
    ∀ (cells more : Row) (values : List (Text × Value)), (cells.map (·.name)).Nodup → cells.Perm more →
      cells.decode ring e = .ok values →
        ∃ other, more.decode ring e = .ok other ∧ ∀ field, other.lookup field = values.lookup field := by
  have hs := hregistry.sound hcatalog he
  obtain ⟨whole,hwhole⟩ := hstored.exists_decode hs hwritten
  refine ⟨⟨whole,hwhole,fun names columns hcolumns => ?_⟩,fun cells more values hnames hperm hvalues => ?_⟩
  · exact decode_selectedColumns hs hstored.names hwhole hcolumns
  · exact decode_of_perm hs hnames hperm hvalues

end SealedRows.Row

namespace SealedRows.Note

/-- The row that the database makes of a note without a number. -/
theorem completes_counted : ∃ written : Row,
    Row.encode ring entry (List.replicate 8 5) false valueOf = .ok written ∧
      Row.Completes schema written (⟨"id",.int 1⟩ :: written) := by
  refine ⟨_,rfl,.refl _,fun cell => List.mem_cons_of_mem _,?_⟩
  intro c hc hname raw hraw
  rcases List.mem_cons.mp hraw with hcell | hcell
  · obtain ⟨hid,rfl⟩ := Cell.mk.inj hcell
    rcases List.mem_cons.mp hc with rfl | hc
    · exact .counted (n := 1) rfl rfl
    · rw [List.mem_singleton.mp hc] at hid
      exact absurd hid (by decide)
  · exact absurd (List.mem_map_of_mem hcell) hname

/-- The text of a note is read with or without its number. -/
theorem decode_selected_note : ∃ (written row : Row) (columns : List Column) (whole part : List (Text × Value)),
    Row.encode ring entry (List.replicate 8 5) false valueOf = .ok written ∧
      Row.Completes schema written row ∧ ["body", "id", "body"].mapM schema.resolve = .ok columns ∧
      row.decode ring entry = .ok whole ∧
      (row.selected (Session.selectedColumns columns)).decode ring entry = .ok part ∧
      (∀ c ∈ columns, ∃ v, part.lookup c.fieldName = some v ∧ whole.lookup c.fieldName = some v) ∧
      ∃ other, Row.decode ring entry row.reverse = .ok other ∧
        ∀ field, other.lookup field = whole.lookup field := by
  obtain ⟨written,hwritten,hstored⟩ := completes_counted
  have hcatalog : Catalog.ofDeclarations [declaration] = .ok catalog := rfl
  obtain ⟨⟨whole,hwhole,hparts⟩,hperm⟩ :=
    Row.decode_selected hcatalog reached (List.mem_singleton_self entry) hwritten hstored
  have hcolumns : ["body", "id", "body"].mapM schema.resolve = .ok _ := rfl
  obtain ⟨_,part,hpart,hvalues,_⟩ := hparts _ _ hcolumns
  have hnames := hstored.names.nodup_iff.mpr (by decide)
  exact ⟨written,_,_,whole,part,hwritten,hstored,hcolumns,hwhole,hpart,hvalues,
    hperm _ _ _ hnames (List.reverse_perm _).symm hwhole⟩

end SealedRows.Note
