import SealedRows.Proofs.Row.RoundTrip

/-! # Overwritten rows

An update writes a new salt with every encrypted column. No encrypted column is ever left out, because
none is counted and none has a default, so what the update leaves alone is plain and is read as
before, and what it assigns is read as from a new row.
-/
namespace SealedRows.Row
variable {ring : KeyRing} {e : RegistryEntry} {salt : Bytes} {includeCounted : Bool}
  {valueOf : Text → Value} {row : Row}

/-- A row with the cells of another in the place of those of their names. -/
def overwritten (old new : Row) : Row :=
  old.map fun cell => (List.find? (fun d => d.name = cell.name) new).getD cell

theorem overwritten_cell (new : Row) (cell : Cell) :
    ((List.find? (fun d => d.name = cell.name) new).getD cell).name = cell.name := by
  cases hfind : List.find? (fun d => d.name = cell.name) new with
  | none => rfl
  | some d => simpa using List.find?_some hfind

theorem names_overwritten (old new : Row) :
    (overwritten old new).map (·.name) = old.map (·.name) := by
  rw [overwritten, List.map_map]
  exact List.map_congr_left fun cell _ => overwritten_cell new cell

theorem mem_overwritten {old new : Row} (hnew : (new.map (·.name)).Nodup) {cell : Cell} :
    cell ∈ overwritten old new ↔ (cell ∈ new ∧ cell.name ∈ old.map (·.name)) ∨
      (cell ∈ old ∧ cell.name ∉ new.map (·.name)) := by
  constructor
  · intro h
    have hname : cell.name ∈ old.map (·.name) := by
      rw [← names_overwritten old new]
      exact List.mem_map_of_mem h
    obtain ⟨d,hd,rfl⟩ := List.mem_map.mp h
    cases hfind : List.find? (fun c => c.name = d.name) new with
    | none =>
      refine Or.inr ⟨hd,fun hmem => ?_⟩
      obtain ⟨c,hc,hcname⟩ := List.mem_map.mp hmem
      exact List.find?_eq_none.mp hfind c hc (decide_eq_true hcname)
    | some c =>
      rw [hfind] at hname
      exact Or.inl ⟨List.mem_of_find?_eq_some hfind,hname⟩
  · rintro (⟨hcell,hname⟩ | ⟨hcell,hname⟩)
    · obtain ⟨d,hd,hdname⟩ := List.mem_map.mp hname
      refine List.mem_map.mpr ⟨d,hd,?_⟩
      rw [hdname, find?_of_nodup hnew hcell]
      rfl
    · refine List.mem_map.mpr ⟨cell,hcell,?_⟩
      have hnone : List.find? (fun d => d.name = cell.name) new = none := by
        refine List.find?_eq_none.mpr fun d hd hdname => ?_
        exact hname (List.mem_map.mpr ⟨d,hd,by simpa using hdname⟩)
      rw [hnone]
      rfl

/-- An encrypted column is written whatever its value is. -/
theorem isWritten_of_isEncrypted (hs : e.schema.Sound) {c : Column} (hc : c ∈ e.schema.columns)
    (h : c.isEncrypted) : isWritten includeCounted valueOf c := by
  obtain ⟨hcounted,hdefault⟩ := hs.encrypted c hc h
  simp [isWritten, hcounted, hdefault, Value.isNone]

theorem isWritten_mono {c : Column} (h : isWritten false valueOf c) :
    isWritten includeCounted valueOf c := by
  simp only [isWritten, Bool.not_false, Bool.and_true] at h ⊢
  simp only [Bool.and_eq_true, Bool.not_eq_true'] at h ⊢
  exact ⟨by rw [h.1, Bool.false_and],h.2⟩

/-- What a written column gives back is found under its field in the decoded row. -/
theorem lookup_written (hs : e.schema.Sound)
    (h : encode ring e salt includeCounted valueOf = .ok row) {c : Column} (hc : c ∈ e.schema.columns)
    (hwritten : isWritten includeCounted valueOf c) :
    ∃ values w, row.decode ring e = .ok values ∧ c.readBack (valueOf c.fieldName) = .ok w ∧
      values.lookup c.fieldName = some w := by
  have hnames := nodup_names_encode hs h
  obtain ⟨values,hvalues,_⟩ := decode_written hs h
  obtain ⟨⟨name,raw⟩,hcell,hname⟩ := List.mem_map.mp ((mem_names_encode hs h hc).mpr hwritten)
  cases hname
  obtain ⟨w,hread,hopened⟩ := opened_of_mem hs h
    (fun hencrypted => salt_eq_of_mem hnames (salt_mem_encode hencrypted h)) hc hcell
  obtain ⟨u,hu,hlookup⟩ := lookup_decoded hs hnames hvalues hc hcell
  cases hopened.symm.trans hu
  exact ⟨values,w,hvalues,hread,hlookup⟩

section
variable {old written : Row} (hs : e.schema.Sound)
include hs

theorem nodup_names_stored (hold : (old.map (·.name)).Perm e.schema.storageColumnNames) :
    (old.map (·.name)).Nodup := hold.nodup_iff.mpr hs.nodup_storageColumnNames

theorem nodup_names_overwritten (hold : (old.map (·.name)).Perm e.schema.storageColumnNames) :
    ((overwritten old written).map (·.name)).Nodup := by
  rw [names_overwritten]
  exact nodup_names_stored hs hold

omit hs in
theorem exists_cell (hold : (old.map (·.name)).Perm e.schema.storageColumnNames) {c : Column}
    (hc : c ∈ e.schema.columns) : ∃ raw, ⟨c.name,raw⟩ ∈ overwritten old written := by
  have hname : c.name ∈ (overwritten old written).map (·.name) := by
    rw [names_overwritten, hold.mem_iff]
    exact List.mem_append_left _ (List.mem_map_of_mem hc)
  obtain ⟨⟨name,raw⟩,hmem,rfl⟩ := List.mem_map.mp hname
  exact ⟨raw,hmem⟩

/-- A plain cell that was not written is read as before. -/
theorem opened_kept (hold : (old.map (·.name)).Perm e.schema.storageColumnNames)
    {before : List (Text × Value)} (hbefore : old.decode ring e = .ok before) {c : Column}
    (hc : c ∈ e.schema.columns) (hplain : c.isEncrypted = false) {raw : Value}
    (hraw : ⟨c.name,raw⟩ ∈ old) : ∃ w, opened ring e (overwritten old written) c raw = .ok w ∧
      before.lookup c.fieldName = some w := by
  obtain ⟨w,hopened,hlookup⟩ := lookup_decoded hs (nodup_names_stored hs hold) hbefore hc hraw
  have hneeded : ¬(c.isEncrypted ∧ raw ≠ .none) := fun hboth => by simp [hplain] at hboth
  rw [opened_of_plain hneeded none] at hopened
  exact ⟨w,by rw [opened_of_plain hneeded none, hopened],hlookup⟩

variable (h : encode ring e salt includeCounted valueOf = .ok written)
include h

/-- The salt is replaced whenever any column is encrypted. -/
theorem salt_overwritten (hold : (old.map (·.name)).Perm e.schema.storageColumnNames)
    (hencrypted : e.schema.hasEncryptedColumns) : (overwritten old written).salt = .bytes salt := by
  refine salt_eq_of_mem (nodup_names_overwritten hs hold) ?_
  refine (mem_overwritten (nodup_names_encode hs h)).mpr (Or.inl ⟨salt_mem_encode hencrypted h,?_⟩)
  rw [hold.mem_iff, Schema.storageColumnNames, if_pos hencrypted]
  exact List.mem_append_right _ (List.mem_singleton_self _)

/-- A cell of an overwritten row is a new one of a written column, or an old one of a plain column that
was not written. -/
theorem cell_overwritten {c : Column} (hc : c ∈ e.schema.columns) {raw : Value}
    (hcell : ⟨c.name,raw⟩ ∈ overwritten old written) :
    (isWritten includeCounted valueOf c ∧ ⟨c.name,raw⟩ ∈ written) ∨
      (¬isWritten includeCounted valueOf c ∧ c.isEncrypted = false ∧ ⟨c.name,raw⟩ ∈ old) := by
  rcases (mem_overwritten (nodup_names_encode hs h)).mp hcell with ⟨hmem,_⟩ | ⟨hmem,hnot⟩
  · exact Or.inl ⟨(mem_names_encode hs h hc).mp (List.mem_map_of_mem hmem),hmem⟩
  · have hskipped := mt (mem_names_encode hs h hc).mpr hnot
    refine Or.inr ⟨hskipped,?_,hmem⟩
    exact Bool.eq_false_iff.mpr fun hencrypted => hskipped (isWritten_of_isEncrypted hs hc hencrypted)

variable (hold : (old.map (·.name)).Perm e.schema.storageColumnNames)
  {before : List (Text × Value)} (hbefore : old.decode ring e = .ok before)
include hold hbefore

theorem exists_decode_overwritten : ∃ after, (overwritten old written).decode ring e = .ok after := by
  refine exists_decode hs (nodup_names_overwritten hs hold) fun c hc raw hraw => ?_
  rcases cell_overwritten hs h hc hraw with ⟨_,hmem⟩ | ⟨_,hplain,hmem⟩
  · obtain ⟨w,_,hw⟩ := opened_of_mem hs h (salt_overwritten hs h hold) hc hmem
    exact ⟨w,hw⟩
  · obtain ⟨w,hw,_⟩ := opened_kept hs hold hbefore hc hplain hmem
    exact ⟨w,hw⟩

variable {after : List (Text × Value)} (hafter : (overwritten old written).decode ring e = .ok after)
include hafter

omit hbefore in
theorem lookup_assigned {c : Column} (hc : c ∈ e.schema.columns)
    (hwritten : isWritten includeCounted valueOf c) :
    ∃ w, c.readBack (valueOf c.fieldName) = .ok w ∧ after.lookup c.fieldName = some w := by
  obtain ⟨raw,hraw⟩ := exists_cell hold hc
  obtain ⟨w,hw,hlookup⟩ := lookup_decoded hs (nodup_names_overwritten hs hold) hafter hc hraw
  rcases cell_overwritten hs h hc hraw with ⟨_,hmem⟩ | ⟨hskipped,_⟩
  · obtain ⟨u,hread,hu⟩ := opened_of_mem hs h (salt_overwritten hs h hold) hc hmem
    cases hw.symm.trans hu
    exact ⟨w,hread,hlookup⟩
  · exact absurd hwritten hskipped

theorem lookup_kept {c : Column} (hc : c ∈ e.schema.columns)
    (hskipped : ¬isWritten includeCounted valueOf c) :
    ∃ w, after.lookup c.fieldName = some w ∧ before.lookup c.fieldName = some w := by
  obtain ⟨raw,hraw⟩ := exists_cell hold hc
  obtain ⟨w,hw,hlookup⟩ := lookup_decoded hs (nodup_names_overwritten hs hold) hafter hc hraw
  rcases cell_overwritten hs h hc hraw with ⟨hwritten,_⟩ | ⟨_,hplain,hmem⟩
  · exact absurd hwritten hskipped
  · obtain ⟨u,hu,hbefore⟩ := opened_kept hs hold hbefore hc hplain hmem
    cases hw.symm.trans hu
    exact ⟨w,hlookup,hbefore⟩

end

/-- An overwritten row is decoded again: the assigned columns as in a new row of the record, and all
others as before. The salt is replaced only together with all encrypted columns. -/
theorem decode_overwritten {ds : List TypeDeclaration} {catalog : Catalog}
    (hcatalog : Catalog.ofDeclarations ds = .ok catalog) {registry : Registry}
    (hregistry : registry.Reached catalog) (he : e ∈ registry) {old written : Row}
    {before : List (Text × Value)} (hold : (old.map (·.name)).Perm e.schema.storageColumnNames)
    (hbefore : old.decode ring e = .ok before)
    (h : encode ring e salt false valueOf = .ok written) :
    ∃ after, (overwritten old written).decode ring e = .ok after ∧
      (∀ c ∈ e.schema.columns, c.name ∈ written.map (·.name) →
        ∃ w, after.lookup c.fieldName = some w ∧ ∀ salt includeCounted inserted,
          encode ring e salt includeCounted valueOf = .ok inserted →
          ∃ fresh, inserted.decode ring e = .ok fresh ∧ fresh.lookup c.fieldName = some w) ∧
      (∀ c ∈ e.schema.columns, c.name ∉ written.map (·.name) →
        ∃ w, after.lookup c.fieldName = some w ∧ before.lookup c.fieldName = some w) ∧
      (saltColumnName ∈ written.map (·.name) →
        ∀ c ∈ e.schema.columns, c.isEncrypted → c.name ∈ written.map (·.name)) := by
  have hs := hregistry.sound hcatalog he
  obtain ⟨after,hafter⟩ := exists_decode_overwritten hs h hold hbefore
  refine ⟨after,hafter,?_,?_,?_⟩
  · intro c hc hname
    have hwritten := (mem_names_encode hs h hc).mp hname
    obtain ⟨w,hread,hlookup⟩ := lookup_assigned hs h hold hafter hc hwritten
    refine ⟨w,hlookup,fun salt includeCounted inserted hinserted => ?_⟩
    obtain ⟨fresh,v,hfresh,hv,hfound⟩ := lookup_written hs hinserted hc (isWritten_mono hwritten)
    cases hread.symm.trans hv
    exact ⟨fresh,hfresh,hfound⟩
  · intro c hc hname
    exact lookup_kept hs h hold hbefore hafter hc (mt (mem_names_encode hs h hc).mpr hname)
  · intro _ c hc hencrypted
    exact (mem_names_encode hs h hc).mpr (isWritten_of_isEncrypted hs hc hencrypted)

end SealedRows.Row

namespace SealedRows.Note

def otherValueOf (field : Text) : Value := if field = "id" then .none else .text "b"

set_option maxRecDepth 2000 in
theorem decode_overwritten_note : ∃ old before written after,
    (old.map (·.name)).Perm schema.storageColumnNames ∧ Row.decode ring entry old = .ok before ∧
      Row.encode ring entry (List.replicate 8 9) false otherValueOf = .ok written ∧
      (Row.overwritten old written).decode ring entry = .ok after ∧
      (∀ c ∈ schema.columns, c.name ∈ written.map (·.name) →
        ∃ w, after.lookup c.fieldName = some w ∧ ∀ salt includeCounted inserted,
          Row.encode ring entry salt includeCounted otherValueOf = .ok inserted →
          ∃ fresh, inserted.decode ring entry = .ok fresh ∧ fresh.lookup c.fieldName = some w) ∧
      (∀ c ∈ schema.columns, c.name ∉ written.map (·.name) →
        ∃ w, after.lookup c.fieldName = some w ∧ before.lookup c.fieldName = some w) ∧
      (saltColumnName ∈ written.map (·.name) →
        ∀ c ∈ schema.columns, c.isEncrypted → c.name ∈ written.map (·.name)) := by
  obtain ⟨old,hold⟩ : ∃ old, Row.encode ring entry (List.replicate 8 5) true valueOf = .ok old :=
    ⟨_,rfl⟩
  obtain ⟨written,hwritten⟩ : ∃ written,
      Row.encode ring entry (List.replicate 8 9) false otherValueOf = .ok written := ⟨_,rfl⟩
  have hcatalog : Catalog.ofDeclarations [declaration] = .ok catalog := rfl
  have he := List.mem_singleton_self entry
  obtain ⟨before,hbefore,_⟩ := Row.decode_written (reached.sound hcatalog he) hold
  have hnames : (old.map (·.name)).Perm schema.storageColumnNames := by
    rw [Row.names_encode hold]
    exact .refl _
  obtain ⟨after,h⟩ := Row.decode_overwritten hcatalog reached he hnames hbefore hwritten
  exact ⟨old,before,written,after,hnames,hbefore,hwritten,h⟩

end SealedRows.Note
