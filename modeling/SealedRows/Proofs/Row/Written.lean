import SealedRows.Proofs.Row.Decoded
import SealedRows.Row.Writing

/-! # Written rows

A row is written with one cell for each column that is neither left to the database to count nor to
its default, and with the salt behind them if any column of the table is encrypted. The cipher that is
made again from that salt reads every cell.
-/
namespace SealedRows.Row
variable {ring : KeyRing} {e : RegistryEntry} {salt : Bytes} {includeCounted : Bool}
  {valueOf : Text → Value} {row : Row}

def isWritten (includeCounted : Bool) (valueOf : Text → Value) (c : Column) : Bool :=
  !(c.isAutoIncrement && !includeCounted) && !((valueOf c.fieldName).isNone && !c.defaultValue.isNone)

/-- Whether a cell holds what a column stores of its value. -/
def Holds (valueOf : Text → Value) (cipher : Option CipherContext) (c : Column) (cell : Cell) : Prop :=
  cell.name = c.name ∧ c.encode (valueOf c.fieldName) cipher = .ok cell.value

theorem encodeCell_eq_ok {table : Text} {cipher : Option CipherContext} {c : Column}
    {cell : Option Cell}
    (h : encodeCell table cipher includeCounted c (valueOf c.fieldName) = .ok cell) :
    (isWritten includeCounted valueOf c = false ∧ cell = none) ∨
      (isWritten includeCounted valueOf c ∧ ∃ d, cell = some d ∧ Holds valueOf cipher c d) := by
  unfold encodeCell at h
  split at h
  · rename_i hcounted
    cases h
    exact Or.inl ⟨by simp [isWritten, hcounted],rfl⟩
  · rename_i hcounted
    split at h
    · rename_i hdefault
      cases h
      exact Or.inl ⟨by simp [isWritten, hdefault],rfl⟩
    · rename_i hdefault
      split at h
      · cases h
      · split at h
        · rename_i stored hstored
          cases h
          exact Or.inr ⟨by simp [isWritten, hcounted, hdefault],_,rfl,rfl,hstored⟩
        · cases h

theorem encodeCells_eq_ok {table : Text} {cipher : Option CipherContext} {columns : List Column}
    {cells : Row} (h : encodeCells table cipher includeCounted valueOf columns = .ok cells) :
    List.Forall₂ (Holds valueOf cipher) (columns.filter (isWritten includeCounted valueOf)) cells := by
  induction columns generalizing cells with
  | nil =>
    cases h
    exact .nil
  | cons c rest ih =>
    obtain ⟨cell,hcell,h⟩ := bind_eq_ok.mp h
    obtain ⟨others,hothers,h⟩ := bind_eq_ok.mp h
    cases h
    rcases encodeCell_eq_ok hcell with ⟨hskipped,rfl⟩ | ⟨hwritten,d,rfl,hd⟩
    · rw [List.filter_cons_of_neg (by simp [hskipped])]
      exact ih hothers
    · rw [List.filter_cons_of_pos hwritten]
      exact .cons hd (ih hothers)

theorem names_of_holds {cipher : Option CipherContext} {columns : List Column} {cells : Row}
    (h : List.Forall₂ (Holds valueOf cipher) columns cells) :
    cells.map (·.name) = columns.map (·.name) := by
  induction h with
  | nil => rfl
  | cons hcell _ ih => rw [List.map_cons, List.map_cons, hcell.1, ih]

theorem encode_eq_ok (h : encode ring e salt includeCounted valueOf = .ok row) :
    ∃ cipher cells, sealing ring e salt = .ok cipher ∧ row = cells ++ saltCell e.schema salt ∧
      List.Forall₂ (Holds valueOf cipher) (e.schema.columns.filter (isWritten includeCounted valueOf))
        cells := by
  obtain ⟨cipher,hcipher,h⟩ := bind_eq_ok.mp h
  obtain ⟨cells,hcells,h⟩ := bind_eq_ok.mp h
  cases h
  exact ⟨cipher,cells,hcipher,rfl,encodeCells_eq_ok hcells⟩

/-- The names of a written row are those of the written columns, and that of the salt. -/
theorem names_encode (h : encode ring e salt includeCounted valueOf = .ok row) :
    row.map (·.name) = (e.schema.columns.filter (isWritten includeCounted valueOf)).map (·.name) ++
      if e.schema.hasEncryptedColumns then [saltColumnName] else [] := by
  obtain ⟨cipher,cells,_,rfl,hcells⟩ := encode_eq_ok h
  rw [List.map_append, names_of_holds hcells, saltCell]
  split <;> rfl

theorem nodup_names_encode (hs : e.schema.Sound)
    (h : encode ring e salt includeCounted valueOf = .ok row) : (row.map (·.name)).Nodup := by
  rw [names_encode h]
  refine hs.nodup_storageColumnNames.sublist (List.Sublist.append_right ?_ _)
  exact List.filter_sublist.map _

theorem salt_eq_of_mem {cells : Row} (hnames : (cells.map (·.name)).Nodup) {v : Value}
    (h : ⟨saltColumnName,v⟩ ∈ cells) : cells.salt = v := by
  have hfind : List.find? (fun c => c.name = saltColumnName) cells = some ⟨saltColumnName,v⟩ :=
    find?_of_nodup hnames h
  rw [Row.salt, hfind]
  rfl

/-- The written columns are those whose names stand in the row. -/
theorem mem_names_encode (hs : e.schema.Sound)
    (h : encode ring e salt includeCounted valueOf = .ok row) {c : Column} (hc : c ∈ e.schema.columns) :
    c.name ∈ row.map (·.name) ↔ isWritten includeCounted valueOf c := by
  rw [names_encode h, List.mem_append]
  constructor
  · rintro (hname | hsalt)
    · obtain ⟨d,hd,hname⟩ := List.mem_map.mp hname
      obtain ⟨hd,hwritten⟩ := List.mem_filter.mp hd
      rwa [List.inj_on_of_nodup_map hs.names_nodup hd hc hname] at hwritten
    · split at hsalt
      · rw [List.mem_singleton] at hsalt
        exact absurd (List.mem_map.mpr ⟨c,hc,hsalt⟩) hs.salt_not_mem
      · cases hsalt
  · intro hwritten
    exact Or.inl (List.mem_map.mpr ⟨c,List.mem_filter.mpr ⟨hc,hwritten⟩,rfl⟩)

theorem cipher_of_contextFor {cells : Row} (hsalt : cells.salt = .bytes salt) {context : CipherContext}
    (h : ring.contextFor e salt = .ok context) : cipher ring e cells = .ok context := by
  simp only [cipher, hsalt, Value.toBytes, h]
  rfl

theorem contextFor_of_sealing {context : CipherContext} (h : sealing ring e salt = .ok (some context)) :
    ring.contextFor e salt = .ok context := by
  unfold sealing at h
  split at h
  · split at h
    · rename_i hcontext
      cases h
      exact hcontext
    · cases h
  · cases h

/-- A row is read with the cipher that wrote its salt. -/
theorem cipher_of_salt {cells : Row} (hsalt : cells.salt = .bytes salt) {context : CipherContext}
    (h : sealing ring e salt = .ok (some context)) : cipher ring e cells = .ok context :=
  cipher_of_contextFor hsalt (contextFor_of_sealing h)

theorem sealing_isSome (hencrypted : e.schema.hasEncryptedColumns) {cipher : Option CipherContext}
    (h : sealing ring e salt = .ok cipher) : ∃ context, cipher = some context := by
  unfold sealing at h
  rw [if_pos hencrypted] at h
  split at h
  · cases h
    exact ⟨_,rfl⟩
  · cases h

theorem salt_mem_encode (hencrypted : e.schema.hasEncryptedColumns)
    (h : encode ring e salt includeCounted valueOf = .ok row) : ⟨saltColumnName,.bytes salt⟩ ∈ row := by
  obtain ⟨_,_,_,rfl,_⟩ := encode_eq_ok h
  rw [saltCell, if_pos hencrypted]
  exact List.mem_append_right _ (List.mem_singleton_self _)

/-- What a column stores is read again in every row that holds the salt it was stored with. -/
theorem opened_of_encode (hs : e.schema.Sound) {cells : Row}
    (hsalt : e.schema.hasEncryptedColumns → cells.salt = .bytes salt) {cipher : Option CipherContext}
    (hcipher : sealing ring e salt = .ok cipher) {c : Column} (hc : c ∈ e.schema.columns)
    {v stored : Value} (h : c.encode v cipher = .ok stored) :
    ∃ w, c.readBack v = .ok w ∧ opened ring e cells c stored = .ok w := by
  obtain ⟨_,w,hread,hdecode⟩ := Column.decode_encode h
  refine ⟨w,hread,?_⟩
  by_cases hneeded : c.isEncrypted ∧ stored ≠ .none
  · obtain ⟨hencrypted,hstored⟩ := hneeded
    have hany := hs.hasEncryptedColumns_of_mem hc hencrypted
    obtain ⟨context,rfl⟩ := sealing_isSome hany hcipher
    rw [opened_of_sealed hencrypted hstored (cipher_of_salt (hsalt hany) hcipher), hdecode]
  · rw [opened_of_plain hneeded cipher, hdecode]

/-- A written cell holds what its column stores with the cipher of the row. -/
theorem encode_of_mem (hs : e.schema.Sound)
    (h : encode ring e salt includeCounted valueOf = .ok row) {c : Column} (hc : c ∈ e.schema.columns)
    {raw : Value} (hraw : ⟨c.name,raw⟩ ∈ row) : ∃ cipher, sealing ring e salt = .ok cipher ∧
      c.encode (valueOf c.fieldName) cipher = .ok raw := by
  obtain ⟨cipher,written,hcipher,rfl,hcells⟩ := encode_eq_ok h
  rcases List.mem_append.mp hraw with hraw | hraw
  · obtain ⟨d,hd,hname,hstored⟩ := exists_of_forall₂ hcells.flip hraw
    cases List.inj_on_of_nodup_map hs.names_nodup hc (List.mem_of_mem_filter hd) hname
    exact ⟨cipher,hcipher,hstored⟩
  · unfold saltCell at hraw
    split at hraw
    · have hname := congrArg Cell.name (List.mem_singleton.mp hraw)
      exact absurd (List.mem_map.mpr ⟨c,hc,hname⟩) hs.salt_not_mem
    · cases hraw

/-- A written cell is read as what its column gives back, in every row that holds the salt. -/
theorem opened_of_mem (hs : e.schema.Sound)
    (h : encode ring e salt includeCounted valueOf = .ok row) {cells : Row}
    (hsalt : e.schema.hasEncryptedColumns → cells.salt = .bytes salt) {c : Column}
    (hc : c ∈ e.schema.columns) {raw : Value} (hraw : ⟨c.name,raw⟩ ∈ row) :
    ∃ w, c.readBack (valueOf c.fieldName) = .ok w ∧ opened ring e cells c raw = .ok w := by
  obtain ⟨cipher,hcipher,hstored⟩ := encode_of_mem hs h hc hraw
  exact opened_of_encode hs hsalt hcipher hc hstored

end SealedRows.Row
