import SealedRows.Proofs.Codec.Stored
import SealedRows.Proofs.Schema.Sound
import SealedRows.Row

/-! # Rows decoded cell by cell

Decoding a row keeps the cipher that was made for the first encrypted value and collects the values
by their fields. When no field occurs twice, this is the same as decoding every cell on its own.
-/
namespace SealedRows.Row
variable (ring : KeyRing) (e : RegistryEntry) (row : Row)

/-- The value of a cell of a column by itself. The cipher is made only for an encrypted value. -/
def opened (c : Column) (raw : Value) : Except Fault Value := do
  let context ← if c.isEncrypted && !raw.isNone then some <$> cipher ring e row else pure none
  c.decode raw context

def known (s : Schema) (cells : Row) : List (Column × Value) :=
  cells.filterMap fun cell => (s.column? cell.name).map fun c => (c,cell.value)

def Reads (stored : Column × Value) (entry : Text × Value) : Prop :=
  entry.1 = stored.1.fieldName ∧ opened ring e row stored.1 stored.2 = .ok entry.2

variable {ring e row}

theorem opened_of_plain {c : Column} {raw : Value} (h : ¬(c.isEncrypted ∧ raw ≠ .none))
    (context : Option CipherContext) : opened ring e row c raw = c.decode raw context := by
  have hneeded : (c.isEncrypted && !raw.isNone) = false := by
    cases hc : c.isEncrypted with
    | false => rfl
    | true => simpa [hc, Value.isNone_iff] using h
  have hsame : c.decode raw context = c.decode raw none :=
    c.decode_congr fun hc hraw => absurd ⟨hc,hraw⟩ h
  simp only [opened, hneeded, Bool.false_eq_true, if_false, hsame]
  rfl

theorem opened_of_sealed {c : Column} (hc : c.isEncrypted) {raw : Value} (hraw : raw ≠ .none)
    {context : CipherContext} (hcontext : cipher ring e row = .ok context) :
    opened ring e row c raw = c.decode raw (some context) := by
  have hnone : raw.isNone = false := Bool.eq_false_iff.mpr (mt Value.isNone_iff.mp hraw)
  simp only [opened, hc, hnone, Bool.not_false, Bool.and_self, if_true, hcontext]
  rfl

/-- The cipher at hand when a cell has been decoded, when there was one or none before. -/
def nextContext (ring : KeyRing) (e : RegistryEntry) (row : Row) (context : Option CipherContext)
    (c : Column) (raw : Value) : Except Fault (Option CipherContext) :=
  if c.isEncrypted && !raw.isNone && context.isNone then some <$> cipher ring e row else pure context

/-- With the cipher of the row at hand, or none, a cell is decoded as by itself. -/
theorem opened_eq_ok {context : Option CipherContext}
    (hcontext : ∀ k, context = some k → cipher ring e row = .ok k) {c : Column} {raw v : Value} :
    opened ring e row c raw = .ok v ↔
      ∃ next, nextContext ring e row context c raw = .ok next ∧ c.decode raw next = .ok v := by
  cases hneeded : c.isEncrypted && !raw.isNone with
  | false =>
    have hsame : c.decode raw context = c.decode raw none := by
      refine c.decode_congr fun hc hraw => ?_
      simp [hc, mt Value.isNone_iff.mp hraw] at hneeded
    simp only [opened, nextContext, hneeded, Bool.false_and, Bool.false_eq_true, if_false, bind_eq_ok,
      pure_eq_ok, exists_eq_left', hsame]
  | true =>
    cases context with
    | none => simp only [opened, nextContext, hneeded, Option.isNone_none, Bool.and_self, if_true, bind_eq_ok]
    | some k =>
      simp only [opened, nextContext, hneeded, if_true, hcontext k rfl, Option.isNone_some,
        Bool.and_false, Bool.false_eq_true, if_false, bind_eq_ok, pure_eq_ok, exists_eq_left']
      constructor
      · rintro ⟨_,hk,h⟩
        cases hk
        exact h
      · exact fun h => ⟨_,rfl,h⟩

theorem cipher_of_nextContext {context next : Option CipherContext}
    (hcontext : ∀ k, context = some k → cipher ring e row = .ok k) {c : Column} {raw : Value}
    (h : nextContext ring e row context c raw = .ok next) :
    ∀ k, next = some k → cipher ring e row = .ok k := by
  unfold nextContext at h
  split at h
  · obtain ⟨k,hk,rfl⟩ := map_eq_ok.mp h
    rintro _ ⟨⟩
    exact hk
  · cases h
    exact hcontext

theorem withEntry_of_new {values : List (Text × Value)} {name : Text} (h : name ∉ values.map (·.1))
    (v : Value) : withEntry values name v = values ++ [(name,v)] := by
  refine if_neg ?_
  rw [List.any_eq_true]
  rintro ⟨entry,hentry,hname⟩
  exact h (List.mem_map.mpr ⟨entry,hentry,by simpa using hname⟩)

theorem known_cons (s : Schema) (cell : Cell) (cells : Row) : known s (cell :: cells) =
    ((s.column? cell.name).map fun c => (c,cell.value)).toList ++ known s cells := by
  unfold known
  rw [List.filterMap_cons]
  cases (s.column? cell.name).map fun c => (c,cell.value) <;> rfl

theorem decodeCells_cons {cell : Cell} {c : Column} (hcolumn : e.schema.column? cell.name = some c)
    (context : Option CipherContext) (values : List (Text × Value)) (rest : Row) :
    decodeCells ring e row context values (cell :: rest) =
      (nextContext ring e row context c cell.value >>= fun next => c.decode cell.value next >>= fun v =>
        decodeCells ring e row next (withEntry values c.fieldName v) rest) := by
  unfold nextContext
  simp only [decodeCells, hcolumn]
  split <;> rfl

/-- Cells of different fields are decoded one by one, each behind those before it. -/
theorem decodeCells_eq_ok {cells : Row} {context : Option CipherContext}
    (hcontext : ∀ k, context = some k → cipher ring e row = .ok k) {values result : List (Text × Value)}
    (hfields : (values.map (·.1) ++ (known e.schema cells).map fun stored => stored.1.fieldName).Nodup) :
    decodeCells ring e row context values cells = .ok result ↔
      ∃ entries, List.Forall₂ (Reads ring e row) (known e.schema cells) entries ∧
        result = values ++ entries := by
  induction cells generalizing context values with
  | nil =>
    unfold decodeCells
    constructor
    · rintro ⟨⟩
      exact ⟨[],.nil,(List.append_nil _).symm⟩
    · rintro ⟨entries,hentries,rfl⟩
      cases hentries
      rw [List.append_nil]
  | cons cell rest ih =>
    rw [known_cons] at hfields ⊢
    cases hcolumn : e.schema.column? cell.name with
    | none =>
      rw [hcolumn] at hfields
      unfold decodeCells
      rw [hcolumn]
      exact ih hcontext hfields
    | some c =>
      rw [hcolumn] at hfields
      have hnew : c.fieldName ∉ values.map (·.1) := by
        intro hold
        exact (List.nodup_append.mp hfields).2.2 _ hold _ (List.mem_cons_self ..) rfl
      have hnext : ∀ v : Value, ((values ++ [(c.fieldName,v)]).map (·.1) ++
          (known e.schema rest).map fun stored => stored.1.fieldName).Nodup := by
        intro v
        rw [List.map_append, List.append_assoc]
        exact hfields
      rw [decodeCells_cons hcolumn]
      constructor
      · intro h
        obtain ⟨next,hcipher,h⟩ := bind_eq_ok.mp h
        obtain ⟨v,hv,h⟩ := bind_eq_ok.mp h
        rw [withEntry_of_new hnew] at h
        obtain ⟨entries,hentries,rfl⟩ := (ih (cipher_of_nextContext hcontext hcipher) (hnext v)).mp h
        have hopened := (opened_eq_ok hcontext).mpr ⟨next,hcipher,hv⟩
        exact ⟨(c.fieldName,v) :: entries,.cons ⟨rfl,hopened⟩ hentries,by simp⟩
      · rintro ⟨entries,hentries,rfl⟩
        cases hentries with
        | @cons _ entry _ entries hentry hentries =>
          obtain ⟨name,v⟩ := entry
          obtain ⟨rfl,hopened⟩ := hentry
          obtain ⟨next,hcipher,hv⟩ := (opened_eq_ok hcontext).mp hopened
          refine bind_eq_ok.mpr ⟨next,hcipher,bind_eq_ok.mpr ⟨v,hv,?_⟩⟩
          rw [withEntry_of_new hnew]
          exact (ih (cipher_of_nextContext hcontext hcipher) (hnext v)).mpr ⟨entries,hentries,by simp⟩

theorem column?_eq_some {s : Schema} {name : Text} {c : Column} (h : s.column? name = some c) :
    c ∈ s.columns ∧ c.name = name :=
  ⟨List.mem_of_find?_eq_some h,by simpa using List.find?_some h⟩

theorem mem_of_mem_known {s : Schema} {cells : Row} {c : Column} {raw : Value}
    (h : (c,raw) ∈ known s cells) : c ∈ s.columns ∧ ⟨c.name,raw⟩ ∈ cells := by
  obtain ⟨cell,hcell,h⟩ := List.mem_filterMap.mp h
  obtain ⟨d,hd,h⟩ := Option.map_eq_some_iff.mp h
  cases h
  obtain ⟨hc,hname⟩ := column?_eq_some hd
  refine ⟨hc,?_⟩
  rw [hname]
  exact hcell

/-- The columns that a row holds are different if its names are. -/
theorem names_known_sublist (s : Schema) (cells : Row) :
    ((known s cells).map fun stored => stored.1.name).Sublist (cells.map (·.name)) := by
  induction cells with
  | nil => exact List.Sublist.slnil
  | cons cell rest ih =>
    rw [known_cons, List.map_append, List.map_cons]
    cases hcolumn : s.column? cell.name with
    | none => exact ih.cons _
    | some c =>
      change (c.name :: _).Sublist _
      rw [(column?_eq_some hcolumn).2]
      exact ih.cons_cons _

theorem fields_known_nodup {s : Schema} (hs : s.Sound) {cells : Row}
    (hnames : (cells.map (·.name)).Nodup) :
    ((known s cells).map fun stored => stored.1.fieldName).Nodup := by
  have hknown := hnames.sublist (names_known_sublist s cells)
  rw [← Function.comp_def, ← List.map_map] at hknown ⊢
  refine hknown.of_map.map_on fun c hc d hd hfield => ?_
  obtain ⟨stored,hstored,rfl⟩ := List.mem_map.mp hc
  obtain ⟨other,hother,rfl⟩ := List.mem_map.mp hd
  exact List.inj_on_of_nodup_map hs.fields_nodup (mem_of_mem_known hstored).1
    (mem_of_mem_known hother).1 hfield

theorem fields_of_reads {stored : List (Column × Value)} {entries : List (Text × Value)}
    (h : List.Forall₂ (Reads ring e row) stored entries) :
    (stored.map fun p => p.1.fieldName) = entries.map (·.1) := by
  induction h with
  | nil => rfl
  | cons hentry _ ih => rw [List.map_cons, List.map_cons, hentry.1, ih]

/-- A row with one cell for each name is decoded cell by cell. -/
theorem decode_eq_ok (hschema : e.schema.Sound) (hnames : (row.map (·.name)).Nodup)
    {values : List (Text × Value)} : row.decode ring e = .ok values ↔
      List.Forall₂ (Reads ring e row) (known e.schema row) values := by
  have hcells : decodeCells ring e row none [] row = .ok values ↔ ∃ entries,
      List.Forall₂ (Reads ring e row) (known e.schema row) entries ∧ values = [] ++ entries :=
    decodeCells_eq_ok (fun _ h => by cases h) (fields_known_nodup hschema hnames)
  rw [decode, hcells]
  simp only [List.nil_append, exists_eq_right']

/-- Every cell of a column is decoded under the field of the column. -/
theorem lookup_decoded (hs : e.schema.Sound) (hnames : (row.map (·.name)).Nodup)
    {values : List (Text × Value)} (h : row.decode ring e = .ok values) {c : Column}
    (hc : c ∈ e.schema.columns) {raw : Value} (hraw : ⟨c.name,raw⟩ ∈ row) :
    ∃ w, opened ring e row c raw = .ok w ∧ values.lookup c.fieldName = some w := by
  have hreads := (decode_eq_ok hs hnames).mp h
  have hknown : (c,raw) ∈ known e.schema row :=
    List.mem_filterMap.mpr ⟨_,hraw,by rw [hs.column?_name hc]; rfl⟩
  obtain ⟨⟨field,w⟩,hmem,hfield,hopened⟩ := exists_of_forall₂ hreads hknown
  cases hfield
  refine ⟨w,hopened,lookup_of_nodup ?_ hmem⟩
  rw [← fields_of_reads hreads]
  exact fields_known_nodup hs hnames

/-- A row is decoded if every cell of a column is. -/
theorem exists_decode (hs : e.schema.Sound) (hnames : (row.map (·.name)).Nodup)
    (h : ∀ c ∈ e.schema.columns, ∀ raw, ⟨c.name,raw⟩ ∈ row → ∃ w, opened ring e row c raw = .ok w) :
    ∃ values, row.decode ring e = .ok values := by
  suffices hall : ∀ stored : List (Column × Value), (∀ p ∈ stored, p ∈ known e.schema row) →
      ∃ entries, List.Forall₂ (Reads ring e row) stored entries by
    obtain ⟨entries,hentries⟩ := hall (known e.schema row) fun _ hp => hp
    exact ⟨entries,(decode_eq_ok hs hnames).mpr hentries⟩
  intro stored
  induction stored with
  | nil => exact fun _ => ⟨[],.nil⟩
  | cons p rest ih =>
    intro hmem
    obtain ⟨entries,hentries⟩ := ih fun q hq => hmem q (List.mem_cons_of_mem _ hq)
    obtain ⟨hc,hcell⟩ := mem_of_mem_known (hmem p (List.mem_cons_self ..))
    obtain ⟨w,hw⟩ := h p.1 hc p.2 hcell
    exact ⟨(p.1.fieldName,w) :: entries,.cons ⟨rfl,hw⟩ hentries⟩

end SealedRows.Row
