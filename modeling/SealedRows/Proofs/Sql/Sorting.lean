import SealedRows.Proofs.Lookup
import SealedRows.Proofs.Schema.Registration
import SealedRows.Proofs.Sql.Comparing
import SealedRows.Proofs.Sql.Meaning
import SealedRows.Sql.Statement

/-! # Sorting by the database

The database sorts null below numbers, numbers below texts and texts below byte strings; numbers by
their size, and the others byte by byte. A layout with its lowest byte first does not sort as its
values do, so the rows that are ordered by a column are ordered by the values of its field exactly if
the column holds no such layout.
-/
namespace SealedRows

def Sql.sortKey? : Value → Option SortKey
  | .none => some .null
  | .int n => some (.number (.ofRat n))
  | .float x =>
    match x.extended? with
    | some q => some (.number q)
    | none => some .null
  | .text t => t.toUtf8?.map .text
  | .bytes bs => some (.blob bs)
  | _ => none

/-- Whether the database sorts a stored value before another one. -/
def Sql.Precedes (v w : Value) : Prop :=
  ∃ a b, sortKey? v = some a ∧ sortKey? w = some b ∧ a.Below b

def Value.Below (v w : Value) : Prop := Operator.lt.holds v w = .ok true

/-- The values of a kind that have an order: numbers, texts that can be written, and moments of which
either all are instants or none is. -/
structure ValueKind.Sorts (kind : ValueKind) (instants : Bool) (v : Value) : Prop where
  admits : kind.Admits v
  ne_none : v ≠ .none
  isTruth : kind = .bool → ∃ b, v = .bool b
  isNumber : ∀ x, v = .float x → x.isNaN = false
  isWritten : ∀ t, v = .text t → ∀ c ∈ t, c.isSurrogate = false
  clock : ∀ m, v = .moment m → m.offset.isSome = instants

/-- Whether the database sorts the plain forms of a column as its values are ordered. -/
def Column.KeepsOrder (c : Column) : Prop :=
  ∀ instants v w a b, c.kind.Sorts instants v → c.kind.Sorts instants w → c.encode v none = .ok a →
    c.encode w none = .ok b → (v.Below w ↔ Sql.Precedes a b)

/-- Whether a list is in an order of its elements, upwards or downwards. -/
def SortOrder.Arranges {α : Type} (o : SortOrder) (R : α → α → Prop) (l : List α) : Prop :=
  match o with
  | .ascending => l.Pairwise fun a b => ¬R b a
  | .descending => l.Pairwise fun a b => ¬R a b

/-- Two lists are in order together if the order of any two elements is that of their partners. -/
theorem pairwise_iff_of_forall₂ {α β : Type} {R : α → β → Prop} {P : α → α → Prop} {Q : β → β → Prop}
    {l : List α} {m : List β} (h : List.Forall₂ R l m)
    (hpair : ∀ a ∈ l, ∀ a' ∈ l, ∀ b b', R a b → R a' b' → (Q b b' ↔ P a a')) :
    m.Pairwise Q ↔ l.Pairwise P := by
  induction h with
  | nil => simp
  | @cons a b l m hab hrest ih =>
    have htail : m.Pairwise Q ↔ l.Pairwise P := ih fun x hx y hy =>
      hpair x (List.mem_cons_of_mem _ hx) y (List.mem_cons_of_mem _ hy)
    have hhead : (∀ y ∈ m, Q b y) ↔ ∀ x ∈ l, P a x := by
      constructor
      · intro hall x hx
        obtain ⟨y,hy,hxy⟩ := exists_of_forall₂ hrest hx
        exact (hpair a List.mem_cons_self x (List.mem_cons_of_mem _ hx) b y hab hxy).mp (hall y hy)
      · intro hall y hy
        obtain ⟨x,hx,hxy⟩ := exists_of_forall₂ hrest.flip hy
        exact (hpair a List.mem_cons_self x (List.mem_cons_of_mem _ hx) b y hab hxy).mpr (hall x hx)
    rw [List.pairwise_cons, List.pairwise_cons, htail, hhead]

/-- The key of a written value is the one that it is sorted by. -/
theorem Sql.sortKey?_of_key? {stored : Value} {k : SortKey} (h : key? stored = some k)
    (hwritten : ∀ t, stored = .text t → ∀ c ∈ t, c.isSurrogate = false) : sortKey? stored = some k := by
  cases stored with
  | int n => exact h
  | float x =>
    obtain ⟨q,hq,rfl⟩ := Option.map_eq_some_iff.mp h
    simp only [sortKey?, hq]
  | text t =>
    obtain ⟨bs,hbs⟩ := Text.exists_toUtf8? (hwritten t rfl)
    rw [← h, sortKey?, key?, hbs, Option.map_some, Text.toUtf8_of_toUtf8? hbs]
  | bytes bs => exact h
  | _ => cases h

theorem Value.below_iff_of_holds {v w : Value} {o : Ordering}
    (h : Operator.lt.holds v w = .ok (Operator.lt.accepts o)) : v.Below w ↔ o = .lt := by
  rw [Below, h, Except.ok.injEq]
  exact beq_iff_eq

namespace ValueKind
variable {kind : ValueKind}

theorem Sorts.isOwn {instants : Bool} {v : Value} (h : kind.Sorts instants v) : kind.IsOwn v :=
  ⟨h.admits,h.ne_none,h.isTruth,h.isNumber⟩

theorem Sorts.exists_key {instants : Bool} {v stored : Value} (h : kind.Sorts instants v)
    (hkind : kind.isStoredInOrder) (hstored : kind.encodePlain v = .ok stored) :
    ∃ k, v.HasKey k ∧ Sql.sortKey? stored = some k ∧ k.rank = kind.keyRank := by
  obtain ⟨k,hk,hkey,hrank⟩ := h.isOwn.exists_key hkind hstored
  refine ⟨k,hk,Sql.sortKey?_of_key? hkey ?_,hrank⟩
  rintro t rfl
  -- What is stored as a text is a text with the same bytes.
  obtain rfl : k = .text t.toUtf8 := (Option.some_inj.mp hkey).symm
  generalize hbytes : t.toUtf8 = utf8 at hk
  cases hk with
  | text u =>
    rw [Text.toUtf8_inj hbytes]
    exact h.isWritten u rfl

theorem Sorts.below_iff_precedes {instants : Bool} {v w a b : Value} (hv : kind.Sorts instants v)
    (hw : kind.Sorts instants w) (hkind : kind.isStoredInOrder) (ha : kind.encodePlain v = .ok a)
    (hb : kind.encodePlain w = .ok b) : v.Below w ↔ Sql.Precedes a b := by
  obtain ⟨k,hk,hsort,hrank⟩ := hv.exists_key hkind ha
  obtain ⟨l,hl,hsort',hrank'⟩ := hw.exists_key hkind hb
  rw [Value.below_iff_of_holds (hk.holds_eq hl (hrank.trans hrank'.symm) .lt), SortKey.order_eq_lt,
    Sql.Precedes]
  constructor
  · intro hbelow
    exact ⟨k,l,hsort,hsort',hbelow⟩
  · rintro ⟨k',l',hk',hl',hbelow⟩
    rw [hsort] at hk'
    rw [hsort'] at hl'
    cases hk'
    cases hl'
    exact hbelow

theorem precedes_bytes {a b : Bytes} : Sql.Precedes (.bytes a) (.bytes b) ↔ a < b := by
  constructor
  · rintro ⟨k,l,hk,hl,hbelow⟩
    cases hk
    cases hl
    exact hbelow
  · intro h
    exact ⟨_,_,rfl,rfl,h⟩

theorem toBytes_moment {m : Moment} (h : m.offset = none) :
    timestamp.toBytes (.moment m) = .ok (Bytes.ofNat 8 (10 * m.micros.val)) := by
  have hbytes : m.toBytes? = some (Bytes.ofNat 8 (10 * m.micros.val)) := by
    rw [Moment.toBytes?, Moment.toUniversal?_of_no_offset h, Option.map_some, h]
    simp
  simp only [toBytes, hbytes]

theorem toBytes_whole {c : ℕ} (hc : c < 10 ^ 9) :
    decimal.toBytes (.decimal (.finite false c 0)) = .ok (Bytes.ofNat 12 c ++ Bytes.ofNat 4 0) := by
  refine Decimal.toBytes_eq_ok.mpr ⟨⟨by decide,?_⟩,?_⟩
  · rw [Int.toNat_zero, Nat.pow_zero, Nat.mul_one]
    omega
  · rw [Int.toNat_zero, Nat.pow_zero, Nat.mul_one]
    rfl

theorem below_of_moments {m n : Moment} (hm : m.offset = none) (hn : n.offset = none)
    (h : m.micros.val < n.micros.val) : Value.Below (.moment m) (.moment n) := by
  have hclocks : m.offset.isSome = n.offset.isSome := by rw [hm, hn]
  have hinstants : m.instant < n.instant := by
    simp only [Moment.instant, hm, hn]
    omega
  rw [Value.below_iff_of_holds (Value.holds_of_moments .lt hclocks)]
  exact compare_lt_iff_lt.mpr hinstants

theorem below_of_numbers {v w : Value} {a b : Decimal} {q r : ExtendedRat} (hv : v.number? = some a)
    (hw : w.number? = some b) (ha : a.extended? = some q) (hb : b.extended? = some r) (h : q < r) :
    v.Below w := by
  rw [Value.below_iff_of_holds (Value.holds_of_numbers .lt hv hw ha hb)]
  exact compare_lt_iff_lt.mpr h

/-- A kind of layouts with their lowest byte first has a value with a lesser first byte than a smaller
one has. -/
theorem exists_reversed (hkind : kind.isStoredInOrder = false) : kind.isBlobStored ∧ ∃ v w a b,
    kind.Sorts false v ∧ kind.Sorts false w ∧ kind.toBytes v = .ok a ∧ kind.toBytes w = .ok b ∧
      v.Below w ∧ ¬a < b := by
  cases kind with
  | integer l =>
    rcases l with ⟨signed,width⟩
    cases width with
    | eight =>
      have hsorts (n : Int) : (integer ⟨signed,.eight⟩).Sorts false (.int n) :=
        ⟨.integer _ rfl,by rintro ⟨⟩,by rintro ⟨⟩,by rintro _ ⟨⟩,by rintro _ ⟨⟩,by rintro _ ⟨⟩⟩
      -- The lowest byte of 256 is zero, and it is compared first.
      refine ⟨rfl,.int 1,.int 256,[1, 0, 0, 0, 0, 0, 0, 0],[0, 1, 0, 0, 0, 0, 0, 0],hsorts 1,hsorts 256,
        ?_,?_,?_,by decide⟩
      · cases signed <;> rfl
      · cases signed <;> rfl
      · refine below_of_numbers rfl rfl (Decimal.extended?_ofInt 1) (Decimal.extended?_ofInt 256)
          (ExtendedRat.strictMono_ofRat ?_)
        norm_num
    | _ => cases hkind
  | decimal =>
    have hsorts (d : Decimal) : decimal.Sorts false (.decimal d) :=
      ⟨.decimal d,by rintro ⟨⟩,by rintro ⟨⟩,by rintro _ ⟨⟩,by rintro _ ⟨⟩,by rintro _ ⟨⟩⟩
    refine ⟨rfl,.decimal (.finite false 1 0),.decimal (.finite false 256 0),_,_,hsorts _,hsorts _,
      toBytes_whole (by decide),toBytes_whole (by decide),?_,by decide⟩
    refine below_of_numbers rfl rfl rfl rfl (ExtendedRat.strictMono_ofRat ?_)
    norm_num [Decimal.number, Decimal.size]
  | timestamp =>
    have hsorts (n : Fin microsOfCalendar) : timestamp.Sorts false (.moment ⟨n,none⟩) :=
      ⟨.timestamp _,by rintro ⟨⟩,by rintro ⟨⟩,by rintro _ ⟨⟩,by rintro _ ⟨⟩,by rintro _ ⟨⟩; rfl⟩
    -- A microsecond has ten ticks, so 128 of them are 1280 = 5 * 256 ticks.
    have hsmall : 1 < microsOfCalendar := by decide
    have hlarge : 128 < microsOfCalendar := by decide
    refine ⟨rfl,.moment ⟨⟨1,hsmall⟩,none⟩,.moment ⟨⟨128,hlarge⟩,none⟩,Bytes.ofNat 8 10,Bytes.ofNat 8 1280,
      hsorts _,hsorts _,toBytes_moment rfl,toBytes_moment rfl,below_of_moments rfl rfl ?_,by decide⟩
    exact (by decide : 1 < 128)
  | _ => cases hkind

end ValueKind

namespace Column
variable {c : Column}

theorem keepsOrder_iff (hplain : c.isEncrypted = false) : c.KeepsOrder ↔ c.kind.isStoredInOrder := by
  constructor
  · intro hkeeps
    by_contra hkind
    obtain ⟨hblob,v,w,a,b,hv,hw,ha,hb,hbelow,hnot⟩ :=
      ValueKind.exists_reversed (Bool.eq_false_iff.mpr hkind)
    have hstored {v : Value} {bs : Bytes} (hv : c.kind.Sorts false v) (h : c.kind.toBytes v = .ok bs) :
        c.encode v none = .ok (.bytes bs) := by
      rw [encode_eq_ok_of_plain hplain hv.ne_none]
      unfold ValueKind.encodePlain
      rw [if_pos hblob]
      exact map_eq_ok.mpr ⟨bs,h,rfl⟩
    have hsame := hkeeps false v w _ _ hv hw (hstored hv ha) (hstored hw hb)
    exact hnot (ValueKind.precedes_bytes.mp (hsame.mp hbelow))
  · intro hkind instants v w a b hv hw ha hb
    rw [encode_eq_ok_of_plain hplain hv.ne_none] at ha
    rw [encode_eq_ok_of_plain hplain hw.ne_none] at hb
    exact hv.below_iff_precedes hw hkind ha hb

theorem KeepsOrder.arranges_iff (h : c.KeepsOrder) {instants : Bool} {vs stored : List Value}
    (hvs : ∀ v ∈ vs, c.kind.Sorts instants v)
    (hstored : List.Forall₂ (fun v a => c.encode v none = .ok a) vs stored) (o : SortOrder) :
    o.Arranges Sql.Precedes stored ↔ o.Arranges Value.Below vs := by
  have hpair {v w a b : Value} (hv : v ∈ vs) (hw : w ∈ vs) (ha : c.encode v none = .ok a)
      (hb : c.encode w none = .ok b) : v.Below w ↔ Sql.Precedes a b :=
    h instants v w a b (hvs v hv) (hvs w hw) ha hb
  cases o with
  | ascending =>
    refine pairwise_iff_of_forall₂ hstored fun v hv w hw a b ha hb => not_congr ?_
    exact (hpair hw hv hb ha).symm
  | descending =>
    refine pairwise_iff_of_forall₂ hstored fun v hv w hw a b ha hb => not_congr ?_
    exact (hpair hv hw ha hb).symm

end Column

/-- A field that rows may be ordered by is one of a plain column. Its rows are in the order of the
values exactly if the values are stored in a form that has their order. -/
theorem Schema.orderColumn_keepsOrder_iff {s : Schema} {field name : Text}
    (h : s.orderColumn field = .ok name) : ∃ c ∈ s.columns, s.resolve? field = some c ∧ c.name = name ∧
      (c.KeepsOrder ↔ c.kind.isStoredInOrder) ∧
      (c.kind.isStoredInOrder → ∀ (instants : Bool) (vs stored : List Value) (o : SortOrder),
        (∀ v ∈ vs, c.kind.Sorts instants v) →
          List.Forall₂ (fun v a => c.encode v none = .ok a) vs stored →
            (o.Arranges Sql.Precedes stored ↔ o.Arranges Value.Below vs)) := by
  obtain ⟨c,hresolve,hname⟩ := bind_eq_ok.mp h
  split at hname
  · cases hname
  · rename_i hencrypted
    cases hname
    have hc : s.resolve? field = some c := resolve_eq_ok.mp hresolve
    have hkeeps := Column.keepsOrder_iff (Bool.eq_false_iff.mpr hencrypted)
    refine ⟨c,mem_of_resolve? hc,hc,rfl,hkeeps,?_⟩
    intro hkind instants vs stored o hvs hstored
    exact (hkeeps.mpr hkind).arranges_iff hvs hstored o

namespace Item

def declarations : List TypeDeclaration :=
  [⟨"Item",some "items",none,true,
    [⟨"id","int",some { ColumnOptions.plain with primaryKey := true },.required,true⟩,
      ⟨"size","int",some { ColumnOptions.plain with kind := some (.integer ⟨true,.eight⟩) },.required,
        true⟩]⟩]

def catalog : Catalog := declarations.map (Catalog.typeOf none)

def number : Column :=
  { name := "id", fieldName := "id", kind := .integer ⟨true,.four⟩, ordinal := 0, isPrimaryKey := true }

def size : Column := { name := "size", fieldName := "size", kind := .integer ⟨true,.eight⟩, ordinal := 1 }

set_option maxRecDepth 4000 in
theorem exists_schema : ∃ s, catalog.schemaOf "Item" = .ok s ∧ s.columns = [number, size] ∧
    s.orderColumn "id" = .ok "id" ∧ s.orderColumn "size" = .ok "size" :=
  ⟨_,rfl,rfl,rfl,rfl⟩

/-- Numbers of thirty-two bits are sorted by their values. -/
theorem keepsOrder_number : ∃ s : Schema, s.orderColumn "id" = .ok "id" ∧ number ∈ s.columns ∧
    number.KeepsOrder := by
  obtain ⟨s,_,hcolumns,hid,_⟩ := exists_schema
  obtain ⟨c,hc,hresolve,_,hkeeps,_⟩ := Schema.orderColumn_keepsOrder_iff hid
  have hnumber : s.resolve? "id" = some number := by
    simp only [Schema.resolve?, Schema.columnForField?, hcolumns]
    rfl
  rw [hnumber] at hresolve
  cases hresolve
  exact ⟨s,hid,hc,hkeeps.mpr rfl⟩

/-- Rows may be ordered by a size of sixty-four bits, and are not sorted by its value. -/
theorem not_keepsOrder_size : ¬∀ (ds : List TypeDeclaration) (catalog : Catalog) (typeName : Text)
    (s : Schema) (field name : Text) (c : Column), Catalog.ofDeclarations ds = .ok catalog →
    catalog.schemaOf typeName = .ok s → s.orderColumn field = .ok name → s.resolve? field = some c →
      c.KeepsOrder := by
  intro hall
  obtain ⟨s,hs,hcolumns,_,hsize⟩ := exists_schema
  have hresolve : s.resolve? "size" = some size := by
    simp only [Schema.resolve?, Schema.columnForField?, hcolumns]
    rfl
  have hkeeps := hall declarations catalog "Item" s "size" "size" size rfl hs hsize hresolve
  cases (Column.keepsOrder_iff rfl).mp hkeeps

end Item
end SealedRows
