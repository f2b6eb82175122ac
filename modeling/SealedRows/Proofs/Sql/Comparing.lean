import SealedRows.Proofs.Codec.Represented
import SealedRows.Proofs.Text.Utf8
import SealedRows.Proofs.Value.Comparison

/-! # Comparison by the database

The database compares numbers by their size, and texts and byte strings byte by byte; numbers are below
texts and texts below byte strings. What a plain column stores of numbers, texts and byte strings compares
as the values of its field do.
-/
namespace SealedRows

inductive SortKey where
  | null
  | number (q : ExtendedRat)
  | text (utf8 : Bytes)
  | blob (bs : Bytes)

namespace SortKey

def rank : SortKey → Nat
  | null => 0
  | number _ => 1
  | text _ => 2
  | blob _ => 3

def Below : SortKey → SortKey → Prop
  | number q, number r => q < r
  | text a, text b | blob a, blob b => a < b
  | a, b => a.rank < b.rank

def order : SortKey → SortKey → Ordering
  | number q, number r => compare q r
  | text a, text b | blob a, blob b => compare a b
  | a, b => compare a.rank b.rank

theorem order_eq_lt (k l : SortKey) : k.order l = .lt ↔ k.Below l := by
  cases k <;> cases l <;> first | exact compare_lt_iff_lt | exact Bytes.compare_eq_lt _ _

end SortKey

namespace Sql

/-- The key of a stored value that is not null. A double without a number is stored as null. -/
def key? : Value → Option SortKey
  | .int n => some (.number (.ofRat n))
  | .float x => x.extended?.map .number
  | .text t => some (.text t.toUtf8)
  | .bytes bs => some (.blob bs)
  | _ => none

/-- Whether the database takes a comparison of stored values for true. It does so of none with null. -/
def compares (op : Operator) (v w : Value) : Bool :=
  match key? v, key? w with
  | some k, some l => op.accepts (k.order l)
  | _, _ => false

end Sql

/-- The values of the own type of a kind that are not missing numbers. -/
structure ValueKind.IsOwn (kind : ValueKind) (v : Value) : Prop where
  admits : kind.Admits v
  ne_none : v ≠ .none
  isTruth : kind = .bool → ∃ b, v = .bool b
  isNumber : ∀ x, v = .float x → x.isNaN = false

/-- Whether plain values of a kind are stored in a form that the database can put in order. -/
def ValueKind.isStoredInOrder (kind : ValueKind) : Bool := !kind.isBlobStored || kind = .bytes

def ValueKind.keyRank : ValueKind → Nat
  | string => 2
  | bytes => 3
  | _ => 1

namespace Text

theorem compare_toUtf8 (t u : Text) : compare t.toUtf8 u.toUtf8 = compare t u := by
  cases hcompare : compare t u with
  | lt => exact (Bytes.compare_eq_lt _ _).mpr ((lt_iff_toUtf8_lt t u).mp ((compare_eq_lt t u).mp hcompare))
  | eq =>
    rw [Std.compare_eq_iff_eq.mp hcompare]
    exact Std.compare_self
  | gt =>
    have hlt := (lt_iff_toUtf8_lt u t).mp ((compare_eq_lt u t).mp (Std.OrientedCmp.gt_iff_lt.mp hcompare))
    exact Std.OrientedCmp.gt_iff_lt.mpr ((Bytes.compare_eq_lt _ _).mpr hlt)

theorem toUtf8_inj {t u : Text} (h : t.toUtf8 = u.toUtf8) : t = u := by
  rw [← Std.compare_eq_iff_eq, ← compare_toUtf8, Std.compare_eq_iff_eq]
  exact h

end Text

namespace Value
variable {v w : Value}

/-- The key by which a value would be compared if it were stored as what it is. -/
inductive HasKey : Value → SortKey → Prop where
  | number {v : Value} {d : Decimal} {q : ExtendedRat} (hv : v.number? = some d)
      (hd : d.extended? = some q) : HasKey v (.number q)
  | text (t : Text) : HasKey (.text t) (.text t.toUtf8)
  | blob {v : Value} {bs : Bytes} (h : v.bytes? = some bs) : HasKey v (.blob bs)

/-- Values compare as their keys do, if these are of one class. -/
theorem HasKey.holds_eq {k l : SortKey} (hv : v.HasKey k) (hw : w.HasKey l) (hrank : k.rank = l.rank)
    (op : Operator) : op.holds v w = .ok (op.accepts (k.order l)) := by
  cases hv with
  | number hv ha =>
    cases hw with
    | number hw hb => exact holds_of_numbers op hv hw ha hb
    | _ => cases hrank
  | text t =>
    cases hw with
    | text u => rw [holds_of_texts, SortKey.order, Text.compare_toUtf8]
    | _ => cases hrank
  | blob hv =>
    cases hw with
    | blob hw => exact holds_of_bytes op hv hw
    | _ => cases hrank

end Value

namespace ValueKind
variable {kind : ValueKind} {v w a b : Value}

theorem number?_of_integer? {v : Value} {n : Int} (h : v.integer? = some n) :
    v.number? = some (Decimal.ofInt n) := by
  cases v <;> cases h <;> rfl

theorem exists_key_double {x : Double} (hx : x.isNaN = false) :
    ∃ q, Value.HasKey (.float x) (.number q) ∧ Sql.key? (.float x) = some (.number q) := by
  obtain ⟨q,hq⟩ : ∃ q, x.extended? = some q := by
    rw [Double.extended?, if_neg (by rw [hx]; exact Bool.false_ne_true)]
    split <;> exact ⟨_,rfl⟩
  refine ⟨q,.number rfl ((Decimal.extended?_ofDouble x).trans hq),?_⟩
  rw [Sql.key?, hq, Option.map_some]

theorem IsOwn.exists_key {stored : Value} (h : kind.IsOwn v) (hkind : kind.isStoredInOrder)
    (hstored : kind.encodePlain v = .ok stored) :
    ∃ k, v.HasKey k ∧ Sql.key? stored = some k ∧ k.rank = kind.keyRank := by
  cases h.admits with
  | null => exact absurd rfl h.ne_none
  | bool =>
    obtain ⟨b,rfl⟩ := h.isTruth rfl
    cases hstored
    have hnumber : (Value.bool b).number? = some (Decimal.ofInt (if b then 1 else 0)) := rfl
    exact ⟨_,.number hnumber (Decimal.extended?_ofInt _),rfl,rfl⟩
  | integer l =>
    have hplain : ¬(integer l).isBlobStored := by simpa [isStoredInOrder] using hkind
    rw [encodePlain, if_neg hplain] at hstored
    obtain ⟨bs,hbs,hstored⟩ := bind_eq_ok.mp hstored
    obtain ⟨n,hn,hint⟩ := integer?_eq_of_toBytes hbs
    rw [hint] at hstored
    cases hstored
    exact ⟨_,.number (number?_of_integer? hn) (Decimal.extended?_ofInt n),rfl,rfl⟩
  | float32 x =>
    cases hstored
    obtain ⟨q,hkey,hsort⟩ := exists_key_double (h.isNumber _ rfl)
    exact ⟨_,hkey,hsort,rfl⟩
  | float64 x =>
    cases hstored
    obtain ⟨q,hkey,hsort⟩ := exists_key_double (h.isNumber _ rfl)
    exact ⟨_,hkey,hsort,rfl⟩
  | string t =>
    cases hstored
    exact ⟨_,.text t,rfl,rfl⟩
  | bytes bs =>
    cases hstored
    exact ⟨_,.blob rfl,rfl,rfl⟩
  | buffer bs =>
    cases hstored
    exact ⟨_,.blob rfl,rfl,rfl⟩
  | decimal d => cases hkind
  | timestamp m => cases hkind

/-- Values of a kind compare as the forms do in which a plain column stores them. -/
theorem IsOwn.holds_eq (hv : kind.IsOwn v) (hw : kind.IsOwn w) (hkind : kind.isStoredInOrder)
    (ha : kind.encodePlain v = .ok a) (hb : kind.encodePlain w = .ok b) (op : Operator) :
    op.holds v w = .ok (Sql.compares op a b) := by
  obtain ⟨k,hk,hkey,hrank⟩ := hv.exists_key hkind ha
  obtain ⟨l,hl,hkey',hrank'⟩ := hw.exists_key hkind hb
  rw [hk.holds_eq hl (hrank.trans hrank'.symm), Sql.compares, hkey, hkey']

end ValueKind
end SealedRows
