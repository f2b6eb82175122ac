import SealedRows.Proofs.Codec.Layout
import SealedRows.Proofs.Outcome

/-! # Byte strings that can be read

Whether a byte string can be read as a value of a kind depends on its length alone: a text needs whole
units, bytes may have any length, and every other layout has the one of its kind. What is read then is a
value of the kind, whatever the bytes are.
-/
namespace SealedRows

def ValueKind.HasLength : ValueKind → Nat → Prop
  | .string, n => 2 ∣ n
  | .bytes, _ => True
  | kind, n => kind.size? = some n

inductive ValueKind.Contains : ValueKind → Value → Prop where
  | bool (b : Bool) : Contains .bool (.bool b)
  | integer {l : IntLayout} {n : Int} (h : l.Holds n) : Contains (.integer l) (.int n)
  | float32 {x : Double} (h : x.IsSingle) : Contains .float32 (.float x)
  | float64 (x : Double) : Contains .float64 (.float x)
  /-- A scale has a whole byte, although no more than 28 places are ever written. -/
  | decimal (negative : Bool) {c scale : Nat} (hc : c < 2 ^ 96) (hscale : scale < 256) :
      Contains .decimal (.decimal (.finite negative c (-scale)))
  | string (t : Text) : Contains .string (.text t)
  | timestamp {m : Moment} (h : m.offset = none ∨ m.offset = some 0) :
      Contains .timestamp (.moment m)
  | bytes (bs : Bytes) : Contains .bytes (.bytes bs)

theorem IntLayout.holds_ofBytes {l : IntLayout} {bs : Bytes} (h : bs.length = l.width.bytes) :
    l.Holds (l.ofBytes bs) := by
  have hhalf := l.two_mul_half_count
  have hlt : Bytes.toNat bs < l.count := by
    rw [count, ← h]
    exact Bytes.toNat_lt bs
  simp only [Holds, ofBytes, least, bound]
  by_cases hsigned : l.signed
  · simp only [if_pos hsigned]
    split <;> omega
  · simp only [if_neg hsigned]
    split <;> omega

namespace Text

theorem unitsOf?_isSome_iff (bs : Bytes) : (unitsOf? bs).isSome ↔ 2 ∣ bs.length := by
  fun_induction unitsOf? bs with
  | case1 => simp
  | case2 => simp
  | case3 lo hi rest ih =>
    rw [Option.isSome_map, ih, List.length_cons, List.length_cons]
    omega

theorem ofUtf16?_isSome_iff (bs : Bytes) : (ofUtf16? bs).isSome ↔ 2 ∣ bs.length := by
  rw [ofUtf16?, Option.isSome_map, unitsOf?_isSome_iff]

end Text

theorem Moment.offset_ofBytes (bs : Bytes) : (ofBytes bs).offset = none ∨ (ofBytes bs).offset = some 0 := by
  simp only [ofBytes]
  split
  · exact Or.inr rfl
  · exact Or.inl rfl

namespace ValueKind
variable {kind : ValueKind} {v w : Value} {bs : Bytes} {n : Nat}

theorem Contains.ne_none (h : kind.Contains v) : v ≠ .none := by
  rintro rfl
  cases h

theorem ofBytes_of_size (hkind : kind.size? = some n) (h : bs.length = n) :
    kind.ofBytes bs = kind.ofSizedBytes bs := by
  rw [ofBytes, hkind]
  exact if_pos h

theorem ofBytes_of_no_size (hkind : kind.size? = none) (bs : Bytes) :
    kind.ofBytes bs = kind.ofSizedBytes bs := by
  rw [ofBytes, hkind]

theorem hasLength_iff_of_size (hkind : kind.size? = some n) (m : Nat) : kind.HasLength m ↔ m = n := by
  have hsize : kind.HasLength m ↔ kind.size? = some m := by
    cases kind with
    | string => cases hkind
    | bytes => cases hkind
    | _ => exact Iff.rfl
  rw [hsize, hkind, Option.some_inj, eq_comm]

/-- A byte string can be read as a value of a kind exactly if layouts of the kind have its length. -/
theorem exists_ofBytes_iff : (∃ w, kind.ofBytes bs = .ok w) ↔ kind.HasLength bs.length := by
  cases hsize : kind.size? with
  | some n =>
    rw [hasLength_iff_of_size hsize, ofBytes, hsize]
    dsimp only
    split
    · next hlength =>
      refine iff_of_true ?_ hlength
      cases kind with
      | string => cases hsize
      | _ => exact ⟨_,rfl⟩
    · next hlength => exact iff_of_false nofun hlength
  | none =>
    rw [ofBytes_of_no_size hsize]
    cases kind with
    | string =>
      rw [HasLength, ← Text.ofUtf16?_isSome_iff, ofSizedBytes]
      cases Text.ofUtf16? bs <;> simp
    | bytes => exact iff_of_true ⟨_,rfl⟩ trivial
    | _ => cases hsize

theorem contains_ofSizedBytes (hlength : kind.HasLength bs.length) (h : kind.ofSizedBytes bs = .ok w) :
    kind.Contains w := by
  cases kind with
  | integer l =>
    cases h
    exact .integer (IntLayout.holds_ofBytes ((hasLength_iff_of_size rfl _).mp hlength))
  | float32 =>
    cases h
    exact .float32 (Double.isSingle_ofSingle _)
  | float64 =>
    cases h
    exact .float64 _
  | decimal =>
    cases h
    have hbytes : bs.length = 16 := (hasLength_iff_of_size rfl _).mp hlength
    have hcoefficient := Bytes.toNat_lt (bs.take 12)
    rw [List.length_take, hbytes] at hcoefficient
    exact .decimal _ (hcoefficient.trans_le (by decide)) (Nat.mod_lt _ (by decide))
  | bool =>
    cases h
    exact .bool _
  | string =>
    simp only [ofSizedBytes] at h
    split at h
    · cases h
      exact .string _
    · cases h
  | timestamp =>
    cases h
    exact .timestamp (Moment.offset_ofBytes bs)
  | bytes =>
    cases h
    exact .bytes _

/-- What a byte string is read as is a value of the kind. -/
theorem contains_ofBytes (h : kind.ofBytes bs = .ok w) : kind.Contains w := by
  have hlength := exists_ofBytes_iff.mp ⟨w,h⟩
  refine contains_ofSizedBytes hlength ?_
  cases hsize : kind.size? with
  | some n => rwa [ofBytes_of_size hsize ((hasLength_iff_of_size hsize _).mp hlength)] at h
  | none => rwa [ofBytes_of_no_size hsize] at h

/-- The layout of a kind with a size has that size. -/
theorem length_toBytes (hkind : kind.size? = some n) (h : kind.toBytes v = .ok bs) : bs.length = n := by
  cases kind with
  | string => cases hkind
  | bytes => cases hkind
  | integer l =>
    cases hkind
    simp only [toBytes] at h
    split at h
    · split at h
      · cases h
        exact Bytes.length_ofNat ..
      · cases h
    · cases h
  | float32 =>
    cases hkind
    simp only [toBytes] at h
    split at h
    · split at h
      · cases h
        exact Bytes.length_ofNat ..
      · cases h
    · cases h
  | float64 =>
    cases hkind
    simp only [toBytes] at h
    split at h
    · cases h
      exact Bytes.length_ofNat ..
    · cases h
  | decimal =>
    cases hkind
    simp only [toBytes] at h
    split at h
    · rename_i d _
      rcases d with ⟨negative,c,e⟩ | negative | ⟨negative,signaling,payload⟩
      · exact (Decimal.ofBytes_toBytes h).2
      · cases h
      · cases h
    · cases h
  | bool =>
    cases hkind
    obtain ⟨b,_,rfl⟩ := map_eq_ok.mp h
    rfl
  | timestamp =>
    cases hkind
    simp only [toBytes] at h
    split at h
    · split at h
      · rename_i m _ _ hm
        cases h
        obtain ⟨u,_,rfl⟩ := Option.map_eq_some_iff.mp hm
        exact Bytes.length_ofNat ..
      · cases h
    · cases h

theorem hasLength_toBytes (h : kind.toBytes v = .ok bs) : kind.HasLength bs.length := by
  cases hsize : kind.size? with
  | some n => exact (hasLength_iff_of_size hsize _).mpr (length_toBytes hsize h)
  | none =>
    cases kind with
    | string =>
      simp only [toBytes] at h
      split at h
      · cases h
        exact (Text.ofUtf16?_isSome_iff _).mp (by rw [Text.ofUtf16?_toUtf16]; rfl)
      · cases h
    | bytes => trivial
    | _ => cases hsize

/-- What was put into a layout can be read from it. -/
theorem exists_ofBytes (h : kind.toBytes v = .ok bs) : ∃ w, kind.ofBytes bs = .ok w :=
  exists_ofBytes_iff.mpr (hasLength_toBytes h)

end ValueKind
end SealedRows
