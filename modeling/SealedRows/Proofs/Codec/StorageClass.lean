import SealedRows.Proofs.Codec.Represented
import SealedRows.Row

/-! # Declared and stored types

The declared type of a column and the form in which it stores a value are found in different ways, and they
agree: what a column stores of a value that is not null has the declared type, so the database has nothing to
convert. Integers lie in the range of their kind, and bytes have the length of its layout, encrypted or not.
-/
namespace SealedRows

/-- The integers that plain columns of a kind hold: those of its size, or 0 and 1 for truth values. -/
def ValueKind.Ranges : ValueKind → ℤ → Prop
  | integer l, n => l.Holds n
  | bool, n => n = 0 ∨ n = 1
  | _, _ => False

inductive ValueKind.Stores (kind : ValueKind) : StorageClass → Value → Prop where
  | integer {n : ℤ} (h : kind.Ranges n) : Stores kind .integer (.int n)
  | real (x : Double) : Stores kind .real (.float x)
  | text (t : Text) : Stores kind .text (.text t)
  | blob {bs : Bytes} (h : kind.HasLength bs.length) : Stores kind .blob (.bytes bs)

namespace ValueKind
variable {kind : ValueKind} {v stored : Value}

theorem Stores.class_eq {k : StorageClass} (h : kind.Stores k stored) : StorageClass.of? stored = some k := by
  cases h <;> rfl

theorem holds_of_toBytes {l : IntLayout} {bs : Bytes} {n : ℤ} (h : (ValueKind.integer l).toBytes v = .ok bs)
    (hn : v.integer? = some n) : l.Holds n := by
  simp only [toBytes, hn] at h
  split at h
  · assumption
  · cases h

theorem stores_encodePlain (h : kind.encodePlain v = .ok stored) : kind.Stores kind.storageClass stored := by
  unfold storageClass
  by_cases hkind : kind.isBlobStored
  · obtain ⟨bs,hbytes,rfl⟩ := encodePlain_of_isBlobStored hkind h
    rw [if_pos hkind]
    exact .blob (hasLength_toBytes hbytes)
  · unfold encodePlain at h
    rw [if_neg hkind] at h ⊢
    cases kind with
    | bool =>
      obtain ⟨b,-,rfl⟩ := map_eq_ok.mp h
      cases b with
      | false => exact .integer (Or.inl rfl)
      | true => exact .integer (Or.inr rfl)
    | integer l =>
      obtain ⟨bs,hbytes,h⟩ := bind_eq_ok.mp h
      obtain ⟨n,hn,hint⟩ := integer?_eq_of_toBytes hbytes
      rw [hint] at h
      cases h
      exact .integer (holds_of_toBytes hbytes hn)
    | float32 | float64 =>
      obtain ⟨x,-,rfl⟩ := map_eq_ok.mp h
      exact .real x
    | string =>
      cases v with
      | text t =>
        cases h
        exact .text t
      | _ => cases h
    | _ => exact absurd rfl hkind

/-- The keystream keeps the length of a layout. -/
theorem stores_encode_sealed {ordinal : ℤ} {c : CipherContext} (hv : v ≠ .none)
    (h : kind.encode v ordinal (some c) = .ok stored) : kind.Stores .blob stored := by
  rw [encode_sealed kind hv] at h
  obtain ⟨bs,hbytes,h⟩ := bind_eq_ok.mp h
  obtain ⟨out,hout,rfl⟩ := map_eq_ok.mp h
  have hlength := c.length_applied (ValueFault.liftCipher_eq_ok.mp hout)
  refine .blob ?_
  rw [hlength]
  exact hasLength_toBytes hbytes

end ValueKind

namespace Column
variable {c : Column} {v stored : Value} {cipher : Option CipherContext}

theorem stores_encode (hv : v ≠ .none) (h : c.encode v cipher = .ok stored) :
    c.kind.Stores c.storageClass stored := by
  rw [encode_of_ne_none hv] at h
  obtain ⟨used,hused,hencode⟩ := bind_eq_ok.mp h
  rw [mapError_eq_ok] at hencode
  rcases cipherFor_eq_ok.mp hused with ⟨hencrypted,hsome,rfl⟩ | ⟨hplain,rfl⟩
  · obtain ⟨context,rfl⟩ := Option.isSome_iff_exists.mp hsome
    rw [storageClass, if_pos hencrypted]
    exact ValueKind.stores_encode_sealed hv hencode
  · rw [storageClass, if_neg (by simp [hplain])]
    rw [ValueKind.encode_plain _ hv] at hencode
    exact ValueKind.stores_encodePlain hencode

/-- What a column stores has the type that it is declared with, an integer lies in the range of the kind, and
bytes have the size of the kind if it has one. -/
theorem storageClass_of_encode (hv : v ≠ .none) (h : c.encode v cipher = .ok stored) :
    StorageClass.of? stored = some c.storageClass ∧
      (c.storageClass = .integer → ∃ n, stored = .int n ∧ c.kind.Ranges n) ∧
        (c.storageClass = .blob → ∃ bs, stored = .bytes bs ∧
          ∀ size, c.kind.size? = some size → bs.length = size) := by
  have hstores := stores_encode hv h
  refine ⟨hstores.class_eq,fun hinteger => ?_,fun hblob => ?_⟩
  · rw [hinteger] at hstores
    cases hstores with
    | integer hn => exact ⟨_,rfl,hn⟩
  · rw [hblob] at hstores
    cases hstores with
    | blob hlength =>
      exact ⟨_,rfl,fun size hsize => (ValueKind.hasLength_iff_of_size hsize _).mp hlength⟩

end Column
end SealedRows

namespace SealedRows.Badge

def valid : Column := { name := "valid", fieldName := "valid", kind := .bool, ordinal := 1 }

def level : Column :=
  { name := "level", fieldName := "level", kind := .integer ⟨false,.two⟩, ordinal := 2, isEncrypted := true }

/-- Any text but the empty one is a true value, and an encrypted number keeps its two bytes. -/
theorem storageClass_badge :
    let cipher : CipherContext := ⟨.des,[1, 2, 3, 4, 5, 6, 7, 8],Vector.replicate 8 5⟩
    (∃ n, valid.encode (.text "no") none = .ok (.int n) ∧ valid.kind.Ranges n) ∧
      ∃ bs, level.encode (.int 300) (some cipher) = .ok (.bytes bs) ∧ bs.length = 2 ∧
        StorageClass.of? (.bytes bs) = some level.storageClass := by
  intro cipher
  have hplain : valid.encode (.text "no") none = .ok (.int 1) := rfl
  obtain ⟨-,hinteger,-⟩ := Column.storageClass_of_encode (v := .text "no") nofun hplain
  obtain ⟨n,⟨⟩,hrange⟩ := hinteger rfl
  have hlevel : Value.int 300 ≠ .none := nofun
  have howns : level.kind.Owns (.int 300) := .integer _ rfl
  have hordinal : 2 < 2 ^ 32 := by decide
  obtain ⟨stored,hstored⟩ := (howns.exists_encode_iff hordinal (some cipher)).mpr ⟨300,rfl,by decide⟩
  have hsealed : level.encode (.int 300) (some cipher) = .ok stored := by
    rw [Column.encode_of_ne_none hlevel, bind_eq_ok]
    exact ⟨some cipher,rfl,mapError_eq_ok.mpr hstored⟩
  obtain ⟨hclass,-,hblob⟩ := Column.storageClass_of_encode hlevel hsealed
  obtain ⟨bs,rfl,hsize⟩ := hblob rfl
  exact ⟨⟨1,hplain,hrange⟩,bs,hsealed,hsize 2 rfl,hclass⟩

end SealedRows.Badge
