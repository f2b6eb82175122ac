import SealedRows.Codec.Column
import SealedRows.Proofs.Codec.Canonical

/-! # Stored values read back

What a column stores can be read again with the same cipher. What is read depends on the column and on
the value alone, not on the key and the salt, and is the canonical form of an admitted value.
-/
namespace SealedRows

theorem Canonical.of_isBlobStored {kind : ValueKind} (hkind : kind.isBlobStored) {a b : Bool}
    {v w : Value} (h : Canonical a kind v w) : Canonical b kind v w := by
  cases h with
  | null => exact .null kind
  | integer l h => exact .integer l h
  | decimal negative c e => exact .decimal negative c e
  | timestamp h => exact .timestamp h
  | timestampUniversal h hoffset hinstant => exact .timestampUniversal h hoffset hinstant
  | bytes bs => exact .bytes bs
  | buffer bs => exact .buffer bs
  | _ => cases hkind

namespace ValueKind

theorem encodePlain_of_isBlobStored {kind : ValueKind} (hkind : kind.isBlobStored) {v stored : Value}
    (h : kind.encodePlain v = .ok stored) : ∃ bs, kind.toBytes v = .ok bs ∧ stored = .bytes bs := by
  unfold encodePlain at h
  rw [if_pos hkind] at h
  obtain ⟨bs,hbytes,rfl⟩ := map_eq_ok.mp h
  exact ⟨bs,hbytes,rfl⟩

theorem integer?_eq_of_toBytes {l : IntLayout} {v : Value} {bs : Bytes}
    (h : (integer l).toBytes v = .ok bs) : ∃ n, v.integer? = some n ∧ v.toInt = .ok n := by
  cases v with
  | bool b => exact ⟨_,rfl,rfl⟩
  | int n => exact ⟨n,rfl,rfl⟩
  | _ => cases h

/-- What a plain column stores is not null and can be read again. -/
theorem decodePlain_encodePlain {kind : ValueKind} {v stored : Value} (hv : v ≠ .none)
    (h : kind.encodePlain v = .ok stored) :
    stored ≠ .none ∧ ∃ w, kind.decodePlain stored = .ok w ∧
      (kind.Admits v → Canonical false kind v w) := by
  by_cases hkind : kind.isBlobStored
  · obtain ⟨bs,hbytes,rfl⟩ := encodePlain_of_isBlobStored hkind h
    obtain ⟨w,hw⟩ := exists_ofBytes hbytes
    refine ⟨nofun,w,?_,fun ha => (canonical_ofBytes ha hv hbytes hw).of_isBlobStored hkind⟩
    unfold decodePlain
    rw [if_pos hkind]
    exact hw
  · unfold encodePlain at h
    unfold decodePlain
    rw [if_neg hkind] at h ⊢
    cases kind with
    | bool =>
      obtain ⟨b,hb,rfl⟩ := map_eq_ok.mp h
      refine ⟨nofun,.bool b,?_,fun _ => .bool hv hb⟩
      cases b <;> rfl
    | integer l =>
      obtain ⟨bs,hbytes,h⟩ := bind_eq_ok.mp h
      obtain ⟨n,hn,hint⟩ := integer?_eq_of_toBytes hbytes
      rw [hint] at h
      cases h
      exact ⟨nofun,.int n,rfl,fun _ => .integer l hn⟩
    | float32 =>
      obtain ⟨x,hx,rfl⟩ := map_eq_ok.mp h
      refine ⟨nofun,.float x,rfl,fun ha => ?_⟩
      cases ha with
      | null => exact absurd rfl hv
      | float32 y =>
        cases hx
        exact .float32 x (Or.inr rfl)
    | float64 =>
      obtain ⟨x,hx,rfl⟩ := map_eq_ok.mp h
      refine ⟨nofun,.float x,rfl,fun ha => ?_⟩
      cases ha with
      | null => exact absurd rfl hv
      | float64 y =>
        cases hx
        exact .float64 x
    | string =>
      cases v with
      | text t =>
        cases h
        exact ⟨nofun,.text t,by simp only [Value.written],fun _ => .string t rfl⟩
      | _ => cases h
    | _ => exact absurd rfl hkind

theorem encode_plain (kind : ValueKind) {v : Value} (hv : v ≠ .none) (ordinal : Int) :
    kind.encode v ordinal none = kind.encodePlain v := by
  cases v with
  | none => exact absurd rfl hv
  | _ => rfl

theorem encode_sealed (kind : ValueKind) {v : Value} (hv : v ≠ .none) (ordinal : Int)
    (c : CipherContext) : kind.encode v ordinal (some c) =
      (kind.toBytes v >>= fun bs => (ValueFault.liftCipher (c.applied bs ordinal)).map .bytes) := by
  cases v with
  | none => exact absurd rfl hv
  | _ => rfl

theorem decode_plain (kind : ValueKind) {raw : Value} (hraw : raw ≠ .none) (ordinal : Int) :
    kind.decode raw ordinal none = kind.decodePlain raw := by
  cases raw with
  | none => exact absurd rfl hraw
  | _ => rfl

/-- What is stored with a cipher is not null and can be read again with that cipher. -/
theorem decode_encode_sealed {kind : ValueKind} {v stored : Value} {ordinal : Int} {c : CipherContext}
    (hv : v ≠ .none) (h : kind.encode v ordinal (some c) = .ok stored) :
    stored ≠ .none ∧ ∃ bs w, kind.toBytes v = .ok bs ∧ kind.ofBytes bs = .ok w ∧
      kind.decode stored ordinal (some c) = .ok w := by
  rw [encode_sealed kind hv] at h
  obtain ⟨bs,hbytes,h⟩ := bind_eq_ok.mp h
  obtain ⟨out,hout,rfl⟩ := map_eq_ok.mp h
  obtain ⟨w,hw⟩ := exists_ofBytes hbytes
  refine ⟨nofun,bs,w,hbytes,hw,?_⟩
  have hback := c.applied_applied (ValueFault.liftCipher_eq_ok.mp hout)
  exact bind_eq_ok.mpr ⟨out,rfl,bind_eq_ok.mpr ⟨bs,ValueFault.liftCipher_eq_ok.mpr hback,hw⟩⟩

end ValueKind

namespace Column

def readBack (c : Column) (v : Value) : Except ValueFault Value :=
  if v.isNone then .ok .none
  else if c.isEncrypted then c.kind.toBytes v >>= c.kind.ofBytes
  else c.kind.encodePlain v >>= c.kind.decodePlain

theorem encode_of_ne_none {c : Column} {v : Value} (hv : v ≠ .none) (cipher : Option CipherContext) :
    c.encode v cipher = (c.cipherFor cipher >>= fun cipher =>
      (c.kind.encode v c.ordinal cipher).mapError .value) :=
  if_neg (mt Value.isNone_iff.mp hv)

theorem decode_of_ne_none {c : Column} {raw : Value} (hraw : raw ≠ .none)
    (cipher : Option CipherContext) : c.decode raw cipher = (c.cipherFor cipher >>= fun cipher =>
      (c.kind.decode raw c.ordinal cipher).mapError .value) :=
  if_neg (mt Value.isNone_iff.mp hraw)

theorem readBack_sealed {c : Column} {v : Value} (hv : v ≠ .none) (hencrypted : c.isEncrypted) :
    c.readBack v = (c.kind.toBytes v >>= c.kind.ofBytes) := by
  rw [readBack, if_neg (mt Value.isNone_iff.mp hv), if_pos hencrypted]

theorem readBack_plain {c : Column} {v : Value} (hv : v ≠ .none) (hplain : c.isEncrypted = false) :
    c.readBack v = (c.kind.encodePlain v >>= c.kind.decodePlain) := by
  rw [readBack, if_neg (mt Value.isNone_iff.mp hv), if_neg (by simp [hplain])]

/-- An encrypted column needs a cipher, and a plain one uses none. -/
theorem cipherFor_eq_ok {c : Column} {cipher used : Option CipherContext} :
    c.cipherFor cipher = .ok used ↔
      (c.isEncrypted ∧ cipher.isSome ∧ used = cipher) ∨ (c.isEncrypted = false ∧ used = none) := by
  unfold cipherFor
  cases c.isEncrypted <;> cases cipher <;> simp [eq_comm]

theorem encode_eq_ok_of_plain {c : Column} (hplain : c.isEncrypted = false) {v : Value} (hv : v ≠ .none)
    {stored : Value} : c.encode v none = .ok stored ↔ c.kind.encodePlain v = .ok stored := by
  have hcipher : c.cipherFor none = .ok none := cipherFor_eq_ok.mpr (Or.inr ⟨hplain,rfl⟩)
  rw [encode_of_ne_none hv, hcipher, bind_eq_ok]
  simp only [Except.ok.injEq, exists_eq_left', mapError_eq_ok, ValueKind.encode_plain c.kind hv]

theorem decode_eq_ok_of_plain {c : Column} (hplain : c.isEncrypted = false) {raw : Value}
    (hraw : raw ≠ .none) {v : Value} : c.decode raw none = .ok v ↔ c.kind.decodePlain raw = .ok v := by
  have hcipher : c.cipherFor none = .ok none := cipherFor_eq_ok.mpr (Or.inr ⟨hplain,rfl⟩)
  rw [decode_of_ne_none hraw, hcipher, bind_eq_ok]
  simp only [Except.ok.injEq, exists_eq_left', mapError_eq_ok, ValueKind.decode_plain c.kind hraw]

/-- A stored value is read again with the same cipher, and null alone is stored as null. -/
theorem decode_encode {c : Column} {v stored : Value} {cipher : Option CipherContext}
    (h : c.encode v cipher = .ok stored) :
    (stored = .none ↔ v = .none) ∧ ∃ w, c.readBack v = .ok w ∧ c.decode stored cipher = .ok w := by
  by_cases hv : v = .none
  · subst hv
    cases h
    exact ⟨Iff.rfl,.none,rfl,rfl⟩
  · rw [encode_of_ne_none hv] at h
    obtain ⟨used,hused,hencode⟩ := bind_eq_ok.mp h
    rw [mapError_eq_ok] at hencode
    rcases cipherFor_eq_ok.mp hused with ⟨hencrypted,hsome,rfl⟩ | ⟨hplain,rfl⟩
    · obtain ⟨context,rfl⟩ := Option.isSome_iff_exists.mp hsome
      obtain ⟨hstored,bs,w,hbytes,hw,hdecode⟩ := ValueKind.decode_encode_sealed hv hencode
      refine ⟨⟨fun hn => absurd hn hstored,fun hn => absurd hn hv⟩,w,?_,?_⟩
      · rw [readBack_sealed hv hencrypted]
        exact bind_eq_ok.mpr ⟨bs,hbytes,hw⟩
      · rw [decode_of_ne_none hstored]
        exact bind_eq_ok.mpr ⟨_,hused,mapError_eq_ok.mpr hdecode⟩
    · rw [ValueKind.encode_plain _ hv] at hencode
      obtain ⟨hstored,w,hw,_⟩ := ValueKind.decodePlain_encodePlain hv hencode
      refine ⟨⟨fun hn => absurd hn hstored,fun hn => absurd hn hv⟩,w,?_,?_⟩
      · rw [readBack_plain hv hplain]
        exact bind_eq_ok.mpr ⟨stored,hencode,hw⟩
      · rw [decode_of_ne_none hstored]
        refine bind_eq_ok.mpr ⟨_,hused,mapError_eq_ok.mpr ?_⟩
        rw [ValueKind.decode_plain _ hstored, hw]

theorem canonical_readBack {c : Column} {v w : Value} (hadmits : c.kind.Admits v)
    (h : c.readBack v = .ok w) : Canonical c.isEncrypted c.kind v w := by
  by_cases hv : v = .none
  · subst hv
    cases h
    exact .null c.kind
  · cases hencrypted : c.isEncrypted with
    | true =>
      rw [readBack_sealed hv hencrypted] at h
      obtain ⟨bs,hbytes,hw⟩ := bind_eq_ok.mp h
      exact ValueKind.canonical_ofBytes hadmits hv hbytes hw
    | false =>
      rw [readBack_plain hv hencrypted] at h
      obtain ⟨stored,hstored,h⟩ := bind_eq_ok.mp h
      obtain ⟨_,u,hu,hcanonical⟩ := ValueKind.decodePlain_encodePlain hv hstored
      cases h.symm.trans hu
      exact hcanonical hadmits

/-- Only what an encrypted column stores depends on the cipher, and null does not. -/
theorem decode_congr (c : Column) {raw : Value} {a b : Option CipherContext}
    (h : c.isEncrypted → raw ≠ .none → a = b) : c.decode raw a = c.decode raw b := by
  by_cases hraw : raw = .none
  · subst hraw
    rfl
  · rw [decode_of_ne_none hraw, decode_of_ne_none hraw]
    cases hencrypted : c.isEncrypted with
    | true => rw [h hencrypted hraw]
    | false => simp only [cipherFor, hencrypted, Bool.false_eq_true, if_false]

end Column
end SealedRows
