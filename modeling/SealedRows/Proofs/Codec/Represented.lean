import SealedRows.Proofs.Codec.Stored

/-! # Values that can be stored

A value of the own type of a kind is stored exactly if the binary layout of the kind has room for it,
in a plain column as in an encrypted one. What is stored comes back in its canonical form.
-/
namespace SealedRows

/-- The values of the own type of a kind. Of the doubles, only those that four bytes hold and those that
are no numbers have the type of the short kind. -/
inductive ValueKind.Owns : ValueKind → Value → Prop where
  | bool (b : Bool) : Owns .bool (.bool b)
  | integer (l : IntLayout) {v : Value} (h : v.integer?.isSome) : Owns (.integer l) v
  | float32 {x : Double} (h : x.IsSingle ∨ x.isNaN) : Owns .float32 (.float x)
  | float64 (x : Double) : Owns .float64 (.float x)
  | decimal (d : Decimal) : Owns .decimal (.decimal d)
  | string (t : Text) : Owns .string (.text t)
  | timestamp (m : Moment) : Owns .timestamp (.moment m)
  | bytes (bs : Bytes) : Owns .bytes (.bytes bs)
  | buffer (bs : Bytes) : Owns .bytes (.buffer bs)

/-- The decimals of at most 28 places whose digits, with the zeros of a positive exponent, fit into 96
bits. -/
def Decimal.Fits : Decimal → Prop
  | finite _ c e => -28 ≤ e ∧ c * 10 ^ e.toNat < 2 ^ 96
  | _ => False

/-- The moments that the calendar of universal time has, and those that know no offset from it. -/
def Moment.Fits (m : Moment) : Prop :=
  m.offset.isSome → 0 ≤ m.instant ∧ m.instant < microsOfCalendar

/-- Whether a kind can represent a value of its own type. -/
def ValueKind.Represents : ValueKind → Value → Prop
  | .integer l, v => ∃ n, v.integer? = some n ∧ l.Holds n
  | .decimal, .decimal d => d.Fits
  | .timestamp, .moment m => m.Fits
  | _, _ => True

theorem Text.length_digitsOnto_le {n k : Nat} (rest : List Nat) (h : n < 10 ^ (k + 1)) :
    (digitsOnto n rest).length ≤ rest.length + (k + 1) := by
  induction k generalizing n rest with
  | zero =>
    rw [digitsOnto, if_pos (by omega), List.length_cons]
  | succ k ih =>
    rw [digitsOnto]
    split
    · rw [List.length_cons]
      omega
    · have htens : n / 10 < 10 ^ (k + 1) := Nat.div_lt_of_lt_mul (by rwa [← Nat.pow_succ'])
      have hlength := ih (n % 10 :: rest) htens
      rw [List.length_cons] at hlength
      omega

namespace Decimal

/-- A decimal that fits is written as its coefficient, with the zeros of a positive exponent, and the
word of its scale and its sign. -/
theorem toBytes_eq_ok {negative : Bool} {c : ℕ} {e : ℤ} {bs : Bytes} :
    (finite negative c e).toBytes = .ok bs ↔ (finite negative c e).Fits ∧
      bs = Bytes.ofNat 12 (c * 10 ^ e.toNat) ++
        Bytes.ofNat 4 ((-e).toNat * 2 ^ 16 + if negative then 2 ^ 31 else 0) := by
  have hmax : ValueFault.maxScale = 28 := rfl
  have hpos : 0 < 10 ^ e.toNat := Nat.pow_pos (by decide)
  have hcoefficient : (if c = 0 then 0 else c * 10 ^ e.toNat) = c * 10 ^ e.toNat := by
    split
    · simp [*]
    · rfl
  simp only [toBytes, Fits, hcoefficient]
  constructor
  · intro h
    split at h
    · cases h
    · split at h
      · cases h
      · split at h
        · cases h
        · rename_i hscale hlarge
          cases h
          refine ⟨⟨by omega,?_⟩,rfl⟩
          by_cases hc : c = 0
          · rw [hc, Nat.zero_mul]
            decide
          · exact Nat.lt_of_not_le fun hle => hlarge ⟨hc,Or.inr hle⟩
  · rintro ⟨⟨hscale,hfits⟩,rfl⟩
    have hcoefficient : c < 10 ^ 29 :=
      (Nat.le_mul_of_pos_right c hpos).trans_lt (hfits.trans (by decide))
    have hdigits : ¬maxDigits < (Text.digits c).length := by
      have hlength := Text.length_digitsOnto_le [] hcoefficient
      have hdef : maxDigits = 4300 := rfl
      rw [Text.digits]
      simp only [List.length_nil] at hlength
      omega
    have hplaces : ¬(c ≠ 0 ∧ (96 ≤ e ∨ 2 ^ 96 ≤ c * 10 ^ e.toNat)) := by
      rintro ⟨hc,hlarge | hlarge⟩
      · have hpower : 10 ^ 96 ≤ 10 ^ e.toNat := Nat.pow_le_pow_right (by decide) (by omega)
        have hle : 10 ^ 96 ≤ c * 10 ^ e.toNat :=
          hpower.trans (Nat.le_mul_of_pos_left _ (Nat.pos_of_ne_zero hc))
        exact absurd (hle.trans_lt hfits) (by decide)
      · exact hfits.not_ge hlarge
    rw [if_neg hdigits, if_neg (by omega), if_neg hplaces]

theorem exists_toBytes_iff (d : Decimal) : (∃ bs, d.toBytes = .ok bs) ↔ d.Fits := by
  rcases d with ⟨negative,c,e⟩ | negative | ⟨negative,signaling,payload⟩
  · simp only [toBytes_eq_ok, exists_and_left, exists_eq, and_true]
  · refine iff_of_false ?_ id
    rintro ⟨_,⟨⟩⟩
  · refine iff_of_false ?_ id
    rintro ⟨_,⟨⟩⟩

end Decimal

theorem Moment.exists_toBytes?_iff (m : Moment) : (∃ bs, m.toBytes? = some bs) ↔ m.Fits := by
  constructor
  · rintro ⟨bs,h⟩ _
    obtain ⟨u,hu,_⟩ := Option.map_eq_some_iff.mp h
    by_contra hrange
    rw [toUniversal?, ofMicros?, dif_neg hrange] at hu
    cases hu
  · intro h
    cases ho : m.offset with
    | none => exact ⟨_,by rw [toBytes?, toUniversal?_of_no_offset ho]; rfl⟩
    | some o =>
      have hrange := h (by simp [ho])
      exact ⟨_,by rw [toBytes?, toUniversal?, ofMicros?, dif_pos hrange]; rfl⟩

namespace Double
open BinaryFormat

theorem isNaN_ofSingle_toSingle? {x : Double} (hx : x.isNaN) :
    ∃ pattern, x.toSingle? = some pattern ∧ (ofSingle pattern).isNaN := by
  generalize hpayload : (x.magnitude - double.infinity) / 2 ^ 29 % 2 ^ 22 = payload
  have hsmall : payload < 2 ^ 22 := by
    rw [← hpayload]
    exact Nat.mod_lt _ (by decide)
  have hbound : single.infinity + (payload + 2 ^ 22) < single.signBit := by
    rw [infinity_single, signBit_single]
    omega
  refine ⟨(if x.isNegative then single.signBit else 0) + (single.infinity + (payload + 2 ^ 22)),?_,?_⟩
  · simp only [toSingle?, if_pos hx, hpayload, Nat.add_assoc]
  · have hquiet : (single.infinity + (payload + 2 ^ 22) - single.infinity) % 2 ^ 22 = payload := by
      rw [Nat.add_sub_cancel_left, Nat.add_mod_right, Nat.mod_eq_of_lt hsmall]
    have hroom : double.infinity + 2 ^ 51 + payload * 2 ^ 29 < double.signBit := by
      rw [infinity_double, signBit_double]
      omega
    rw [ofSingle_signed _ hbound, if_neg (by omega), if_pos (by omega), hquiet, isNaN_iff,
      magnitude_ofMagnitude _ hroom]
    omega

theorem exists_toSingle? {x : Double} (h : x.IsSingle ∨ x.isNaN) :
    ∃ pattern, x.toSingle? = some pattern := by
  rcases h with hsingle | hnan
  · exact hsingle.ofSingle_toSingle?.imp fun _ hp => hp.1
  · exact (isNaN_ofSingle_toSingle? hnan).imp fun _ hp => hp.1

end Double

namespace ValueKind
variable {kind : ValueKind} {v : Value}

theorem Owns.admits (h : kind.Owns v) : kind.Admits v := by
  cases h with
  | bool b => exact .bool _
  | integer l h => exact .integer l h
  | float32 h => exact .float32 _
  | float64 x => exact .float64 x
  | decimal d => exact .decimal d
  | string t => exact .string t
  | timestamp m => exact .timestamp m
  | bytes bs => exact .bytes bs
  | buffer bs => exact .buffer bs

theorem Owns.ne_none (h : kind.Owns v) : v ≠ .none := by
  rintro rfl
  cases h with
  | integer l h => cases h

/-- The layout of a kind has room for what the kind represents. -/
theorem Owns.exists_toBytes_iff (h : kind.Owns v) :
    (∃ bs, kind.toBytes v = .ok bs) ↔ kind.Represents v := by
  cases h with
  | integer l h =>
    obtain ⟨n,hn⟩ := Option.isSome_iff_exists.mp h
    simp only [toBytes, Represents, hn, Option.some.injEq, exists_eq_left']
    by_cases hholds : l.Holds n <;> simp [hholds]
  | float32 h =>
    obtain ⟨pattern,hpattern⟩ := Double.exists_toSingle? h
    refine ⟨fun _ => trivial,fun _ => ⟨Bytes.ofNat 4 pattern,?_⟩⟩
    simp only [toBytes, Value.numberToDouble, hpattern]
  | decimal d => exact d.exists_toBytes_iff
  | timestamp m =>
    refine Iff.trans ?_ m.exists_toBytes?_iff
    simp only [toBytes]
    cases m.toBytes? <;> simp
  | bool b => exact ⟨fun _ => trivial,fun _ => ⟨_,rfl⟩⟩
  | float64 x => exact ⟨fun _ => trivial,fun _ => ⟨_,rfl⟩⟩
  | string t => exact ⟨fun _ => trivial,fun _ => ⟨_,rfl⟩⟩
  | bytes bs => exact ⟨fun _ => trivial,fun _ => ⟨_,rfl⟩⟩
  | buffer bs => exact ⟨fun _ => trivial,fun _ => ⟨_,rfl⟩⟩

/-- A plain column refuses what the layout has no room for, even where it does not use the layout. -/
theorem Owns.exists_encodePlain_iff (h : kind.Owns v) :
    (∃ stored, kind.encodePlain v = .ok stored) ↔ ∃ bs, kind.toBytes v = .ok bs := by
  unfold encodePlain
  by_cases hblob : kind.isBlobStored
  · simp only [if_pos hblob, map_eq_ok]
    constructor
    · rintro ⟨_,bs,hbs,_⟩
      exact ⟨bs,hbs⟩
    · rintro ⟨bs,hbs⟩
      exact ⟨_,bs,hbs,rfl⟩
  · rw [if_neg hblob]
    cases h with
    | integer l h =>
      constructor
      · rintro ⟨stored,hstored⟩
        obtain ⟨bs,hbs,_⟩ := bind_eq_ok.mp hstored
        exact ⟨bs,hbs⟩
      · rintro ⟨bs,hbs⟩
        obtain ⟨n,_,hint⟩ := integer?_eq_of_toBytes hbs
        exact ⟨.int n,bind_eq_ok.mpr ⟨bs,hbs,by rw [hint]; rfl⟩⟩
    | float32 h => exact ⟨fun _ => (Owns.float32 h).exists_toBytes_iff.mpr trivial,fun _ => ⟨_,rfl⟩⟩
    | bool b => exact ⟨fun _ => ⟨_,rfl⟩,fun _ => ⟨_,rfl⟩⟩
    | float64 x => exact ⟨fun _ => ⟨_,rfl⟩,fun _ => ⟨_,rfl⟩⟩
    | string t => exact ⟨fun _ => ⟨_,rfl⟩,fun _ => ⟨_,rfl⟩⟩
    | _ => exact absurd rfl hblob

/-- With a cipher a value is stored exactly if it has a layout. -/
theorem exists_encode_sealed_iff (hv : v ≠ .none) {ordinal : Nat} (hordinal : ordinal < 2 ^ 32)
    (c : CipherContext) : (∃ stored, kind.encode v ordinal (some c) = .ok stored) ↔
      ∃ bs, kind.toBytes v = .ok bs := by
  rw [encode_sealed kind hv]
  constructor
  · rintro ⟨stored,hstored⟩
    obtain ⟨bs,hbs,_⟩ := bind_eq_ok.mp hstored
    exact ⟨bs,hbs⟩
  · rintro ⟨bs,hbs⟩
    have hrange : 0 ≤ (ordinal : Int) ∧ (ordinal : Int) < 2 ^ 32 := by omega
    obtain ⟨out,hout⟩ := (c.exists_applied_iff bs).mpr hrange
    exact ⟨.bytes out,bind_eq_ok.mpr
      ⟨bs,hbs,map_eq_ok.mpr ⟨out,ValueFault.liftCipher_eq_ok.mpr hout,rfl⟩⟩⟩

theorem Owns.exists_encode_iff (h : kind.Owns v) {ordinal : Nat} (hordinal : ordinal < 2 ^ 32)
    (cipher : Option CipherContext) :
    (∃ stored, kind.encode v ordinal cipher = .ok stored) ↔ kind.Represents v := by
  rw [← h.exists_toBytes_iff]
  cases cipher with
  | none =>
    rw [encode_plain kind h.ne_none]
    exact h.exists_encodePlain_iff
  | some c => exact exists_encode_sealed_iff h.ne_none hordinal c

/-- What is stored is read with the same cipher in its canonical form. -/
theorem Admits.decode_encode (h : kind.Admits v) (hv : v ≠ .none) {ordinal : Int}
    {cipher : Option CipherContext} {stored : Value}
    (hstored : kind.encode v ordinal cipher = .ok stored) :
    ∃ w, kind.decode stored ordinal cipher = .ok w ∧ Canonical cipher.isSome kind v w := by
  cases cipher with
  | none =>
    rw [encode_plain kind hv] at hstored
    obtain ⟨hnone,w,hw,hcanonical⟩ := decodePlain_encodePlain hv hstored
    exact ⟨w,(decode_plain kind hnone ordinal).trans hw,hcanonical h⟩
  | some c =>
    obtain ⟨_,bs,w,hbytes,hread,hw⟩ := decode_encode_sealed hv hstored
    exact ⟨w,hw,canonical_ofBytes h hv hbytes hread⟩

/-- A double of the own type of a kind comes back as it was, and one that is no number as one that is
none. -/
theorem Owns.double_of_canonical {x : Double} (h : kind.Owns (.float x)) {isEncrypted : Bool}
    {w : Value} (hw : Canonical isEncrypted kind (.float x) w) :
    ∃ y, w = .float y ∧ (y = x ∨ x.isNaN ∧ y.isNaN) := by
  cases h with
  | integer l h => cases h
  | float64 => cases hw; exact ⟨x,rfl,Or.inl rfl⟩
  | float32 h =>
    cases hw with
    | float32 => exact ⟨x,rfl,Or.inl rfl⟩
    | float32Nearest hx _ hpattern =>
      have hnan := h.resolve_left hx
      obtain ⟨pattern,hp,hread⟩ := Double.isNaN_ofSingle_toSingle? hnan
      cases hpattern.symm.trans hp
      exact ⟨_,rfl,Or.inr ⟨hnan,hread⟩⟩

/-- A value of the own type of a kind can be stored exactly if the kind represents it, and then its
canonical form is read back with the same cipher. -/
theorem encode_iff_represents (h : kind.Owns v) {ordinal : Nat} (hordinal : ordinal < 2 ^ 32)
    (cipher : Option CipherContext) :
    ((∃ stored, kind.encode v ordinal cipher = .ok stored) ↔ kind.Represents v) ∧
      ∀ stored, kind.encode v ordinal cipher = .ok stored →
        ∃ w, kind.decode stored ordinal cipher = .ok w ∧ Canonical cipher.isSome kind v w ∧
          ∀ x, v = .float x → ∃ y, w = .float y ∧ (y = x ∨ x.isNaN ∧ y.isNaN) := by
  refine ⟨h.exists_encode_iff hordinal cipher,fun stored hstored => ?_⟩
  obtain ⟨w,hw,hcanonical⟩ := h.admits.decode_encode h.ne_none hstored
  refine ⟨w,hw,hcanonical,?_⟩
  rintro x rfl
  exact h.double_of_canonical hcanonical

end ValueKind

namespace Decimal

def debt : Decimal := finite true 15 2

def dust : Decimal := finite false 1 (-29)

theorem encode_debt_dust :
    let cipher : CipherContext := ⟨.des,[1, 2, 3, 4, 5, 6, 7, 8],Vector.replicate 8 5⟩
    (∃ stored, ValueKind.decimal.encode (.decimal debt) 1 (some cipher) = .ok stored ∧
        ValueKind.decimal.decode stored 1 (some cipher) = .ok (.decimal (finite true 1500 0))) ∧
      ¬∃ stored, ValueKind.decimal.encode (.decimal dust) 1 none = .ok stored := by
  intro cipher
  obtain ⟨hstored,hread⟩ :=
    ValueKind.encode_iff_represents (.decimal debt) (show 1 < 2 ^ 32 by decide) (some cipher)
  obtain ⟨stored,h⟩ := hstored.mpr ⟨by decide,by decide⟩
  obtain ⟨w,hw,hcanonical,_⟩ := hread stored h
  cases hcanonical
  refine ⟨⟨stored,h,hw⟩,fun hdust => ?_⟩
  have hplain := ValueKind.encode_iff_represents (.decimal dust) (show 1 < 2 ^ 32 by decide) none
  exact absurd (hplain.1.mp hdust).1 (by decide)

end Decimal
end SealedRows
