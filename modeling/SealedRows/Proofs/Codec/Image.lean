import SealedRows.Proofs.Codec.Represented

/-! # The layouts of values

Far more byte strings can be read than are ever written: the counts of moments begin again after the
calendar, spare bits of decimals are passed over, and every byte but zero is true. What is written are the
canonical ones among them, and each of these is written again from the value that is read from it.
-/
namespace SealedRows

/-- The layouts of moments: two bits of which only the lower one is ever set, and whole microseconds of
the calendar. -/
structure Moment.IsLayout (bs : Bytes) : Prop where
  length : bs.length = 8
  kind : Bytes.toNat bs / kindPlace ≤ 1
  wholeMicros : 10 ∣ Bytes.toNat bs % kindPlace
  inCalendar : Bytes.toNat bs % kindPlace / 10 < microsOfCalendar

/-- The layouts of decimals: of the last word only the byte of the scale and the sign may be set. -/
structure Decimal.IsLayout (bs : Bytes) : Prop where
  length : bs.length = 16
  scale : Bytes.toNat (bs.drop 12) / 2 ^ 16 % 256 ≤ ValueFault.maxScale
  spare : ∀ i, (Bytes.toNat (bs.drop 12)).testBit i → 16 ≤ i ∧ i < 24 ∨ i = 31

namespace ValueKind

/-- The byte strings that values of a kind are written as. -/
def IsLayout : ValueKind → Bytes → Prop
  | integer l, bs => bs.length = l.width.bytes
  | float32, bs => bs.length = 4
  | float64, bs => bs.length = 8
  | decimal, bs => Decimal.IsLayout bs
  | bool, bs => bs = [0] ∨ bs = [1]
  | string, bs => 2 ∣ bs.length
  | timestamp, bs => Moment.IsLayout bs
  | bytes, _ => True

/-- The layouts of doubles that are no numbers. -/
def IsMissing : ValueKind → Bytes → Prop
  | float32, bs => bs.length = 4 ∧
      BinaryFormat.single.infinity < Bytes.toNat bs % BinaryFormat.single.signBit
  | float64, bs => bs.length = 8 ∧
      BinaryFormat.double.infinity < Bytes.toNat bs % BinaryFormat.double.signBit
  | _, _ => False

end ValueKind

theorem IntLayout.toBytes_ofBytes {l : IntLayout} {bs : Bytes} (h : bs.length = l.width.bytes) :
    l.toBytes (l.ofBytes bs) = bs := by
  have hlt : Bytes.toNat bs < l.count := by
    rw [count, ← h]
    exact Bytes.toNat_lt bs
  have hmod : l.ofBytes bs % l.count = Bytes.toNat bs := by
    have hnat : (Bytes.toNat bs : Int) % l.count = Bytes.toNat bs :=
      Int.emod_eq_of_lt (Int.natCast_nonneg _) (Int.ofNat_lt.mpr hlt)
    simp only [ofBytes]
    split
    · rw [Int.sub_emod_right, hnat]
    · exact hnat
  rw [toBytes, hmod, Int.toNat_natCast, ← h, Bytes.ofNat_toNat]

theorem Double.toBytes_ofBytes {bs : Bytes} (h : bs.length = 8) : (Double.ofBytes bs).toBytes = bs := by
  have hlt : Bytes.toNat bs < 2 ^ 64 := by
    have hbound := Bytes.toNat_lt bs
    rw [h] at hbound
    omega
  rw [toBytes, ofBytes, UInt64.toNat_ofNat', Nat.mod_eq_of_lt hlt, ← h, Bytes.ofNat_toNat]

namespace Moment

theorem IsLayout.toBytes?_ofBytes {bs : Bytes} (h : IsLayout bs) : (ofBytes bs).toBytes? = some bs := by
  obtain ⟨hlength,hkind,hwhole,hcalendar⟩ := h
  have hsome : (ofBytes bs).offset.isSome ↔ Bytes.toNat bs / kindPlace = 1 := by
    simp only [ofBytes]
    split <;> simp [*]
  have hflag : (if (ofBytes bs).offset.isSome then kindPlace else 0) =
      kindPlace * (Bytes.toNat bs / kindPlace) := by
    by_cases hone : Bytes.toNat bs / kindPlace = 1
    · rw [if_pos (hsome.mpr hone), hone, Nat.mul_one]
    · have hzero : Bytes.toNat bs / kindPlace = 0 := Nat.lt_one_iff.mp (lt_of_le_of_ne hkind hone)
      rw [if_neg (mt hsome.mp hone), hzero, Nat.mul_zero]
  have hmicros : 10 * (ofBytes bs).micros.val = Bytes.toNat bs % kindPlace := by
    simp only [ofBytes]
    rw [Nat.mod_eq_of_lt hcalendar, Nat.mul_div_cancel' hwhole]
  rw [toBytes?, toUniversal?_of_universal (offset_ofBytes bs), Option.map_some, hflag, hmicros,
    Nat.div_add_mod, ← hlength, Bytes.ofNat_toNat]

theorem isLayout_of_toBytes? {m : Moment} {bs : Bytes} (h : m.toBytes? = some bs) : IsLayout bs := by
  obtain ⟨u,_,rfl⟩ := Option.map_eq_some_iff.mp h
  have hplace : kindPlace = 4611686018427387904 := rfl
  have hcalendar : microsOfCalendar = 3652059 * (86400 * 1000000) := rfl
  obtain ⟨hnat,_,_⟩ := toNat_layout u.offset.isSome u.micros.isLt
  have hroom : 10 * u.micros.val < kindPlace := by
    have hmicros := u.micros.isLt
    omega
  obtain ⟨flag,hflag,hsum⟩ :
      ∃ flag ≤ 1, (if u.offset.isSome then kindPlace else 0) = kindPlace * flag := by
    split
    · exact ⟨1,le_rfl,(Nat.mul_one _).symm⟩
    · exact ⟨0,Nat.zero_le _,rfl⟩
  have hdiv : (kindPlace * flag + 10 * u.micros.val) / kindPlace = flag := by
    rw [Nat.mul_add_div (by omega), Nat.div_eq_of_lt hroom, Nat.add_zero]
  have hmod : (kindPlace * flag + 10 * u.micros.val) % kindPlace = 10 * u.micros.val := by
    rw [Nat.mul_add_mod, Nat.mod_eq_of_lt hroom]
  rw [hsum] at hnat ⊢
  refine ⟨Bytes.length_ofNat ..,?_,?_,?_⟩
  · rwa [hnat, hdiv]
  · rw [hnat, hmod]
    exact Nat.dvd_mul_right ..
  · rw [hnat, hmod, Nat.mul_div_cancel_left _ (by decide)]
    exact u.micros.isLt

end Moment

namespace Decimal

/-- A word in which only the byte of the scale and the sign are set is given by these two. -/
theorem flags_eq {flags : ℕ} (hlt : flags < 2 ^ 32)
    (hspare : ∀ i, flags.testBit i → 16 ≤ i ∧ i < 24 ∨ i = 31) :
    flags = flags / 2 ^ 16 % 256 * 2 ^ 16 + if flags.testBit 31 then 2 ^ 31 else 0 := by
  have hlow : flags % 2 ^ 16 = 0 := Nat.eq_of_testBit_eq fun i => by
    rw [Nat.testBit_mod_two_pow, Nat.zero_testBit, Bool.and_eq_false_iff, decide_eq_false_iff_not]
    by_contra hset
    simp only [not_or, not_not, Bool.not_eq_false] at hset
    have := hspare i hset.2
    omega
  have hhigh : flags / 2 ^ 24 % 2 ^ 7 = 0 := Nat.eq_of_testBit_eq fun i => by
    rw [Nat.testBit_mod_two_pow, Nat.testBit_div_two_pow, Nat.zero_testBit, Bool.and_eq_false_iff,
      decide_eq_false_iff_not]
    by_contra hset
    simp only [not_or, not_not, Bool.not_eq_false] at hset
    have := hspare _ hset.2
    omega
  rw [Nat.testBit_eq_decide_div_mod_eq]
  by_cases htop : flags / 2 ^ 31 % 2 = 1
  · rw [decide_eq_true htop, if_pos rfl]
    omega
  · rw [decide_eq_false htop, if_neg Bool.false_ne_true]
    omega

/-- In the word of a scale and a sign nothing else is set. -/
theorem spare_of_flags {scale : ℕ} (hscale : scale < 256) (negative : Bool) {i : ℕ}
    (h : (scale * 2 ^ 16 + if negative then 2 ^ 31 else 0 : ℕ).testBit i) :
    16 ≤ i ∧ i < 24 ∨ i = 31 := by
  have hflags : (scale * 2 ^ 16 + if negative then 2 ^ 31 else 0 : ℕ) =
      2 ^ 31 * negative.toNat + 2 ^ 16 * scale := by
    cases negative <;> simp <;> omega
  rw [hflags, Nat.testBit_two_pow_mul_add _ (by omega)] at h
  split at h
  · rw [Nat.testBit_two_pow_mul, Bool.and_eq_true, decide_eq_true_eq] at h
    have hbit := Nat.ge_two_pow_of_testBit h.2
    have hplace : i - 16 < 8 := (Nat.pow_lt_pow_iff_right (by decide)).mp (hbit.trans_lt hscale)
    omega
  · have hbit := (Nat.ge_two_pow_of_testBit h).trans negative.toNat_le
    have hplace : i - 31 < 1 := (Nat.pow_lt_pow_iff_right (by decide)).mp
      (hbit.trans_lt (by decide : 1 < 2 ^ 1))
    omega

theorem IsLayout.toBytes_ofBytes {bs : Bytes} (h : IsLayout bs) : (ofBytes bs).toBytes = .ok bs := by
  obtain ⟨hlength,hscale,hspare⟩ := h
  have hmax : ValueFault.maxScale = 28 := rfl
  have hcoefficient := Bytes.toNat_lt (bs.take 12)
  have hflags := Bytes.toNat_lt (bs.drop 12)
  have hfirst := Bytes.ofNat_toNat (bs.take 12)
  have hlast := Bytes.ofNat_toNat (bs.drop 12)
  rw [List.length_take, hlength] at hcoefficient hfirst
  rw [List.length_drop, hlength] at hflags hlast
  have hword := flags_eq hflags hspare
  rw [ofBytes]
  generalize Bytes.toNat (bs.drop 12) / 2 ^ 16 % 256 = scale at hscale hword ⊢
  have hplaces : (-(scale : ℤ)).toNat = 0 := by omega
  have hscale' : (-(-(scale : ℤ))).toNat = scale := by omega
  rw [toBytes_eq_ok, hplaces, hscale', ← hword, Nat.pow_zero, Nat.mul_one]
  refine ⟨⟨by omega,?_⟩,?_⟩
  · rw [hplaces, Nat.pow_zero, Nat.mul_one]
    exact hcoefficient.trans_le (by decide)
  · exact (List.take_append_drop 12 bs).symm.trans (congrArg₂ (· ++ ·) hfirst.symm hlast.symm)

theorem isLayout_of_toBytes {d : Decimal} {bs : Bytes} (h : d.toBytes = .ok bs) : IsLayout bs := by
  rcases d with ⟨negative,c,e⟩ | negative | ⟨negative,signaling,payload⟩
  · obtain ⟨⟨hscale,_⟩,rfl⟩ := toBytes_eq_ok.mp h
    have hmax : ValueFault.maxScale = 28 := rfl
    have hscale' : (-e).toNat < 256 := by omega
    have hdrop : Bytes.toNat ((Bytes.ofNat 12 (c * 10 ^ e.toNat) ++
        Bytes.ofNat 4 ((-e).toNat * 2 ^ 16 + if negative then 2 ^ 31 else 0)).drop 12) =
          (-e).toNat * 2 ^ 16 + if negative then 2 ^ 31 else 0 := by
      rw [List.drop_left' (Bytes.length_ofNat ..), Bytes.toNat_ofNat_of_lt]
      split <;> omega
    refine ⟨by simp,?_,fun i hi => ?_⟩
    · rw [hdrop]
      split <;> omega
    · rw [hdrop] at hi
      exact spare_of_flags hscale' negative hi
  · cases h
  · cases h

end Decimal

namespace ValueKind
variable {kind : ValueKind} {v : Value} {bs : Bytes}

theorem isLayout_toBytes (h : kind.toBytes v = .ok bs) : kind.IsLayout bs := by
  have hlength := hasLength_toBytes h
  cases kind with
  | integer l => exact (hasLength_iff_of_size rfl _).mp hlength
  | float32 => exact (hasLength_iff_of_size rfl _).mp hlength
  | float64 => exact (hasLength_iff_of_size rfl _).mp hlength
  | string => exact hlength
  | bytes => trivial
  | bool =>
    obtain ⟨b,_,rfl⟩ := map_eq_ok.mp h
    cases b with
    | false => exact Or.inl rfl
    | true => exact Or.inr rfl
  | decimal =>
    simp only [toBytes] at h
    split at h
    · exact Decimal.isLayout_of_toBytes h
    · cases h
  | timestamp =>
    simp only [toBytes] at h
    split at h
    · split at h
      · rename_i hm
        cases h
        exact Moment.isLayout_of_toBytes? hm
      · cases h
    · cases h

/-- The value that is read from a layout is written as that layout again. -/
theorem IsLayout.exists_toBytes (h : kind.IsLayout bs) (hnumber : ¬kind.IsMissing bs) :
    ∃ v, kind.ofBytes bs = .ok v ∧ kind.toBytes v = .ok bs := by
  cases kind with
  | integer l =>
    refine ⟨_,ofBytes_of_size rfl h,?_⟩
    simp only [toBytes, Value.integer?, if_pos (IntLayout.holds_ofBytes h), IntLayout.toBytes_ofBytes h]
  | float32 =>
    have hlt := Bytes.toNat_lt bs
    rw [show bs.length = 4 from h] at hlt
    have hsame := Double.toSingle?_ofSingle hlt (not_lt.mp fun hlt => hnumber ⟨h,hlt⟩)
    refine ⟨_,ofBytes_of_size rfl h,?_⟩
    simp only [toBytes, Value.numberToDouble, hsame]
    rw [← show bs.length = 4 from h, Bytes.ofNat_toNat]
  | float64 =>
    refine ⟨_,ofBytes_of_size rfl h,?_⟩
    simp only [toBytes, Value.numberToDouble, Double.toBytes_ofBytes h]
  | decimal => exact ⟨_,ofBytes_of_size rfl h.length,h.toBytes_ofBytes⟩
  | bool => rcases h with rfl | rfl <;> exact ⟨_,rfl,rfl⟩
  | string =>
    obtain ⟨t,ht⟩ := Option.isSome_iff_exists.mp ((Text.ofUtf16?_isSome_iff bs).mpr h)
    refine ⟨.text t,?_,?_⟩
    · have hread : string.ofBytes bs = string.ofSizedBytes bs := rfl
      rw [hread, ofSizedBytes, ht]
    · simp only [toBytes, Text.toUtf16_of_ofUtf16? ht]
  | timestamp =>
    refine ⟨_,ofBytes_of_size rfl h.length,?_⟩
    simp only [toBytes, h.toBytes?_ofBytes]
  | bytes => exact ⟨_,rfl,rfl⟩

/-- Apart from the doubles that are no numbers, the layouts of a kind are exactly what its values are
written as, and each is written again from the value that is read from it. -/
theorem exists_toBytes_iff_isLayout (h : ¬kind.IsMissing bs) :
    ((∃ v, kind.toBytes v = .ok bs) ↔ kind.IsLayout bs) ∧
      (kind.IsLayout bs → ∃ v, kind.ofBytes bs = .ok v ∧ kind.toBytes v = .ok bs) := by
  refine ⟨⟨?_,fun hlayout => ?_⟩,fun hlayout => hlayout.exists_toBytes h⟩
  · rintro ⟨v,hv⟩
    exact isLayout_toBytes hv
  · obtain ⟨v,_,hv⟩ := hlayout.exists_toBytes h
    exact ⟨v,hv⟩

end ValueKind

/-- The smallest unit of a float of four bytes, and a decimal with a spare bit set. -/
theorem exists_toBytes_least : (∃ v, ValueKind.float32.ofBytes [1, 0, 0, 0] = .ok v ∧
    ValueKind.float32.toBytes v = .ok [1, 0, 0, 0]) ∧
      ¬∃ v, ValueKind.decimal.toBytes v = .ok (Bytes.ofNat 12 7 ++ Bytes.ofNat 4 1) := by
  refine ⟨(ValueKind.exists_toBytes_iff_isLayout ?_).2 rfl,fun h => ?_⟩
  · rintro ⟨_,hnan⟩
    exact absurd hnan (by decide)
  · obtain ⟨_,_,hspare⟩ := (ValueKind.exists_toBytes_iff_isLayout (by exact id)).1.mp h
    exact absurd (hspare 0 (by decide)) (by decide)

end SealedRows
