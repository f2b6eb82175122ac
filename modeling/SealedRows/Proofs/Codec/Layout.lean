import SealedRows.Codec.Layout
import SealedRows.Proofs.Double.Single
import SealedRows.Proofs.Text.Surrogates

/-! # Values read back from binary layouts

What was put into a layout can be read from it, and each layout gives back the number or the moment
that was put into it. A decimal comes back without a positive exponent, and a moment that knows its
offset comes back on the clock of universal time.
-/
namespace SealedRows

theorem Bytes.toNat_ofNat_of_lt {width n : Nat} (h : n < 256 ^ width) :
    Bytes.toNat (Bytes.ofNat width n) = n := by
  rw [Bytes.toNat_ofNat, Nat.mod_eq_of_lt h]

namespace IntLayout

theorem two_mul_half_count (l : IntLayout) : 2 * (l.count / 2) = l.count := by
  have hwidth : ∀ w : IntWidth, 2 * (256 ^ w.bytes / 2) = 256 ^ w.bytes := by
    intro w
    cases w <;> decide
  exact hwidth l.width

theorem count_pos (l : IntLayout) : 0 < l.count := Nat.pow_pos (by decide)

theorem toNat_toBytes (l : IntLayout) (n : Int) : (Bytes.toNat (l.toBytes n) : Int) = n % l.count := by
  have hcount := l.count_pos
  have hnonneg := Int.emod_nonneg n (b := l.count) (by omega)
  have hlt := Int.emod_lt_of_pos n (b := l.count) (by omega)
  rw [toBytes, Bytes.toNat_ofNat_of_lt, Int.toNat_of_nonneg hnonneg]
  rw [← count]
  omega

theorem ofBytes_toBytes {l : IntLayout} {n : Int} (h : l.Holds n) : l.ofBytes (l.toBytes n) = n := by
  obtain ⟨hl,hu⟩ := h
  have hhalf := l.two_mul_half_count
  simp only [ofBytes, toNat_toBytes]
  rcases Int.lt_or_le n 0 with hneg | hpos
  · cases hsigned : l.signed with
    | false =>
      simp only [least, hsigned, Bool.false_eq_true, if_false] at hl
      omega
    | true =>
      simp only [least, bound, hsigned, if_true] at hl ⊢
      have hmod : n % l.count = n + l.count := by
        rw [← Int.add_emod_right]
        exact Int.emod_eq_of_lt (by omega) (by omega)
      rw [hmod, if_pos (by omega)]
      omega
  · have hbound : l.bound ≤ l.count := by
      unfold bound
      split <;> omega
    rw [Int.emod_eq_of_lt hpos (by omega), if_neg (by omega)]

end IntLayout

theorem Double.ofBytes_toBytes (x : Double) : Double.ofBytes x.toBytes = x := by
  rcases x with ⟨bits⟩
  have hbits : bits.toNat < 256 ^ 8 := bits.toNat_lt
  rw [Double.ofBytes, Double.toBytes, Bytes.toNat_ofNat_of_lt hbits, UInt64.ofNat_toNat]

namespace Moment

/-- The microseconds leave room for the bits that tell whether a moment is an instant. -/
theorem toNat_layout (isInstant : Bool) {n : Nat} (h : n < microsOfCalendar) :
    let layout := (if isInstant then kindPlace else 0) + 10 * n
    Bytes.toNat (Bytes.ofNat 8 layout) = layout ∧ layout % kindPlace / 10 % microsOfCalendar = n ∧
      (layout / kindPlace = 1 ↔ isInstant) := by
  have hplace : kindPlace = 4611686018427387904 := rfl
  have hcalendar : microsOfCalendar = 3652059 * (86400 * 1000000) := rfl
  have hroom : 10 * n < kindPlace := by omega
  intro layout
  have hlayout : layout = (if isInstant then kindPlace else 0) + 10 * n := rfl
  have hmod : layout % kindPlace = 10 * n := by
    rw [hlayout]
    split
    · rw [Nat.add_mod_left, Nat.mod_eq_of_lt hroom]
    · rw [Nat.zero_add, Nat.mod_eq_of_lt hroom]
  refine ⟨Bytes.toNat_ofNat_of_lt ?_,?_,?_⟩
  · rw [hlayout]
    split <;> omega
  · rw [hmod, Nat.mul_div_cancel_left n (by decide), Nat.mod_eq_of_lt h]
  · rw [hlayout, hplace]
    cases isInstant <;> simp <;> omega

/-- A moment on the clock of universal time is read back from its bytes. -/
theorem ofBytes_of_universal {u : Moment} (h : u.offset = none ∨ u.offset = some 0) :
    ofBytes (Bytes.ofNat 8 ((if u.offset.isSome then kindPlace else 0) + 10 * u.micros.val)) = u := by
  rcases u with ⟨micros,offset⟩
  obtain ⟨hbytes,hmicros,hkind⟩ := toNat_layout offset.isSome micros.isLt
  simp only [ofBytes, hbytes, hmicros, hkind]
  rcases h with rfl | rfl <;> rfl

/-- On the clock of universal time a moment shows the same instant. -/
theorem toUniversal?_spec {m u : Moment} (h : m.toUniversal? = some u) :
    u.offset = m.offset.map (fun _ => 0) ∧ u.instant = m.instant := by
  by_cases hrange : 0 ≤ m.instant ∧ m.instant < microsOfCalendar
  · simp only [toUniversal?, ofMicros?, dif_pos hrange, Option.some.injEq] at h
    subst h
    have hclock : (m.offset.map fun _ => (0 : Int)).getD 0 = 0 := by cases m.offset <;> rfl
    refine ⟨rfl,?_⟩
    rw [instant, hclock, Int.toNat_of_nonneg hrange.1, Int.zero_mul, Int.sub_zero]
  · simp only [toUniversal?, ofMicros?, dif_neg hrange] at h
    cases h

/-- A moment that is on the clock of universal time, or on none, stays as it is. -/
theorem toUniversal?_of_universal {m : Moment} (h : m.offset = none ∨ m.offset = some 0) :
    m.toUniversal? = some m := by
  rcases m with ⟨micros,offset⟩
  have hinstant : instant ⟨micros,offset⟩ = micros.val := by
    rcases h with h | h <;> cases h <;> simp [instant]
  have hoffset : (offset.map fun _ => (0 : Int)) = offset := by
    rcases h with h | h <;> cases h <;> rfl
  have hrange : 0 ≤ (micros.val : Int) ∧ (micros.val : Int) < microsOfCalendar :=
    ⟨Int.natCast_nonneg _,Int.ofNat_lt.mpr micros.isLt⟩
  simp only [toUniversal?, hinstant, ofMicros?, dif_pos hrange, Int.toNat_natCast, hoffset]

theorem toUniversal?_of_no_offset {m : Moment} (h : m.offset = none) : m.toUniversal? = some m :=
  toUniversal?_of_universal (Or.inl h)

/-- A moment comes back on the clock of universal time. -/
theorem ofBytes_toBytes? {m : Moment} {bs : Bytes} (h : m.toBytes? = some bs) :
    m.toUniversal? = some (ofBytes bs) := by
  obtain ⟨u,hu,rfl⟩ := Option.map_eq_some_iff.mp h
  have hoffset : u.offset = none ∨ u.offset = some 0 := by
    rw [(toUniversal?_spec hu).1]
    cases m.offset with
    | none => exact Or.inl rfl
    | some _ => exact Or.inr rfl
  rw [hu, ofBytes_of_universal hoffset]

end Moment

namespace Decimal

/-- The scale of a decimal and its sign are read back from their word. -/
theorem ofBytes_layout (negative : Bool) {coefficient scale : Nat} (hc : coefficient < 2 ^ 96)
    (hs : scale ≤ ValueFault.maxScale) :
    ofBytes (Bytes.ofNat 12 coefficient ++ Bytes.ofNat 4 (scale * 2 ^ 16 + if negative then 2 ^ 31 else 0))
      = finite negative coefficient (-scale) := by
  have hmax : ValueFault.maxScale = 28 := rfl
  have htop : (if negative then 2 ^ 31 else 0 : Nat) = 2 ^ 31 * negative.toNat := by cases negative <;> rfl
  have hbit := negative.toNat_le
  have hflags : Bytes.toNat (Bytes.ofNat 4 (scale * 2 ^ 16 + 2 ^ 31 * negative.toNat))
      = scale * 2 ^ 16 + 2 ^ 31 * negative.toNat := Bytes.toNat_ofNat_of_lt (by omega)
  have hcoefficient : Bytes.toNat (Bytes.ofNat 12 coefficient) = coefficient :=
    Bytes.toNat_ofNat_of_lt (hc.trans_le (by decide))
  have hsign : (scale * 2 ^ 16 + 2 ^ 31 * negative.toNat).testBit 31 = negative := by
    rw [Nat.testBit_eq_decide_div_mod_eq]
    cases negative <;> simp <;> omega
  have hscale : (scale * 2 ^ 16 + 2 ^ 31 * negative.toNat) / 2 ^ 16 % 256 = scale := by
    cases negative <;> simp <;> omega
  rw [ofBytes, List.drop_left' (Bytes.length_ofNat ..), List.take_left' (Bytes.length_ofNat ..), htop,
    hflags, hcoefficient, hsign, hscale]

/-- A decimal comes back with its sign and number, and without a positive exponent. -/
theorem ofBytes_toBytes {negative : Bool} {c : Nat} {e : Int} {bs : Bytes}
    (h : (finite negative c e).toBytes = .ok bs) :
    ofBytes bs = finite negative (c * 10 ^ e.toNat) (min e 0) ∧ bs.length = 16 := by
  simp only [toBytes] at h
  split at h
  · cases h
  · split at h
    · cases h
    · split at h
      · cases h
      · rename_i hscale hfits
        cases h
        have hcoefficient : (if c = 0 then 0 else c * 10 ^ e.toNat) = c * 10 ^ e.toNat := by
          split
          · simp [*]
          · rfl
        have hlt : c * 10 ^ e.toNat < 2 ^ 96 := by
          by_cases hc : c = 0
          · simp [hc]
          · exact Nat.lt_of_not_le fun hle => hfits ⟨hc,Or.inr hle⟩
        have hexponent : (-((-e).toNat : Int)) = min e 0 := by omega
        rw [hcoefficient, ofBytes_layout negative hlt (Nat.le_of_not_lt hscale), hexponent]
        exact ⟨rfl,by simp⟩

end Decimal

end SealedRows
