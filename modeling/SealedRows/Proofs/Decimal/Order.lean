import Mathlib.Order.WithBot
import SealedRows.Proofs.Double.Rounding
import SealedRows.Value.Order

/-! # Order of exact numbers

Decimals are ordered as the numbers that they are, whatever their places, and the exact decimal form of
a double is the number of the double. The infinities are below and above all numbers.
-/
namespace SealedRows

theorem compare_congr {α β : Type} [LinearOrder α] [LinearOrder β] {a b : α} {x y : β}
    (hlt : a < b ↔ x < y) (hgt : b < a ↔ y < x) : compare a b = compare x y := by
  rcases lt_trichotomy x y with h | h | h
  · rw [compare_lt_iff_lt.mpr h, compare_lt_iff_lt.mpr (hlt.mpr h)]
  · have hle : a ≤ b := not_lt.mp fun hba => (hgt.mp hba).ne' h
    have hge : b ≤ a := not_lt.mp fun hab => (hlt.mp hab).ne h
    rw [compare_eq_iff_eq.mpr h, compare_eq_iff_eq.mpr (le_antisymm hle hge)]
  · rw [compare_gt_iff_gt.mpr h, compare_gt_iff_gt.mpr (hgt.mpr h)]

theorem compare_of_strictMono {α β : Type} [LinearOrder α] [LinearOrder β] {f : α → β}
    (hf : StrictMono f) (a b : α) : compare (f a) (f b) = compare a b :=
  compare_congr hf.lt_iff_lt hf.lt_iff_lt

theorem Text.pow_length_digitsOnto (n : ℕ) (rest : List ℕ) :
    ∃ k, (digitsOnto n rest).length = rest.length + (k + 1) ∧ n < 10 ^ (k + 1) ∧
      (n ≠ 0 → 10 ^ k ≤ n) := by
  induction n using Nat.strong_induction_on generalizing rest with
  | _ n ih =>
    rw [digitsOnto]
    split
    · exact ⟨0,rfl,by omega,fun h => by omega⟩
    · obtain ⟨k,hlength,hupper,hlower⟩ := ih (n / 10) (by omega) (n % 10 :: rest)
      refine ⟨k + 1,?_,?_,fun _ => ?_⟩
      · rw [hlength, List.length_cons]
        omega
      · rw [Nat.pow_succ]
        omega
      · have hle := hlower (by omega)
        rw [Nat.pow_succ]
        omega

theorem Text.pow_length_digits {n : ℕ} (h : n ≠ 0) :
    ∃ k, (digits n).length = k + 1 ∧ 10 ^ k ≤ n ∧ n < 10 ^ (k + 1) := by
  obtain ⟨k,hlength,hupper,hlower⟩ := pow_length_digitsOnto n []
  exact ⟨k,by rw [digits, hlength, List.length_nil, Nat.zero_add],hlower h,hupper⟩

namespace Decimal

/-- The size of a finite decimal. -/
def size (c : ℕ) (e : ℤ) : ℚ := c * 10 ^ e

theorem size_nonneg (c : ℕ) (e : ℤ) : 0 ≤ size c e := by
  unfold size
  positivity

theorem size_eq_zero {c : ℕ} {e : ℤ} : size c e = 0 ↔ c = 0 := by
  have hpower : (10 : ℚ) ^ e ≠ 0 := zpow_ne_zero _ (by norm_num)
  rw [size, mul_eq_zero, or_iff_left hpower, Nat.cast_eq_zero]

/-- The number of digits before the point bounds a size from both sides. -/
theorem size_bounds {c : ℕ} (h : c ≠ 0) (e : ℤ) :
    (10 : ℚ) ^ (e + (Text.digits c).length - 1) ≤ size c e ∧
      size c e < 10 ^ (e + (Text.digits c).length) := by
  obtain ⟨k,hlength,hlower,hupper⟩ := Text.pow_length_digits h
  have hpower : (0 : ℚ) < 10 ^ e := zpow_pos (by norm_num) _
  have hlow : (10 : ℚ) ^ k ≤ c := by exact_mod_cast hlower
  have hhigh : (c : ℚ) < 10 ^ (k + 1) := by exact_mod_cast hupper
  have htop (j : ℕ) : (10 : ℚ) ^ (e + j) = 10 ^ j * 10 ^ e := by
    rw [zpow_add₀ (by norm_num), zpow_natCast, mul_comm]
  have hless : e + ((k + 1 : ℕ) : ℤ) - 1 = e + k := by push_cast; ring
  rw [hlength, hless, htop, htop, size]
  exact ⟨mul_le_mul_of_nonneg_right hlow hpower.le,mul_lt_mul_of_pos_right hhigh hpower⟩

theorem size_lt_of_top_lt {c c' : ℕ} (hc : c ≠ 0) (hc' : c' ≠ 0) {e e' : ℤ}
    (h : e + (Text.digits c).length < e' + (Text.digits c').length) : size c e < size c' e' :=
  calc size c e < 10 ^ (e + (Text.digits c).length) := (size_bounds hc e).2
    _ ≤ 10 ^ (e' + (Text.digits c').length - 1) := zpow_le_zpow_right₀ (by norm_num) (by omega)
    _ ≤ size c' e' := (size_bounds hc' e').1

theorem size_eq_scaled (c : ℕ) (e e' : ℤ) :
    size c e = (c * 10 ^ (e - e').toNat : ℕ) * 10 ^ min e e' := by
  have hexponent : e = (e - e').toNat + min e e' := by omega
  rw [size]
  conv_lhs => rw [hexponent]
  rw [zpow_add₀ (by norm_num), zpow_natCast]
  push_cast
  ring

theorem compare_scaled (c c' : ℕ) (e e' : ℤ) :
    compare (c * 10 ^ (e - e').toNat) (c' * 10 ^ (e' - e).toNat) = compare (size c e) (size c' e') := by
  -- Both sizes are counted in units of the lesser exponent.
  have hunit : (0 : ℚ) < 10 ^ min e e' := zpow_pos (by norm_num) _
  rw [size_eq_scaled c e e', size_eq_scaled c' e' e, min_comm e' e]
  apply compare_congr
  · rw [mul_lt_mul_iff_left₀ hunit, Nat.cast_lt]
  · rw [mul_lt_mul_iff_left₀ hunit, Nat.cast_lt]

/-- Sizes are compared by their first digits before all else. -/
theorem compare_sizes (c c' : ℕ) (e e' : ℤ) :
    (if c = 0 ∨ c' = 0 then compare c c'
      else
        (compare (e + ((Text.digits c).length : ℤ)) (e' + ((Text.digits c').length : ℤ))).then
          (compare (c * 10 ^ (e - e').toNat) (c' * 10 ^ (e' - e).toNat))) =
      compare (size c e) (size c' e') := by
  split
  · rename_i hzero
    have hpos {c : ℕ} (e : ℤ) : 0 < size c e ↔ 0 < c := by
      rw [(size_nonneg c e).lt_iff_ne', Ne, size_eq_zero, Nat.pos_iff_ne_zero]
    rcases hzero with rfl | rfl
    · have hsize : size 0 e = 0 := size_eq_zero.mpr rfl
      rw [hsize]
      apply compare_congr
      · rw [hpos]
      · exact iff_of_false (Nat.not_lt_zero _) (size_nonneg c' e').not_gt
    · have hsize : size 0 e' = 0 := size_eq_zero.mpr rfl
      rw [hsize]
      apply compare_congr
      · exact iff_of_false (Nat.not_lt_zero _) (size_nonneg c e).not_gt
      · rw [hpos]
  · rename_i hzero
    obtain ⟨hc,hc'⟩ := not_or.mp hzero
    rcases lt_trichotomy (e + ((Text.digits c).length : ℤ)) (e' + ((Text.digits c').length : ℤ)) with
      h | h | h
    · rw [compare_lt_iff_lt.mpr h, compare_lt_iff_lt.mpr (size_lt_of_top_lt hc hc' h)]
      rfl
    · rw [compare_eq_iff_eq.mpr h, compare_scaled]
      rfl
    · rw [compare_gt_iff_gt.mpr h, compare_gt_iff_gt.mpr (size_lt_of_top_lt hc' hc h)]
      rfl

def number (negative : Bool) (c : ℕ) (e : ℤ) : ℚ := if negative then -size c e else size c e

theorem number_eq (negative : Bool) (c : ℕ) (e : ℤ) :
    number negative c e = if negative && c ≠ 0 then -size c e else size c e := by
  by_cases hc : c = 0
  · -- A zero has no sign.
    have hsize : size c e = 0 := size_eq_zero.mpr hc
    simp only [number, hsize, neg_zero, ite_self]
  · simp [number, hc]

theorem size_pos_of_negative {negative : Bool} {c : ℕ} (h : (negative && c ≠ 0) = true) (e : ℤ) :
    0 < size c e := by
  have hc : c ≠ 0 := by simpa using (Bool.and_eq_true_iff.mp h).2
  exact (size_nonneg c e).lt_of_ne' fun hzero => hc (size_eq_zero.mp hzero)

theorem order?_finite (n n' : Bool) (c c' : ℕ) (e e' : ℤ) :
    order? (finite n c e) (finite n' c' e') = some (compare (number n c e) (number n' c' e')) := by
  have hnonneg := size_nonneg c e
  have hnonneg' := size_nonneg c' e'
  simp only [order?, compare_sizes, number_eq]
  by_cases h : (n && c ≠ 0) = true <;> by_cases h' : (n' && c' ≠ 0) = true
  · have hswap : (compare (size c e) (size c' e')).swap = compare (-size c e) (-size c' e') := by
      rw [← Std.OrientedOrd.eq_swap]
      exact compare_congr neg_lt_neg_iff.symm neg_lt_neg_iff.symm
    simp only [h, h', hswap, Bool.and_self, if_true]
  · have hlt : -size c e < size c' e' := by
      have hpos := size_pos_of_negative h e
      linarith
    rw [if_neg (by rw [h]; exact h'), if_pos h, if_pos h, if_neg h', compare_lt_iff_lt.mpr hlt]
  · have hgt : -size c' e' < size c e := by
      have hpos := size_pos_of_negative h' e'
      linarith
    rw [if_neg (by rw [h', Bool.and_true]; exact h), if_neg h, if_pos h', if_neg h, if_pos h',
      compare_gt_iff_gt.mpr hgt]
  · rw [if_neg fun hand => h (Bool.and_eq_true_iff.mp hand).1, if_neg h, if_neg h', if_neg h,
      if_neg h']

end Decimal

abbrev ExtendedRat := WithBot (WithTop ℚ)

namespace ExtendedRat

def ofRat (q : ℚ) : ExtendedRat := ((q : WithTop ℚ) : WithBot (WithTop ℚ))

def infinite (negative : Bool) : ExtendedRat := if negative then ⊥ else ⊤

theorem strictMono_ofRat : StrictMono ofRat :=
  fun _ _ h => WithBot.coe_lt_coe.mpr (WithTop.coe_lt_coe.mpr h)

theorem ofRat_lt_top (q : ℚ) : ofRat q < ⊤ := WithBot.coe_lt_coe.mpr (WithTop.coe_lt_top q)

theorem bot_lt_ofRat (q : ℚ) : ⊥ < ofRat q := WithBot.bot_lt_coe _

end ExtendedRat

namespace Decimal

def extended? : Decimal → Option ExtendedRat
  | finite negative c e => some (.ofRat (number negative c e))
  | infinite negative => some (.infinite negative)
  | nan .. => none

theorem order?_of_extended? {a b : Decimal} {q r : ExtendedRat} (ha : a.extended? = some q)
    (hb : b.extended? = some r) : a.order? b = some (compare q r) := by
  rcases a with ⟨n,c,e⟩ | n | _ <;> rcases b with ⟨n',c',e'⟩ | n' | _ <;> cases ha <;> cases hb
  · rw [order?_finite, compare_of_strictMono ExtendedRat.strictMono_ofRat]
  · cases n'
    · exact congrArg some (compare_lt_iff_lt.mpr (ExtendedRat.ofRat_lt_top _)).symm
    · exact congrArg some (compare_gt_iff_gt.mpr (ExtendedRat.bot_lt_ofRat _)).symm
  · cases n
    · exact congrArg some (compare_gt_iff_gt.mpr (ExtendedRat.ofRat_lt_top _)).symm
    · exact congrArg some (compare_lt_iff_lt.mpr (ExtendedRat.bot_lt_ofRat _)).symm
  · cases n <;> cases n'
    · exact congrArg some (compare_eq_iff_eq.mpr rfl).symm
    · exact congrArg some (compare_gt_iff_gt.mpr bot_lt_top).symm
    · exact congrArg some (compare_lt_iff_lt.mpr bot_lt_top).symm
    · exact congrArg some (compare_eq_iff_eq.mpr rfl).symm

theorem withoutTwos_mul (m k : ℕ) : (withoutTwos m k).1 * 2 ^ k = m * 2 ^ (withoutTwos m k).2 := by
  induction k generalizing m with
  | zero => rfl
  | succ k ih =>
    rw [withoutTwos]
    split
    · have hm : m / 2 * 2 = m := by omega
      rw [Nat.pow_succ, ← Nat.mul_assoc, ih]
      rw [Nat.mul_right_comm, hm]
    · rfl

theorem extended?_ofInt (n : ℤ) : (ofInt n).extended? = some (.ofRat n) := by
  have hnumber : number (n < 0) n.natAbs 0 = (n : ℚ) := by
    by_cases hn : n < 0
    · simp [number, size, hn, abs_of_neg]
    · have hnonneg : 0 ≤ n := not_lt.mp hn
      simp [number, size, hn, hnonneg]
  rw [ofInt, extended?, hnumber]

end Decimal

def Double.extended? (x : Double) : Option ExtendedRat :=
  if x.isNaN then none
  else if x.isInfinite then some (.infinite x.isNegative)
  else
    let size := BinaryFormat.double.number x.magnitude
    some (.ofRat (if x.isNegative then -size else size))

namespace Decimal

/-- An odd multiple of a negative power of two has as many decimal places as twos below it. -/
theorem size_withoutTwos (m : ℕ) (e : ℤ) :
    size ((withoutTwos m (-e).toNat).1 * 2 ^ e.toNat * 5 ^ (withoutTwos m (-e).toNat).2)
      (-(withoutTwos m (-e).toNat).2) = m * 2 ^ e := by
  have hexact := withoutTwos_mul m (-e).toNat
  generalize (withoutTwos m (-e).toNat).1 = odd at hexact ⊢
  generalize (withoutTwos m (-e).toNat).2 = k at hexact ⊢
  have hexact' : (odd : ℚ) * 2 ^ (-e).toNat = m * 2 ^ k := by exact_mod_cast hexact
  have hten : (10 : ℚ) ^ (-(k : ℤ)) = 1 / (2 ^ k * 5 ^ k) := by
    rw [zpow_neg, zpow_natCast, ← mul_pow]
    norm_num
  rw [size, hten, two_zpow_eq_div]
  push_cast
  field_simp
  linarith

theorem extended?_ofDouble (x : Double) : (ofDouble x).extended? = x.extended? := by
  unfold ofDouble Double.extended?
  split
  · rfl
  · split
    · rfl
    · simp only [extended?, number, size_withoutTwos, BinaryFormat.number]

end Decimal
end SealedRows
