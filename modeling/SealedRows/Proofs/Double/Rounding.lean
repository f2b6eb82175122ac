import Mathlib.Algebra.Order.Field.Power
import Mathlib.Algebra.Order.Field.Rat
import Mathlib.Tactic.FieldSimp
import Mathlib.Tactic.Linarith
import Mathlib.Tactic.Ring
import SealedRows.Double

/-! # Rounding of exact numbers

The number of a magnitude is an integer times a power of two. A quotient with the number of a
magnitude is rounded to that magnitude, whatever its numerator and denominator are, so a number
that both formats hold is converted without loss.
-/
namespace SealedRows

theorem zpow_eq_div {b : ℚ} (hb : b ≠ 0) (k : ℤ) : b ^ k = b ^ k.toNat / b ^ (-k).toNat := by
  have hk : k = (k.toNat : ℤ) - ((-k).toNat : ℤ) := by omega
  conv_lhs => rw [hk]
  rw [zpow_sub₀ hb, zpow_natCast, zpow_natCast]

theorem two_zpow_eq_div (k : ℤ) : (2 : ℚ) ^ k = 2 ^ k.toNat / 2 ^ (-k).toNat := zpow_eq_div two_ne_zero k

theorem ten_zpow_eq_div (k : ℤ) : (10 : ℚ) ^ k = 10 ^ k.toNat / 10 ^ (-k).toNat :=
  zpow_eq_div (by norm_num) k

/-- Two powers of two around one number have the same exponent. -/
theorem two_zpow_unique {v : ℚ} {j k : ℤ} (hj : (2 : ℚ) ^ j ≤ v) (hj' : v < 2 ^ (j + 1))
    (hk : (2 : ℚ) ^ k ≤ v) (hk' : v < 2 ^ (k + 1)) : j = k := by
  have h1 : j < k + 1 := (zpow_lt_zpow_iff_right₀ (by norm_num)).mp (hj.trans_lt hk')
  have h2 : k < j + 1 := (zpow_lt_zpow_iff_right₀ (by norm_num)).mp (hk.trans_lt hj')
  omega

theorem floorLog2_le {num den : ℕ} (hn : 0 < num) (hd : 0 < den) :
    (2 : ℚ) ^ floorLog2 num den ≤ num / den ∧ (num : ℚ) / den < 2 ^ (floorLog2 num den + 1) := by
  have hdq : (0 : ℚ) < den := by exact_mod_cast hd
  have hnl : (2 : ℚ) ^ (Nat.log2 num : ℤ) ≤ num := by
    exact_mod_cast Nat.log2_self_le hn.ne'
  have hnu : (num : ℚ) < 2 ^ ((Nat.log2 num : ℤ) + 1) := by
    exact_mod_cast Nat.lt_log2_self (n := num)
  have hdl : (2 : ℚ) ^ (Nat.log2 den : ℤ) ≤ den := by
    exact_mod_cast Nat.log2_self_le hd.ne'
  have hdu : (den : ℚ) < 2 ^ ((Nat.log2 den : ℤ) + 1) := by
    exact_mod_cast Nat.lt_log2_self (n := den)
  generalize hk : (Nat.log2 num : ℤ) - Nat.log2 den = k
  have hupper : (num : ℚ) / den < 2 ^ (k + 1) := by
    rw [div_lt_iff₀ hdq]
    calc (num : ℚ) < 2 ^ ((Nat.log2 num : ℤ) + 1) := hnu
      _ = 2 ^ (k + 1) * 2 ^ (Nat.log2 den : ℤ) := by
        rw [← zpow_add₀ (by norm_num)]; congr 1; omega
      _ ≤ 2 ^ (k + 1) * den := by gcongr
  have hlower : (2 : ℚ) ^ (k - 1) ≤ num / den := by
    rw [le_div_iff₀ hdq]
    calc (2 : ℚ) ^ (k - 1) * den ≤ 2 ^ (k - 1) * 2 ^ ((Nat.log2 den : ℤ) + 1) := by gcongr
      _ = 2 ^ (Nat.log2 num : ℤ) := by rw [← zpow_add₀ (by norm_num)]; congr 1; omega
      _ ≤ num := hnl
  have hcompare : num * 2 ^ (-k).toNat < den * 2 ^ k.toNat ↔ (num : ℚ) / den < 2 ^ k := by
    rw [two_zpow_eq_div, div_lt_div_iff₀ hdq (by positivity), mul_comm ((2 : ℚ) ^ k.toNat)]
    exact_mod_cast Iff.rfl
  simp only [floorLog2, hk, hcompare]
  split
  case isTrue h => exact ⟨hlower, by simpa using h⟩
  case isFalse h => exact ⟨not_lt.mp h, hupper⟩

theorem roundedQuotient_mul (m : ℕ) {den : ℕ} (hd : 0 < den) : roundedQuotient (m * den) den = m := by
  have hq : m * den / den = m := Nat.mul_div_cancel m hd
  simp [roundedQuotient, hq, hd]

namespace BinaryFormat
variable (f : BinaryFormat)

def number (magnitude : ℕ) : ℚ := (f.parts magnitude).1 * 2 ^ (f.parts magnitude).2

theorem number_eq_div (magnitude : ℕ) :
    f.number magnitude = ((f.parts magnitude).1 * 2 ^ (f.parts magnitude).2.toNat : ℕ) /
      (2 ^ (-(f.parts magnitude).2).toNat : ℕ) := by
  rw [number, two_zpow_eq_div]
  push_cast
  ring

/-- Below the first power of two that has all its bits, magnitudes count the least weight. -/
theorem parts_of_lt {magnitude : ℕ} (h : magnitude < 2 ^ f.fractionBits) :
    f.parts magnitude = (magnitude, f.minExponent) := by
  simp [parts, Nat.div_eq_of_lt h, Nat.mod_eq_of_lt h]

/-- The parts of a magnitude given by its two fields. -/
theorem parts_of_fields (e : ℕ) {m : ℕ} (h : m < 2 ^ f.fractionBits) :
    f.parts ((e + 1) * 2 ^ f.fractionBits + m) = (2 ^ f.fractionBits + m, f.minExponent + e) := by
  have hp : 0 < 2 ^ f.fractionBits := Nat.two_pow_pos _
  have hdiv : ((e + 1) * 2 ^ f.fractionBits + m) / 2 ^ f.fractionBits = e + 1 := by
    rw [Nat.mul_comm, Nat.mul_add_div hp, Nat.div_eq_of_lt h, Nat.add_zero]
  have hmod : ((e + 1) * 2 ^ f.fractionBits + m) % 2 ^ f.fractionBits = m := by
    rw [Nat.mul_comm, Nat.mul_add_mod, Nat.mod_eq_of_lt h]
  simp [parts, hdiv, hmod]

theorem number_of_lt {magnitude : ℕ} (h : magnitude < 2 ^ f.fractionBits) :
    f.number magnitude = magnitude * 2 ^ f.minExponent := by
  rw [number, f.parts_of_lt h]

theorem number_of_fields (e : ℕ) {m : ℕ} (h : m < 2 ^ f.fractionBits) :
    f.number ((e + 1) * 2 ^ f.fractionBits + m) =
      (2 ^ f.fractionBits + m : ℕ) * 2 ^ (f.minExponent + e) := by
  rw [number, f.parts_of_fields e h]

theorem exists_fields {magnitude : ℕ} (h : 2 ^ f.fractionBits ≤ magnitude) :
    ∃ e m, m < 2 ^ f.fractionBits ∧ magnitude = (e + 1) * 2 ^ f.fractionBits + m := by
  have hp := Nat.two_pow_pos f.fractionBits
  refine ⟨magnitude / 2 ^ f.fractionBits - 1, magnitude % 2 ^ f.fractionBits, Nat.mod_lt _ hp, ?_⟩
  have hq : 1 ≤ magnitude / 2 ^ f.fractionBits := (Nat.le_div_iff_mul_le hp).mpr (by omega)
  rw [Nat.sub_add_cancel hq, Nat.div_add_mod']

/-- A quotient that is an integer times the weight chosen for it is rounded to that integer. -/
theorem rounded_of_eq {num den m : ℕ} (hn : num ≠ 0) (hd : 0 < den)
    (h : (num : ℚ) / den = m * 2 ^ max f.minExponent (floorLog2 num den - f.fractionBits)) :
    f.rounded num den = (max f.minExponent (floorLog2 num den - f.fractionBits)
      - f.minExponent).toNat * 2 ^ f.fractionBits + m := by
  generalize he : max f.minExponent (floorLog2 num den - f.fractionBits) = e at h ⊢
  have hdq : (den : ℚ) ≠ 0 := by exact_mod_cast hd.ne'
  have hexact : num * 2 ^ (-e).toNat = m * (den * 2 ^ e.toNat) := by
    rw [two_zpow_eq_div] at h
    field_simp at h
    have h' : (num : ℚ) * 2 ^ (-e).toNat = m * (den * 2 ^ e.toNat) := by linarith
    exact_mod_cast h'
  simp only [rounded, if_neg hn, he, hexact, roundedQuotient_mul m (Nat.mul_pos hd (Nat.two_pow_pos _))]

/-- A number of fewer bits than fit is counted in the least weight. -/
theorem rounded_of_lt {num den magnitude : ℕ} (hn : num ≠ 0) (hd : 0 < den)
    (hlt : magnitude < 2 ^ f.fractionBits) (h : (num : ℚ) / den = f.number magnitude) :
    f.rounded num den = magnitude := by
  have hweight : (0 : ℚ) < 2 ^ f.minExponent := zpow_pos (by norm_num) _
  rw [f.number_of_lt hlt] at h
  have hbound : (2 : ℚ) ^ floorLog2 num den < 2 ^ ((f.fractionBits : ℤ) + f.minExponent) := by
    rw [zpow_add₀ (by norm_num), zpow_natCast]
    calc (2 : ℚ) ^ floorLog2 num den ≤ num / den := (floorLog2_le (Nat.pos_of_ne_zero hn) hd).1
      _ = magnitude * 2 ^ f.minExponent := h
      _ < 2 ^ f.fractionBits * 2 ^ f.minExponent :=
        mul_lt_mul_of_pos_right (by exact_mod_cast hlt) hweight
  have hexp : max f.minExponent (floorLog2 num den - f.fractionBits) = f.minExponent := by
    have := (zpow_lt_zpow_iff_right₀ (by norm_num)).mp hbound
    omega
  rw [f.rounded_of_eq hn hd (by rw [hexp]; exact h), hexp]
  simp

/-- A number of all the bits that fit is counted in the weight of its last one. -/
theorem rounded_of_fields {num den e m : ℕ} (hn : num ≠ 0) (hd : 0 < den)
    (hm : m < 2 ^ f.fractionBits)
    (h : (num : ℚ) / den = f.number ((e + 1) * 2 ^ f.fractionBits + m)) :
    f.rounded num den = (e + 1) * 2 ^ f.fractionBits + m := by
  have hweight : (0 : ℚ) < 2 ^ (f.minExponent + e) := zpow_pos (by norm_num) _
  obtain ⟨hl, hu⟩ := floorLog2_le (Nat.pos_of_ne_zero hn) hd
  rw [f.number_of_fields e hm] at h
  have hlow : (2 : ℚ) ^ ((f.fractionBits : ℤ) + (f.minExponent + e)) ≤ num / den := by
    rw [h, zpow_add₀ (by norm_num), zpow_natCast]
    exact mul_le_mul_of_nonneg_right (by exact_mod_cast Nat.le_add_right _ _) hweight.le
  have hhigh : (num : ℚ) / den < 2 ^ ((f.fractionBits : ℤ) + (f.minExponent + e) + 1) := by
    have hpower : (2 : ℚ) ^ ((f.fractionBits : ℤ) + (f.minExponent + e) + 1)
        = 2 ^ (f.fractionBits + 1) * 2 ^ (f.minExponent + e) := by
      rw [← zpow_natCast, ← zpow_add₀ (by norm_num)]
      congr 1
      push_cast
      ring
    have hbits : 2 ^ f.fractionBits + m < 2 ^ (f.fractionBits + 1) := by
      rw [Nat.pow_succ]
      omega
    have hbits' : ((2 ^ f.fractionBits + m : ℕ) : ℚ) < 2 ^ (f.fractionBits + 1) := by
      exact_mod_cast hbits
    rw [h, hpower]
    exact mul_lt_mul_of_pos_right hbits' hweight
  have hfloor := two_zpow_unique hl hu hlow hhigh
  have hexp : max f.minExponent (floorLog2 num den - f.fractionBits) = f.minExponent + e := by
    omega
  rw [f.rounded_of_eq hn hd (by rw [hexp]; exact h), hexp, Nat.add_mul]
  have hdifference : (f.minExponent + (e : ℤ) - f.minExponent).toNat = e := by omega
  rw [hdifference]
  omega

theorem eq_zero_of_number {magnitude : ℕ} (h : f.number magnitude = 0) : magnitude = 0 := by
  have hweight (k : ℤ) : (2 : ℚ) ^ k ≠ 0 := zpow_ne_zero _ (by norm_num)
  rcases Nat.lt_or_ge magnitude (2 ^ f.fractionBits) with hlt | hge
  · rw [f.number_of_lt hlt] at h
    exact_mod_cast (mul_eq_zero.mp h).resolve_right (hweight _)
  · obtain ⟨e, m, hm, rfl⟩ := f.exists_fields hge
    rw [f.number_of_fields e hm] at h
    have hsum : 2 ^ f.fractionBits + m = 0 := by
      exact_mod_cast (mul_eq_zero.mp h).resolve_right (hweight _)
    have := Nat.two_pow_pos f.fractionBits
    omega

/-- Rounding gives back the magnitude of every number that a format holds. -/
theorem rounded_eq_of_number {num den magnitude : ℕ} (hd : 0 < den)
    (h : (num : ℚ) / den = f.number magnitude) : f.rounded num den = magnitude := by
  by_cases hn : num = 0
  · subst hn
    have hmagnitude : magnitude = 0 := f.eq_zero_of_number (by rw [← h]; simp)
    simp [rounded, hmagnitude]
  · rcases Nat.lt_or_ge magnitude (2 ^ f.fractionBits) with hlt | hge
    · exact f.rounded_of_lt hn hd hlt h
    · obtain ⟨e, m, hm, rfl⟩ := f.exists_fields hge
      exact f.rounded_of_fields hn hd hm h

end BinaryFormat
end SealedRows
