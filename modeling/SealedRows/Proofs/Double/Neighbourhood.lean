import SealedRows.Double.Shortest
import SealedRows.Proofs.Double.Overflow

/-! # What is rounded to a double

Every number in the neighbourhood of a magnitude is rounded to it: it lies within a half of the last place,
and halfway only if the last bit is zero. Below a power of two the last place is half as large, and so is
what is rounded up to it.
-/
namespace SealedRows

def Between (closed : Bool) (a b q : ℚ) : Prop := if closed then a ≤ q ∧ q ≤ b else a < q ∧ q < b

namespace Between
variable {closed : Bool} {a b q : ℚ}

theorem le (h : Between closed a b q) : a ≤ q ∧ q ≤ b := by
  cases closed with
  | false => exact ⟨(show a < q ∧ q < b from h).1.le,(show a < q ∧ q < b from h).2.le⟩
  | true => exact h

theorem of_lt (h : a < q) (h' : q < b) : Between closed a b q := by
  cases closed with
  | false => exact ⟨h,h'⟩
  | true => exact ⟨h.le,h'.le⟩

theorem mono {a' b' : ℚ} (h : Between closed a b q) (ha : a' ≤ a) (hb : b ≤ b') :
    Between closed a' b' q := by
  cases closed with
  | false =>
    obtain ⟨hlow,hhigh⟩ : a < q ∧ q < b := h
    exact ⟨ha.trans_lt hlow,hhigh.trans_le hb⟩
  | true =>
    obtain ⟨hlow,hhigh⟩ : a ≤ q ∧ q ≤ b := h
    exact ⟨ha.trans hlow,hhigh.trans hb⟩

theorem div {w : ℚ} (hw : 0 < w) (h : Between closed (a * w) (b * w) q) : Between closed a b (q / w) := by
  cases closed with
  | false =>
    obtain ⟨hlow,hhigh⟩ : a * w < q ∧ q < b * w := h
    exact ⟨(lt_div_iff₀ hw).mpr hlow,(div_lt_iff₀ hw).mpr hhigh⟩
  | true =>
    obtain ⟨hlow,hhigh⟩ : a * w ≤ q ∧ q ≤ b * w := h
    exact ⟨(le_div_iff₀ hw).mpr hlow,(div_le_iff₀ hw).mpr hhigh⟩

end Between

/-- A quotient within a half of an integer is rounded to it; of those at a half, the even integers are
rounded to. -/
theorem roundedQuotient_eq {num den m : ℕ} (hd : 0 < den)
    (h : Between (m % 2 = 0) (m - 1 / 2) (m + 1 / 2) (num / den)) : roundedQuotient num den = m := by
  have hdq : (0 : ℚ) < den := by exact_mod_cast hd
  have hclosed : 2 * (den * m) ≤ 2 * num + den ∧ 2 * num ≤ 2 * (den * m) + den := by
    obtain ⟨hlow,hhigh⟩ := h.le
    rw [le_div_iff₀ hdq] at hlow
    rw [div_le_iff₀ hdq] at hhigh
    rw [← Nat.cast_le (α := ℚ), ← Nat.cast_le (α := ℚ)]
    push_cast
    constructor <;> linarith
  have hopen (hodd : m % 2 = 1) : 2 * (den * m) < 2 * num + den ∧ 2 * num < 2 * (den * m) + den := by
    have hfalse : decide (m % 2 = 0) = false := by simp [hodd]
    rw [hfalse] at h
    obtain ⟨hlow,hhigh⟩ : (m : ℚ) - 1 / 2 < num / den ∧ (num : ℚ) / den < m + 1 / 2 := h
    rw [lt_div_iff₀ hdq] at hlow
    rw [div_lt_iff₀ hdq] at hhigh
    rw [← Nat.cast_lt (α := ℚ), ← Nat.cast_lt (α := ℚ)]
    push_cast
    constructor <;> linarith
  have hparts := Nat.div_add_mod num den
  have hmod := Nat.mod_lt num hd
  simp only [roundedQuotient]
  generalize num / den = q at hparts ⊢
  generalize num % den = r at hparts hmod ⊢
  -- The integer is the floor of the quotient or the one above it.
  have hq : q ≤ m := by
    by_contra hlt
    have hmul := Nat.mul_le_mul_left den (show m + 1 ≤ q by omega)
    rw [Nat.mul_add] at hmul
    omega
  have hm : m ≤ q + 1 := by
    by_contra hlt
    have hmul := Nat.mul_le_mul_left den (show q + 2 ≤ m by omega)
    rw [Nat.mul_add] at hmul
    omega
  rcases (show m = q ∨ m = q + 1 by omega) with rfl | rfl
  · split <;> [skip; split] <;> omega
  · rw [Nat.mul_add] at hclosed hopen
    split <;> [skip; split] <;> omega

namespace BinaryFormat
variable (f : BinaryFormat)

/-- The parts of a magnitude, by how many places its last bit lies above the least one. -/
theorem parts_eq (magnitude : ℕ) : ∃ j m : ℕ, f.parts magnitude = (m,f.minExponent + j) ∧
    magnitude = j * 2 ^ f.fractionBits + m ∧ m < 2 ^ (f.fractionBits + 1) ∧
    (j ≠ 0 → 2 ^ f.fractionBits ≤ m) ∧ (magnitude ≠ 0 → m ≠ 0) := by
  have hbit := Nat.two_pow_pos f.fractionBits
  rw [Nat.pow_succ]
  rcases Nat.lt_or_ge magnitude (2 ^ f.fractionBits) with hlt | hge
  · exact ⟨0,magnitude,by simp [f.parts_of_lt hlt],by omega,by omega,by omega,id⟩
  · obtain ⟨e,m,hm,rfl⟩ := f.exists_fields hge
    refine ⟨e,2 ^ f.fractionBits + m,f.parts_of_fields e hm,?_,by omega,by omega,by omega⟩
    rw [Nat.add_mul]
    omega

/-- A number that is counted in a smaller last place than the magnitude above it lies just below a power of
two, and is rounded up to it. -/
theorem roundedQuotient_below_power {k j m scaled unit : ℕ} {lower q : ℚ} (hu : 0 < unit) (hk : k < j)
    (hfull : 2 ^ f.fractionBits ≤ m) (hlower : (m : ℚ) - 1 / 2 ≤ lower)
    (hpower : m = 2 ^ f.fractionBits → (m : ℚ) - 1 / 4 ≤ lower)
    (hlow : lower * 2 ^ (f.minExponent + j) ≤ q)
    (hscaled : (scaled : ℚ) / unit = q / 2 ^ (f.minExponent + k))
    (hbelow : (scaled : ℚ) / unit < 2 ^ (f.fractionBits + 1)) :
    j = k + 1 ∧ m = 2 ^ f.fractionBits ∧ roundedQuotient scaled unit = 2 ^ (f.fractionBits + 1) := by
  have hunit (k : ℕ) : (0 : ℚ) < 2 ^ (f.minExponent + k) := zpow_pos (by norm_num) _
  have hlast : (2 : ℚ) ^ (f.fractionBits + 1) = 2 * 2 ^ f.fractionBits := by rw [pow_succ]; ring
  have hfraction : (1 : ℚ) ≤ 2 ^ f.fractionBits := one_le_pow₀ (by norm_num)
  have hfull' : (2 : ℚ) ^ f.fractionBits ≤ m := by exact_mod_cast hfull
  have hnumber := (div_eq_iff (hunit k).ne').mp hscaled.symm
  have hhalf := f.two_mul_weight_le hk
  have hm : m = 2 ^ f.fractionBits := by
    by_contra hne
    have hmore : (2 : ℚ) ^ f.fractionBits + 1 ≤ m := by
      exact_mod_cast (show 2 ^ f.fractionBits + 1 ≤ m by omega)
    have := hunit k
    have := hunit j
    nlinarith
  have hquarter := hpower hm
  have hj : j = k + 1 := by
    by_contra hne
    have hhalf' := f.two_mul_weight_le (show k + 1 < j by omega)
    have hdouble := f.two_mul_weight_le (show k < k + 1 by omega)
    have := hunit k
    nlinarith
  subst hj
  refine ⟨rfl,hm,?_⟩
  have hweight : (2 : ℚ) ^ (f.minExponent + (k + 1 : ℕ)) = 2 * 2 ^ (f.minExponent + k) := by
    rw [← zpow_one_add₀ (by norm_num)]
    congr 1
    push_cast
    ring
  have heven : decide (2 ^ (f.fractionBits + 1) % 2 = 0) = true := by simp [Nat.pow_succ]
  apply roundedQuotient_eq hu
  rw [heven]
  push_cast
  constructor
  · rw [hscaled, le_div_iff₀ (hunit k)]
    rw [hweight] at hlow
    rw [hm] at hquarter
    push_cast at hquarter
    have := hunit k
    nlinarith
  · linarith

/-- What lies within a half of a magnitude's last place is rounded to it. At a power of two, less than a half
is between it and what is rounded to the magnitude below. -/
theorem rounded_of_between {num den j m : ℕ} {lower : ℚ} (hd : 0 < den) (hpos : m ≠ 0)
    (hm : m < 2 ^ (f.fractionBits + 1)) (hfull : j ≠ 0 → 2 ^ f.fractionBits ≤ m)
    (hlower : (m : ℚ) - 1 / 2 ≤ lower)
    (hpower : j ≠ 0 → m = 2 ^ f.fractionBits → (m : ℚ) - 1 / 4 ≤ lower)
    (h : Between (m % 2 = 0) (lower * 2 ^ (f.minExponent + j)) ((m + 1 / 2) * 2 ^ (f.minExponent + j))
      (num / den)) :
    f.rounded num den = j * 2 ^ f.fractionBits + m := by
  have hunit (k : ℕ) : (0 : ℚ) < 2 ^ (f.minExponent + k) := zpow_pos (by norm_num) _
  have hone : (1 : ℚ) ≤ m := by exact_mod_cast Nat.one_le_iff_ne_zero.mpr hpos
  obtain ⟨hlow,hhigh⟩ := h.le
  have hn : num ≠ 0 := by
    rintro rfl
    rw [Nat.cast_zero, zero_div] at hlow
    have := hunit j
    nlinarith
  obtain ⟨k,scaled,unit,hu,hscaled,hrounded,hbelow,habove⟩ := f.exists_rounded hn hd
  rw [hrounded]
  rcases Nat.lt_trichotomy k j with hk | rfl | hk
  · have hj : j ≠ 0 := by omega
    obtain ⟨rfl,hm,hround⟩ :=
      f.roundedQuotient_below_power hu hk (hfull hj) hlower (hpower hj) hlow hscaled hbelow
    rw [hround, hm, Nat.pow_succ, Nat.add_mul]
    omega
  · rw [roundedQuotient_eq hu]
    rw [hscaled]
    exact (h.mono (mul_le_mul_of_nonneg_right hlower (hunit k).le) le_rfl).div (hunit k)
  · -- Every number counted in a greater last place is too large.
    exfalso
    have hfull' := habove (by omega)
    have hnumber := (div_eq_iff (hunit k).ne').mp hscaled.symm
    have hdouble := f.two_mul_weight_le hk
    have hless : (m : ℚ) + 1 ≤ 2 ^ (f.fractionBits + 1) := by exact_mod_cast hm
    have hlast : (2 : ℚ) ^ (f.fractionBits + 1) = 2 * 2 ^ f.fractionBits := by rw [pow_succ]; ring
    have := hunit k
    have := hunit j
    nlinarith

end BinaryFormat

namespace Double
open BinaryFormat

/-- Whether a number lies in a neighbourhood. -/
def Neighbourhood.Holds (h : Neighbourhood) (q : ℚ) : Prop :=
  Between h.closed (h.lower * 2 ^ h.exponent) (h.upper * 2 ^ h.exponent) q

theorem quarter_mul_two_zpow (a : ℚ) (e : ℤ) : a * 2 ^ (e - 2) = a / 4 * 2 ^ e := by
  rw [zpow_sub₀ (by norm_num)]
  norm_num
  ring

/-- What lies in the neighbourhood of a magnitude is rounded to the magnitude. -/
theorem rounded_of_holds {magnitude num den : ℕ} (hmagnitude : magnitude ≠ 0) (hd : 0 < den)
    (h : (neighbourhood magnitude).Holds (num / den)) : double.rounded num den = magnitude := by
  obtain ⟨j,m,hparts,hsum,hm,hfull,hpos⟩ := double.parts_eq magnitude
  simp only [Neighbourhood.Holds, neighbourhood, hparts, quarter_mul_two_zpow] at h
  have hfour (c : ℕ) (hc : c ≤ 2) : ((4 * m - c : ℕ) : ℚ) / 4 = m - c / 4 := by
    rw [Nat.cast_sub (by omega)]
    push_cast
    ring
  have hupper : ((4 * m + 2 : ℕ) : ℚ) / 4 = m + 1 / 2 := by
    push_cast
    ring
  rw [hupper] at h
  rw [hsum]
  refine double.rounded_of_between hd (hpos hmagnitude) hm hfull ?_ ?_ h
  · split
    · rw [hfour 1 (by omega)]
      push_cast
      linarith
    · rw [hfour 2 le_rfl]
      norm_num
  · intro hj hpower
    rw [if_pos ⟨hpower,by omega⟩, hfour 1 (by omega)]
    norm_num

end Double
end SealedRows
