import SealedRows.Proofs.Double.Single

/-! # Doubles too large for four bytes

A number is rounded beyond the finite ones of a format exactly if it lies at least halfway between the
greatest of them and the power of two behind it, for a half goes to the even neighbour.
-/
namespace SealedRows

section
variable {num den k : ℕ} (hd : 0 < den)
include hd

theorem le_roundedQuotient (h : (k : ℚ) ≤ num / den) : k ≤ roundedQuotient num den := by
  have hdq : (0 : ℚ) < den := by exact_mod_cast hd
  rw [le_div_iff₀ hdq] at h
  have hfloor : k ≤ num / den := (Nat.le_div_iff_mul_le hd).mpr (by exact_mod_cast h)
  simp only [roundedQuotient]
  split <;> [skip; split] <;> omega

theorem roundedQuotient_le (h : (num : ℚ) / den < k) : roundedQuotient num den ≤ k := by
  have hdq : (0 : ℚ) < den := by exact_mod_cast hd
  rw [div_lt_iff₀ hdq] at h
  have hfloor : num / den < k := (Nat.div_lt_iff_lt_mul hd).mpr (by exact_mod_cast h)
  simp only [roundedQuotient]
  split <;> [skip; split] <;> omega

/-- What is rounded below an even integer lies more than a half below it. -/
theorem roundedQuotient_lt_iff (hk : 2 ∣ k) :
    roundedQuotient num den < k ↔ (num : ℚ) / den < k - 1 / 2 := by
  have hdq : (0 : ℚ) < den := by exact_mod_cast hd
  have hhalf : (num : ℚ) / den < k - 1 / 2 ↔ 2 * num + den < 2 * (den * k) := by
    rw [div_lt_iff₀ hdq, ← Nat.cast_lt (α := ℚ)]
    push_cast
    constructor <;> intro h <;> linarith
  have hparts := Nat.div_add_mod num den
  have hmod := Nat.mod_lt num hd
  rw [hhalf]
  simp only [roundedQuotient]
  generalize num / den = q at hparts ⊢
  generalize num % den = r at hparts hmod ⊢
  rcases Nat.lt_trichotomy (q + 1) k with h | h | h
  · have hle := Nat.mul_le_mul_left den (show q + 2 ≤ k by omega)
    rw [Nat.mul_add] at hle
    refine iff_of_true ?_ (by omega)
    split <;> [skip; split] <;> omega
  · subst h
    rw [Nat.mul_add]
    split <;> [skip; split] <;> omega
  · have hle := Nat.mul_le_mul_left den (show k ≤ q by omega)
    refine iff_of_false ?_ (by omega)
    split <;> [skip; split] <;> omega

theorem scaled_quotient (num : ℕ) (e : ℤ) :
    ((num * 2 ^ (-e).toNat : ℕ) : ℚ) / (den * 2 ^ e.toNat : ℕ) = num / den / 2 ^ e := by
  have hdq : (den : ℚ) ≠ 0 := by exact_mod_cast hd.ne'
  rw [two_zpow_eq_div]
  push_cast
  field_simp

end

namespace BinaryFormat
variable (f : BinaryFormat)

/-- The number halfway between the greatest finite number of a format and the power of two behind it. -/
def threshold : ℚ :=
  (2 ^ (f.fractionBits + 1) - 1 / 2) * 2 ^ (f.minExponent + (2 ^ f.exponentBits - 3 : ℤ))

/-- What is rounded is a quotient in units of the last bit, which lies `k` bits above the least one. -/
theorem exists_rounded {num den : ℕ} (hn : num ≠ 0) (hd : 0 < den) : ∃ k scaled unit : ℕ, 0 < unit ∧
    (scaled : ℚ) / unit = num / den / 2 ^ (f.minExponent + k) ∧
    f.rounded num den = k * 2 ^ f.fractionBits + roundedQuotient scaled unit ∧
    (scaled : ℚ) / unit < 2 ^ (f.fractionBits + 1) ∧
      (k ≠ 0 → 2 ^ f.fractionBits ≤ (scaled : ℚ) / unit) := by
  obtain ⟨hl,hu⟩ := floorLog2_le (Nat.pos_of_ne_zero hn) hd
  simp only [rounded, if_neg hn]
  generalize floorLog2 num den = log at hl hu ⊢
  obtain ⟨k,hk⟩ : ∃ k : ℕ, max f.minExponent (log - f.fractionBits) = f.minExponent + k :=
    ⟨(max f.minExponent (log - f.fractionBits) - f.minExponent).toNat,by omega⟩
  have hplace : (f.minExponent + (k : ℤ) - f.minExponent).toNat = k := by omega
  have hweight : (0 : ℚ) < 2 ^ (f.minExponent + k) := zpow_pos (by norm_num) _
  have hscaled := scaled_quotient hd num (f.minExponent + k)
  rw [hk, hplace]
  refine ⟨k,_,_,Nat.mul_pos hd (Nat.two_pow_pos _),hscaled,rfl,?_,fun hpos => ?_⟩
  · rw [hscaled, div_lt_iff₀ hweight, ← zpow_natCast, ← zpow_add₀ (by norm_num)]
    refine hu.trans_le (zpow_le_zpow_right₀ (by norm_num) ?_)
    push_cast
    omega
  · rw [hscaled, le_div_iff₀ hweight, ← zpow_natCast, ← zpow_add₀ (by norm_num)]
    exact (zpow_le_zpow_right₀ (by norm_num) (by omega)).trans hl

theorem two_mul_weight_le {k top : ℕ} (h : k < top) :
    2 * (2 : ℚ) ^ (f.minExponent + k) ≤ 2 ^ (f.minExponent + top) := by
  rw [← zpow_one_add₀ (by norm_num)]
  exact zpow_le_zpow_right₀ (by norm_num) (by omega)

theorem rounded_lt_infinity_iff (hf : 3 ≤ 2 ^ f.exponentBits) {num den : ℕ} (hd : 0 < den) :
    f.rounded num den < f.infinity ↔ (num : ℚ) / den < f.threshold := by
  obtain ⟨top,htop⟩ := Nat.exists_eq_add_of_le' hf
  have htop' : (2 ^ f.exponentBits - 3 : ℤ) = top := by
    have : ((2 ^ f.exponentBits : ℕ) : ℤ) = top + 3 := by exact_mod_cast htop
    push_cast at this
    omega
  have hinfinity : f.infinity = (top + 2) * 2 ^ f.fractionBits := by rw [infinity, htop]; rfl
  have hlast : (2 : ℚ) ^ (f.fractionBits + 1) = 2 * 2 ^ f.fractionBits := by rw [pow_succ]; ring
  have hfraction : (1 : ℚ) ≤ 2 ^ f.fractionBits := one_le_pow₀ (by norm_num)
  have hunit (k : ℕ) : (0 : ℚ) < 2 ^ (f.minExponent + k) := zpow_pos (by norm_num) _
  rw [threshold, htop', hinfinity]
  by_cases hn : num = 0
  · subst hn
    refine iff_of_true ?_ ?_
    · rw [rounded, if_pos rfl]
      positivity
    · rw [Nat.cast_zero, zero_div, hlast]
      apply mul_pos _ (hunit top)
      linarith
  obtain ⟨k,scaled,unit,hpos,hscaled,hrounded,hbelow,habove⟩ := f.exists_rounded hn hd
  rw [hrounded, (div_eq_iff (hunit k).ne').mp hscaled.symm]
  -- Only in the last row of finite numbers does the rounding decide.
  rcases Nat.lt_trichotomy k top with h | h | h
  · refine iff_of_true ?_ ?_
    · have hround : roundedQuotient scaled unit ≤ 2 ^ (f.fractionBits + 1) :=
        roundedQuotient_le hpos (by exact_mod_cast hbelow)
      have hless := Nat.mul_le_mul_right (2 ^ f.fractionBits) (show k + 3 ≤ top + 2 by omega)
      have hbit := Nat.two_pow_pos f.fractionBits
      rw [Nat.pow_succ] at hround
      rw [Nat.add_mul] at hless
      omega
    · have hweight := f.two_mul_weight_le h
      have hk := hunit k
      rw [hlast] at hbelow ⊢
      nlinarith
  · subst h
    have hround : roundedQuotient scaled unit < 2 ^ (f.fractionBits + 1) ↔ _ :=
      roundedQuotient_lt_iff hpos (Dvd.intro_left _ (pow_succ ..).symm)
    push_cast at hround
    rw [mul_lt_mul_iff_left₀ (hunit k), ← hround, Nat.pow_succ, Nat.add_mul]
    omega
  · have hfull := habove (by omega)
    refine iff_of_false ?_ ?_
    · have hround : 2 ^ f.fractionBits ≤ roundedQuotient scaled unit :=
        le_roundedQuotient hpos (by exact_mod_cast hfull)
      have hmore := Nat.mul_le_mul_right (2 ^ f.fractionBits) (show top + 2 ≤ k + 1 by omega)
      rw [Nat.add_mul k] at hmore
      omega
    · have hweight := f.two_mul_weight_le h
      have htopUnit := hunit top
      rw [hlast]
      nlinarith

end BinaryFormat

/-- Four bytes have a pattern for every double that is not finite and for every number below the
threshold. -/
theorem Double.exists_toSingle?_iff (x : Double) : (∃ pattern, x.toSingle? = some pattern) ↔
    (x.isFinite → BinaryFormat.double.number x.magnitude < 2 ^ 128 - 2 ^ 103) := by
  have hthreshold : BinaryFormat.single.threshold = 2 ^ 128 - 2 ^ 103 := by
    rw [BinaryFormat.threshold, minExponent_single, fractionBits_single]
    norm_num [BinaryFormat.single]
  rw [← hthreshold, BinaryFormat.number_eq_div,
    ← BinaryFormat.single.rounded_lt_infinity_iff (by decide) (Nat.two_pow_pos _)]
  have hclass := isFinite_iff x
  rw [toSingle?]
  by_cases hnan : x.isNaN
  · have hlarge := (isNaN_iff x).mp hnan
    rw [if_pos hnan]
    exact iff_of_true ⟨_,rfl⟩ fun hfinite => absurd (hclass.mp hfinite) hlarge.not_gt
  · by_cases hinfinite : x.isInfinite
    · have hlarge := (isInfinite_iff x).mp hinfinite
      rw [if_neg hnan, if_pos hinfinite]
      exact iff_of_true ⟨_,rfl⟩ fun hfinite => absurd (hclass.mp hfinite) hlarge.not_lt
    · have hfinite : x.isFinite := by
        rw [hclass]
        rw [isNaN_iff] at hnan
        rw [isInfinite_iff] at hinfinite
        omega
      rw [if_neg hnan, if_neg hinfinite, forall_prop_of_true hfinite]
      dsimp only
      split
      · next hroom => exact iff_of_true ⟨_,rfl⟩ hroom
      · next hroom =>
        refine iff_of_false ?_ hroom
        rintro ⟨_,⟨⟩⟩

/-- An integer has a double only below the number halfway between the greatest finite double and the power of
two behind it. -/
theorem Double.ofInt?_eq_none_iff (n : ℤ) : ofInt? n = none ↔ 2 ^ 1024 - 2 ^ 970 ≤ (n.natAbs : ℚ) := by
  have hthreshold : BinaryFormat.double.threshold = 2 ^ 1024 - 2 ^ 970 := by
    have hexponent : BinaryFormat.double.minExponent +
        (2 ^ BinaryFormat.double.exponentBits - 3 : ℤ) = (971 : ℕ) := rfl
    have hfraction : BinaryFormat.double.fractionBits = 52 := rfl
    have hpower : (2 : ℚ) ^ 1024 = 2 ^ 54 * 2 ^ 970 := by rw [← pow_add]
    have hlast : (2 : ℚ) ^ 971 = 2 * 2 ^ 970 := pow_succ' 2 970
    rw [BinaryFormat.threshold, hexponent, hfraction, zpow_natCast, hpower, hlast]
    generalize (2 : ℚ) ^ 970 = unit
    ring
  have hround : BinaryFormat.double.rounded n.natAbs 1 < BinaryFormat.double.infinity ↔
      (n.natAbs : ℚ) / (1 : ℕ) < BinaryFormat.double.threshold :=
    BinaryFormat.double.rounded_lt_infinity_iff (by decide) Nat.one_pos
  rw [hthreshold, Nat.cast_one, div_one] at hround
  have hbelow : min (BinaryFormat.double.rounded n.natAbs 1) BinaryFormat.double.infinity <
      BinaryFormat.double.signBit := (min_le_right _ _).trans_lt (by decide)
  have hfinite : (ofRatio (n < 0) n.natAbs 1).isFinite ↔ (n.natAbs : ℚ) < 2 ^ 1024 - 2 ^ 970 := by
    rw [isFinite_iff, ofRatio, magnitude_ofMagnitude _ hbelow, min_lt_iff, or_iff_left (lt_irrefl _)]
    exact hround
  rw [ofInt?, ← not_lt, ← hfinite]
  simp

end SealedRows
