import SealedRows.Proofs.Decimal.Order
import SealedRows.Proofs.Double.Neighbourhood

/-! # The shortest form lies near

A grid of decimal numbers that is finer than the distance from a magnitude to the end of its neighbourhood
has a point in the neighbourhood, and eighteen places from the first digit downwards there is such a grid.
The number found on the way lies in the neighbourhood, whichever grid it is found on.
-/
namespace SealedRows.Double
open BinaryFormat Decimal

namespace Neighbourhood
variable (h : Neighbourhood)

/-- An integer in the weight of a neighbourhood, multiplied out against a grid. -/
def scaled (place : ℤ) (a : ℕ) : ℕ := a * (2 ^ h.exponent.toNat * 10 ^ (-place).toNat)

/-- An integer on a grid, multiplied out against the weight of a neighbourhood. -/
def gridded (place : ℤ) (d : ℕ) : ℕ := d * (2 ^ (-h.exponent).toNat * 10 ^ place.toNat)

theorem scaled_le_gridded (place : ℤ) (a d : ℕ) :
    h.scaled place a ≤ h.gridded place d ↔ (a : ℚ) * 2 ^ h.exponent ≤ size d place := by
  rw [size, two_zpow_eq_div, ten_zpow_eq_div, mul_div_assoc', mul_div_assoc',
    div_le_div_iff₀ (by positivity) (by positivity), scaled, gridded, ← Nat.cast_le (α := ℚ)]
  push_cast
  rw [mul_assoc, mul_assoc, mul_comm ((10 : ℚ) ^ place.toNat)]

theorem gridded_le_scaled (place : ℤ) (a d : ℕ) :
    h.gridded place d ≤ h.scaled place a ↔ size d place ≤ (a : ℚ) * 2 ^ h.exponent := by
  rw [size, two_zpow_eq_div, ten_zpow_eq_div, mul_div_assoc', mul_div_assoc',
    div_le_div_iff₀ (by positivity) (by positivity), scaled, gridded, ← Nat.cast_le (α := ℚ)]
  push_cast
  rw [mul_assoc, mul_assoc, mul_comm ((10 : ℚ) ^ place.toNat)]

theorem scaled_lt_gridded (place : ℤ) (a d : ℕ) :
    h.scaled place a < h.gridded place d ↔ (a : ℚ) * 2 ^ h.exponent < size d place := by
  rw [← not_le, ← not_le, gridded_le_scaled]

theorem gridded_lt_scaled (place : ℤ) (a d : ℕ) :
    h.gridded place d < h.scaled place a ↔ size d place < (a : ℚ) * 2 ^ h.exponent := by
  rw [← not_le, ← not_le, scaled_le_gridded]

def contains (place : ℤ) (d : ℕ) : Bool :=
  if h.closed then h.scaled place h.lower ≤ h.gridded place d && h.gridded place d ≤ h.scaled place h.upper
  else h.scaled place h.lower < h.gridded place d && h.gridded place d < h.scaled place h.upper

theorem contains_iff (place : ℤ) (d : ℕ) : h.contains place d ↔ h.Holds (size d place) := by
  rw [contains, Holds]
  cases h.closed with
  | false =>
    simp only [Bool.false_eq_true, if_false, Bool.and_eq_true, decide_eq_true_eq, scaled_lt_gridded,
      gridded_lt_scaled, Between]
  | true =>
    simp only [if_true, Bool.and_eq_true, decide_eq_true_eq, scaled_le_gridded, gridded_le_scaled, Between]

def below (place : ℤ) : ℕ := h.scaled place h.value / (2 ^ (-h.exponent).toNat * 10 ^ place.toNat)

theorem size_below (place : ℤ) : size (h.below place) place ≤ h.value * 2 ^ h.exponent ∧
    h.value * 2 ^ h.exponent < size (h.below place) place + 10 ^ place := by
  have hunit : 0 < 2 ^ (-h.exponent).toNat * 10 ^ place.toNat := by positivity
  constructor
  · rw [← gridded_le_scaled]
    exact Nat.div_mul_le_self _ _
  · have hnext : size (h.below place) place + 10 ^ place = size (h.below place + 1) place := by
      simp only [size]
      push_cast
      ring
    rw [hnext, ← scaled_lt_gridded]
    exact (Nat.div_lt_iff_lt_mul hunit).mp (Nat.lt_succ_self _)

theorem onGrid?_eq (place : ℤ) : h.onGrid? place =
    let d := h.below place
    let down := h.scaled place h.value - h.gridded place d
    let up := h.gridded place (d + 1) - h.scaled place h.value
    if h.contains place d && (!h.contains place (d + 1) || down < up || (down = up && d % 2 = 0)) then some d
    else if h.contains place (d + 1) then some (d + 1) else none := rfl

theorem holds_of_onGrid? {place : ℤ} {d : ℕ} (hd : h.onGrid? place = some d) : h.Holds (size d place) := by
  rw [← contains_iff]
  rw [onGrid?_eq] at hd
  dsimp only at hd
  split at hd
  · next hbelow =>
    cases hd
    exact (Bool.and_eq_true_iff.mp hbelow).1
  · split at hd
    · next habove =>
      cases hd
      exact habove
    · cases hd

theorem isSome_onGrid? {place : ℤ} (hbelow : h.Holds (size (h.below place) place)) :
    (h.onGrid? place).isSome := by
  rw [← contains_iff] at hbelow
  rw [onGrid?_eq]
  dsimp only
  -- Where the point below is passed over, the point above is inside.
  cases habove : h.contains place (h.below place + 1) with
  | false => simp [hbelow]
  | true => split <;> simp

/-- A grid finer than the distance to the lower end meets the neighbourhood. -/
theorem isSome_onGrid?_of_fine {place : ℤ} (hupper : h.value < h.upper)
    (hfine : h.lower * 2 ^ h.exponent + 10 ^ place ≤ (h.value : ℚ) * 2 ^ h.exponent) :
    (h.onGrid? place).isSome := by
  have hweight : (0 : ℚ) < 2 ^ h.exponent := zpow_pos (by norm_num) _
  obtain ⟨hle,hlt⟩ := h.size_below place
  apply h.isSome_onGrid?
  apply Between.of_lt
  · linarith
  · exact hle.trans_lt (mul_lt_mul_of_pos_right (by exact_mod_cast hupper) hweight)

/-- The number that is found lies in the neighbourhood if the last grid that is tried meets it. -/
theorem holds_firstGrid {fuel : ℕ} {place : ℤ} (hlast : (h.onGrid? (place - fuel)).isSome) :
    h.Holds (size (h.firstGrid (fuel + 1) place).1 (h.firstGrid (fuel + 1) place).2) := by
  induction fuel generalizing place with
  | zero =>
    rw [Nat.cast_zero, sub_zero] at hlast
    obtain ⟨d,hd⟩ := Option.isSome_iff_exists.mp hlast
    rw [firstGrid, hd]
    exact h.holds_of_onGrid? hd
  | succ fuel ih =>
    rw [firstGrid]
    cases hd : h.onGrid? place with
    | some d => exact h.holds_of_onGrid? hd
    | none =>
      apply ih
      rw [sub_sub, add_comm (1 : ℤ)]
      exact_mod_cast hlast

end Neighbourhood

/-! ## The place of the first digit -/

theorem ten_zpow_floorLog10_le {num den : ℕ} (hn : 0 < num) (hd : 0 < den) :
    (10 : ℚ) ^ floorLog10 num den ≤ num / den := by
  have hnq : (0 : ℚ) < num := by exact_mod_cast hn
  have hdq : (0 : ℚ) < den := by exact_mod_cast hd
  rw [floorLog10]
  split
  · next hle =>
    have hpos : num / den ≠ 0 := (Nat.div_pos hle hd).ne'
    obtain ⟨k,hlength,hlow,-⟩ := Text.pow_length_digits hpos
    rw [hlength, Nat.cast_add, Nat.cast_one, add_sub_cancel_right, zpow_natCast, le_div_iff₀ hdq]
    exact_mod_cast (Nat.mul_le_mul_right den hlow).trans (Nat.div_mul_le_self num den)
  · next hlt =>
    -- The reciprocal, rounded upwards, is one more than a number of as many digits.
    have hceil : den ≤ (den + num - 1) / num * num := by
      have hdiv := Nat.div_add_mod (den + num - 1) num
      have hmod := Nat.mod_lt (den + num - 1) hn
      rw [Nat.mul_comm] at hdiv
      omega
    have htwo : 2 ≤ (den + num - 1) / num := by
      by_contra hsmall
      have hone := Nat.mul_le_mul_right num (show (den + num - 1) / num ≤ 1 by omega)
      omega
    obtain ⟨k,hlength,-,hhigh⟩ := Text.pow_length_digits (show (den + num - 1) / num - 1 ≠ 0 by omega)
    have hpower : den ≤ 10 ^ (k + 1) * num :=
      hceil.trans (Nat.mul_le_mul_right num (by omega))
    rw [hlength, zpow_neg, zpow_natCast, le_div_iff₀ hdq, inv_mul_le_iff₀ (by positivity)]
    exact_mod_cast hpower

theorem size_withoutLastZeros (d : ℕ) (place : ℤ) :
    size (withoutLastZeros d place).1 (withoutLastZeros d place).2 = size d place := by
  fun_induction withoutLastZeros d place with
  | case1 place => rfl
  | case2 d place hd hten ih =>
    have hexact : ((d / 10 : ℕ) : ℚ) * 10 = d := by
      exact_mod_cast Nat.div_mul_cancel (Nat.dvd_of_mod_eq_zero hten)
    rw [ih, size, size, zpow_add_one₀ (by norm_num), ← hexact]
    ring
  | case3 d place hd hten => rfl

/-- The integers of a neighbourhood, in fourths of fifty-three bits. -/
theorem neighbourhood_bounds {magnitude : ℕ} (hmagnitude : magnitude ≠ 0) :
    0 < (neighbourhood magnitude).lower ∧ (neighbourhood magnitude).lower < (neighbourhood magnitude).value ∧
    (neighbourhood magnitude).value < (neighbourhood magnitude).upper ∧
    (neighbourhood magnitude).upper ≤ 2 ^ 55 := by
  obtain ⟨j,m,hparts,-,hm,-,hpos⟩ := double.parts_eq magnitude
  have hfraction : double.fractionBits = 52 := rfl
  have hpos := hpos hmagnitude
  rw [hfraction] at hm
  simp only [neighbourhood, hparts]
  split <;> omega

/-- The shortest form of a magnitude lies in its neighbourhood. -/
theorem holds_shortest {magnitude : ℕ} (hmagnitude : magnitude ≠ 0) :
    (neighbourhood magnitude).Holds (size (shortest magnitude).1 (shortest magnitude).2) := by
  obtain ⟨-,hlower,hupper,hbits⟩ := neighbourhood_bounds hmagnitude
  rw [shortest]
  dsimp only
  generalize neighbourhood magnitude = h at hlower hupper hbits ⊢
  have hweight : (0 : ℚ) < 2 ^ h.exponent := zpow_pos (by norm_num) _
  have htop : (10 : ℚ) ^ floorLog10 (h.value * 2 ^ h.exponent.toNat) (2 ^ (-h.exponent).toNat) ≤
      h.value * 2 ^ h.exponent := by
    have hvalue : 0 < h.value := by omega
    have hquotient : (h.value : ℚ) * 2 ^ h.exponent =
        (h.value * 2 ^ h.exponent.toNat : ℕ) / (2 ^ (-h.exponent).toNat : ℕ) := by
      rw [two_zpow_eq_div]
      push_cast
      ring
    rw [hquotient]
    exact ten_zpow_floorLog10_le (by positivity) (by positivity)
  generalize floorLog10 (h.value * 2 ^ h.exponent.toNat) (2 ^ (-h.exponent).toNat) = top at htop ⊢
  rw [size_withoutLastZeros]
  apply h.holds_firstGrid
  apply h.isSome_onGrid?_of_fine hupper
  -- Fifty-five bits are less than seventeen digits.
  have hfine : (10 : ℚ) ^ (top - (17 : ℕ)) ≤ 2 ^ h.exponent := by
    have hvalue : (h.value : ℚ) ≤ 10 ^ 17 := by
      have : h.value ≤ 10 ^ 17 := by omega
      exact_mod_cast this
    rw [zpow_sub₀ (by norm_num), zpow_natCast, div_le_iff₀ (by norm_num)]
    calc (10 : ℚ) ^ top ≤ h.value * 2 ^ h.exponent := htop
      _ ≤ 10 ^ 17 * 2 ^ h.exponent := mul_le_mul_of_nonneg_right hvalue hweight.le
      _ = 2 ^ h.exponent * 10 ^ 17 := mul_comm _ _
  have hnext : (h.lower : ℚ) + 1 ≤ h.value := by exact_mod_cast hlower
  nlinarith

/-- The shortest form of a magnitude is rounded to it, however it is written as a quotient. -/
theorem rounded_shortest {magnitude num den : ℕ} (hmagnitude : magnitude ≠ 0) (hd : 0 < den)
    (h : (num : ℚ) / den = size (shortest magnitude).1 (shortest magnitude).2) :
    double.rounded num den = magnitude := by
  apply rounded_of_holds hmagnitude hd
  rw [h]
  exact holds_shortest hmagnitude

theorem two_zpow_le_ten_zpow {k : ℤ} (hk : 0 ≤ k) : (2 : ℚ) ^ (3 * k) ≤ 10 ^ k := by
  rw [zpow_mul]
  exact zpow_le_zpow_left₀ hk (by norm_num) (by norm_num)

/-- The shortest form of a finite magnitude lies in the range where powers of ten are computed. -/
theorem size_shortest_bounds {magnitude : ℕ} (hmagnitude : magnitude ≠ 0)
    (hfinite : magnitude < double.infinity) :
    (10 : ℚ) ^ (-400 : ℤ) < size (shortest magnitude).1 (shortest magnitude).2 ∧
      size (shortest magnitude).1 (shortest magnitude).2 < 10 ^ (400 : ℤ) := by
  obtain ⟨hpos,-,-,hbits⟩ := neighbourhood_bounds hmagnitude
  have hrange : -1076 ≤ (neighbourhood magnitude).exponent ∧ (neighbourhood magnitude).exponent ≤ 969 := by
    obtain ⟨j,m,hparts,hsum,hm,hfull,-⟩ := double.parts_eq magnitude
    have hfraction : double.fractionBits = 52 := rfl
    have hleast : double.minExponent = -1074 := rfl
    have hinfinity := infinity_double
    rw [hfraction] at hsum hm hfull
    simp only [neighbourhood, hparts, hleast]
    omega
  obtain ⟨hlow,hhigh⟩ := (holds_shortest hmagnitude).le
  generalize neighbourhood magnitude = h at hpos hbits hrange hlow hhigh
  generalize size (shortest magnitude).1 (shortest magnitude).2 = q at hlow hhigh ⊢
  have hlower : (1 : ℚ) ≤ h.lower := by exact_mod_cast hpos
  have hupper : (h.upper : ℚ) ≤ 2 ^ (55 : ℤ) := by exact_mod_cast hbits
  have hleast : (2 : ℚ) ^ (-1076 : ℤ) ≤ 2 ^ h.exponent := zpow_le_zpow_right₀ (by norm_num) hrange.1
  have hmost : (2 : ℚ) ^ h.exponent ≤ 2 ^ (969 : ℤ) := zpow_le_zpow_right₀ (by norm_num) hrange.2
  have hten : (2 : ℚ) ^ (1200 : ℤ) ≤ 10 ^ (400 : ℤ) := two_zpow_le_ten_zpow (k := 400) (by norm_num)
  constructor
  · calc (10 : ℚ) ^ (-400 : ℤ) ≤ 2 ^ (-1200 : ℤ) := by
          rw [zpow_neg, zpow_neg]
          exact inv_anti₀ (zpow_pos (by norm_num) _) hten
      _ < 2 ^ (-1076 : ℤ) := zpow_lt_zpow_right₀ (by norm_num) (by norm_num)
      _ ≤ 2 ^ h.exponent := hleast
      _ ≤ h.lower * 2 ^ h.exponent := le_mul_of_one_le_left (zpow_pos (by norm_num) _).le hlower
      _ ≤ q := hlow
  · calc q ≤ h.upper * 2 ^ h.exponent := hhigh
      _ ≤ 2 ^ (55 : ℤ) * 2 ^ (969 : ℤ) :=
        mul_le_mul hupper hmost (zpow_pos (by norm_num) _).le (zpow_pos (by norm_num) _).le
      _ = 2 ^ (1024 : ℤ) := (zpow_add₀ (by norm_num) _ _).symm
      _ < 2 ^ (1200 : ℤ) := zpow_lt_zpow_right₀ (by norm_num) (by norm_num)
      _ ≤ 10 ^ (400 : ℤ) := hten

end SealedRows.Double
