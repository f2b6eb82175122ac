import SealedRows.Proofs.Decimal.Order
import SealedRows.Proofs.Value.Key

/-! # Equality of exact numbers

Two decimals are equal exactly if they are the same number. The digits of a number without the zeros at
their end, and the power of ten of the last one, are known from the number.
-/
namespace SealedRows

theorem ExtendedRat.ofRat_ne_infinite (q : ℚ) (negative : Bool) : ofRat q ≠ infinite negative := by
  cases negative
  · exact (ofRat_lt_top q).ne
  · exact (bot_lt_ofRat q).ne'

namespace Decimal

theorem size_withoutTens (c : ℕ) (e : ℤ) : size (withoutTens c e).1 (withoutTens c e).2 = size c e := by
  fun_induction withoutTens c e with
  | case1 => simp [size]
  | case2 c e hc hten ih =>
    have hexact : ((c / 10 : ℕ) : ℚ) * 10 = c := by
      exact_mod_cast Nat.div_mul_cancel (Nat.dvd_of_mod_eq_zero hten)
    rw [ih, size, size, zpow_add_one₀ (by norm_num), ← hexact]
    ring
  | case3 c e hc hten => rfl

theorem withoutTens_zero (e : ℤ) : withoutTens 0 e = (0,0) := by
  rw [withoutTens, dif_pos rfl]

theorem withoutTens_mod_ten {c : ℕ} (hc : c ≠ 0) (e : ℤ) : (withoutTens c e).1 % 10 ≠ 0 := by
  fun_induction withoutTens c e with
  | case1 => exact absurd rfl hc
  | case2 c e hzero hten ih => exact ih (by omega)
  | case3 c e hzero hten => exact hten

theorem mul_eq_of_size_eq {c c' : ℕ} {e e' : ℤ} (h : size c e = size c' e') :
    c * 10 ^ (e - e').toNat = c' * 10 ^ (e' - e).toNat := by
  have hunit : (10 : ℚ) ^ min e e' ≠ 0 := zpow_ne_zero _ (by norm_num)
  rw [size_eq_scaled c e e', size_eq_scaled c' e' e, min_comm e' e] at h
  exact_mod_cast mul_right_cancel₀ hunit h

/-- A number whose last digit is not zero has no greater exponent in another form. -/
theorem exponent_le_of_size_eq {c c' : ℕ} {e e' : ℤ} (hc' : c' % 10 ≠ 0) (h : size c e = size c' e') :
    e ≤ e' := by
  by_contra hlt
  obtain ⟨k,hk⟩ : ∃ k, (e - e').toNat = k + 1 := ⟨(e - e').toNat - 1,by omega⟩
  have hnone : (e' - e).toNat = 0 := by omega
  have hmul := mul_eq_of_size_eq h
  rw [hk, hnone, Nat.pow_zero, Nat.mul_one, Nat.pow_succ, ← Nat.mul_assoc] at hmul
  exact hc' (by rw [← hmul, Nat.mul_mod_left])

theorem withoutTens_eq_of_size_eq {c c' : ℕ} {e e' : ℤ} (h : size c e = size c' e') :
    withoutTens c e = withoutTens c' e' := by
  have hzero : c = 0 ↔ c' = 0 := by rw [← size_eq_zero (e := e), h, size_eq_zero]
  by_cases hc : c = 0
  · rw [hc, hzero.mp hc, withoutTens_zero, withoutTens_zero]
  · have hdigit := withoutTens_mod_ten hc e
    have hdigit' := withoutTens_mod_ten (mt hzero.mpr hc) e'
    rw [← size_withoutTens c, ← size_withoutTens c'] at h
    generalize withoutTens c e = x at h hdigit
    generalize withoutTens c' e' = y at h hdigit'
    have hexponent : x.2 = y.2 :=
      le_antisymm (exponent_le_of_size_eq hdigit' h) (exponent_le_of_size_eq hdigit h.symm)
    have hmul := mul_eq_of_size_eq h
    rw [hexponent, Int.sub_self, Int.toNat_zero, Nat.pow_zero, Nat.mul_one, Nat.mul_one] at hmul
    exact Prod.ext hmul hexponent

/-- Equal decimals are the same number. -/
theorem extended?_of_sameAs {a b : Decimal} (h : a.sameAs b) :
    ∃ q, a.extended? = some q ∧ b.extended? = some q := by
  rcases a with ⟨n,c,e⟩ | n | _ <;> rcases b with ⟨n',c',e'⟩ | n' | _ <;> try cases h
  · obtain ⟨hdigits,hsign⟩ := sameAs_finite.mp h
    have hsize : size c e = size c' e' := by
      rw [← size_withoutTens, hdigits, size_withoutTens]
    refine ⟨_,rfl,?_⟩
    rw [extended?, number, number, hsize]
    rcases hsign with hzero | hsign
    · have hzero' : size c' e' = 0 := by rw [← hsize, size_eq_zero, hzero]
      rw [hzero', neg_zero, ite_self, ite_self]
    · rw [hsign]
  · simp only [sameAs, beq_iff_eq] at h
    subst h
    exact ⟨_,rfl,rfl⟩

/-- The size and the sign of a number are known from it, but for the sign of zero. -/
theorem size_eq_of_number_eq {n n' : Bool} {c c' : ℕ} {e e' : ℤ} (h : number n c e = number n' c' e') :
    size c e = size c' e' ∧ (c = 0 ∨ n = n') := by
  have hnonneg := size_nonneg c e
  have hnonneg' := size_nonneg c' e'
  rw [← size_eq_zero (e := e)]
  cases n <;> cases n' <;> simp only [number, Bool.false_eq_true, if_false, if_true] at h
  · exact ⟨h,.inr rfl⟩
  · exact ⟨by linarith,.inl (by linarith)⟩
  · exact ⟨by linarith,.inl (by linarith)⟩
  · exact ⟨neg_injective h,.inr rfl⟩

theorem sameAs_iff {a b : Decimal} {q r : ExtendedRat} (ha : a.extended? = some q)
    (hb : b.extended? = some r) : a.sameAs b ↔ q = r := by
  constructor
  · intro h
    obtain ⟨p,hp,hp'⟩ := extended?_of_sameAs h
    rw [ha] at hp
    rw [hb] at hp'
    exact Option.some_inj.mp (hp.trans hp'.symm)
  · rintro rfl
    rcases a with ⟨n,c,e⟩ | n | _ <;> rcases b with ⟨n',c',e'⟩ | n' | _ <;> cases ha
    · obtain ⟨hsize,hsign⟩ := size_eq_of_number_eq
        (ExtendedRat.strictMono_ofRat.injective (Option.some_inj.mp hb).symm)
      exact sameAs_finite.mpr ⟨withoutTens_eq_of_size_eq hsize,hsign⟩
    · exact absurd (Option.some_inj.mp hb).symm (ExtendedRat.ofRat_ne_infinite _ _)
    · cases hb
    · exact absurd (Option.some_inj.mp hb) (ExtendedRat.ofRat_ne_infinite _ _)
    · have hsign : n = n' := by
        cases n <;> cases n' <;> first | rfl | cases hb
      exact beq_iff_eq.mpr hsign
    · cases hb

end Decimal
end SealedRows
