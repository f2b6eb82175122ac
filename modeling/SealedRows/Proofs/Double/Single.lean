import SealedRows.Proofs.Double.Rounding

/-! # Doubles that four bytes hold

Four bytes hold an infinity, a quiet pattern without a number whose payload has at most twenty-two
bits, and every integer of at most twenty-four bits times a power of two between `2 ^ (-149)` and
`2 ^ 104`. Such a double comes back from its four bytes as it was, and no other is read from four bytes.
Four bytes with a number are written again as they were read.
-/
namespace SealedRows

/-- A format holds every integer that has no more bits than it, in the weights that it has. -/
theorem BinaryFormat.exists_number (f : BinaryFormat) (k : ℕ) {m : ℕ}
    (hm : m < 2 ^ (f.fractionBits + 1)) :
    ∃ magnitude < (k + 2) * 2 ^ f.fractionBits, f.number magnitude = m * 2 ^ (f.minExponent + k) := by
  rw [Nat.pow_succ] at hm
  induction k generalizing m with
  | zero =>
    rcases Nat.lt_or_ge m (2 ^ f.fractionBits) with hlt | hge
    · exact ⟨m,by omega,by simp [f.number_of_lt hlt]⟩
    · have hr : m - 2 ^ f.fractionBits < 2 ^ f.fractionBits := by omega
      refine ⟨(0 + 1) * 2 ^ f.fractionBits + (m - 2 ^ f.fractionBits),by omega,?_⟩
      rw [f.number_of_fields 0 hr, Nat.add_sub_cancel' hge]
  | succ k ih =>
    rcases Nat.lt_or_ge m (2 ^ f.fractionBits) with hlt | hge
    · obtain ⟨magnitude,hmagnitude,hnumber⟩ := ih (m := m * 2) (by omega)
      refine ⟨magnitude,hmagnitude.trans_le (Nat.mul_le_mul_right _ (by omega)),?_⟩
      have hweight : f.minExponent + ((k + 1 : ℕ) : ℤ) = f.minExponent + k + 1 := by push_cast; ring
      rw [hnumber, hweight, zpow_add_one₀ (by norm_num)]
      push_cast
      ring
    · have hr : m - 2 ^ f.fractionBits < 2 ^ f.fractionBits := by omega
      refine ⟨(k + 1 + 1) * 2 ^ f.fractionBits + (m - 2 ^ f.fractionBits),?_,?_⟩
      · rw [Nat.add_mul (k + 1 + 1) 1]
        omega
      · rw [f.number_of_fields (k + 1) hr, Nat.add_sub_cancel' hge]

namespace Double
open BinaryFormat

def IsSingle (x : Double) : Prop :=
  x.isInfinite ∨
  (∃ payload < 2 ^ 22, x.magnitude = double.infinity + 2 ^ 51 + payload * 2 ^ 29) ∨
  (x.isFinite ∧ ∃ (m : ℕ) (e : ℤ), m < 2 ^ 24 ∧ -149 ≤ e ∧ e ≤ 104 ∧
    double.number x.magnitude = m * 2 ^ e)

theorem signBit_double : double.signBit = 2 ^ 63 := rfl
theorem signBit_single : single.signBit = 2 ^ 31 := rfl
theorem infinity_double : double.infinity = 2047 * 2 ^ 52 := rfl
theorem infinity_single : single.infinity = 255 * 2 ^ 23 := rfl
theorem fractionBits_single : single.fractionBits = 23 := rfl
theorem minExponent_single : single.minExponent = -149 := rfl

theorem isFinite_iff (x : Double) : x.isFinite ↔ x.magnitude < double.infinity := by
  simp only [isFinite, decide_eq_true_eq]

theorem isInfinite_iff (x : Double) : x.isInfinite ↔ x.magnitude = double.infinity := by
  simp only [isInfinite, decide_eq_true_eq]

theorem isNaN_iff (x : Double) : x.isNaN ↔ double.infinity < x.magnitude := by
  simp only [isNaN, decide_eq_true_eq]

theorem ofMagnitude_self (x : Double) : ofMagnitude x.isNegative x.magnitude = x := by
  rcases x with ⟨bits⟩
  have hbits := bits.toNat_lt
  have hsum : (if isNegative ⟨bits⟩ then double.signBit else 0) + magnitude ⟨bits⟩ = bits.toNat := by
    simp only [isNegative, magnitude, decide_eq_true_eq]
    by_cases h : double.signBit ≤ bits.toNat
    · rw [if_pos h]
      rw [signBit_double] at h ⊢
      omega
    · rw [if_neg h]
      rw [signBit_double] at h ⊢
      omega
  rw [ofMagnitude, hsum, UInt64.ofNat_toNat]

/-- Whether four bytes with a sign and a magnitude are read as negative. -/
theorem sign_of_single (negative : Bool) {a : ℕ} (ha : a < single.signBit) :
    decide (single.signBit ≤
      ((if negative then single.signBit else 0) + a) % (2 * single.signBit)) = negative := by
  cases negative with
  | false =>
    simp only [Bool.false_eq_true, if_false, Nat.zero_add]
    rw [Nat.mod_eq_of_lt (by omega), decide_eq_false ha.not_ge]
  | true =>
    simp only [if_true]
    rw [Nat.mod_eq_of_lt (by omega), decide_eq_true (Nat.le_add_right _ _)]

theorem magnitude_of_single (negative : Bool) {a : ℕ} (ha : a < single.signBit) :
    ((if negative then single.signBit else 0) + a) % single.signBit = a := by
  split
  · rw [Nat.add_mod_left, Nat.mod_eq_of_lt ha]
  · rw [Nat.zero_add, Nat.mod_eq_of_lt ha]

/-- How four bytes with a sign and a magnitude are read. -/
theorem ofSingle_signed (negative : Bool) {a : ℕ} (ha : a < single.signBit) :
    ofSingle ((if negative then single.signBit else 0) + a) =
      if a = single.infinity then infinite negative
      else if single.infinity < a then
        ofMagnitude negative (double.infinity + 2 ^ 51 + (a - single.infinity) % 2 ^ 22 * 2 ^ 29)
      else ofRatio negative ((single.parts a).1 * 2 ^ (single.parts a).2.toNat)
        (2 ^ (-(single.parts a).2).toNat) := by
  simp only [ofSingle, sign_of_single negative ha, magnitude_of_single negative ha]

/-- A number that both formats hold is read from four bytes as the double of that number. -/
theorem ofSingle_of_number {x : Double} (hx : x.isFinite) {a : ℕ} (ha : a < single.infinity)
    (h : double.number x.magnitude = single.number a) :
    ofSingle ((if x.isNegative then single.signBit else 0) + a) = x := by
  have ha' : a < single.signBit := ha.trans (by decide)
  have hfinite := (isFinite_iff x).mp hx
  have hrounded : double.rounded ((single.parts a).1 * 2 ^ (single.parts a).2.toNat)
      (2 ^ (-(single.parts a).2).toNat) = x.magnitude :=
    double.rounded_eq_of_number (Nat.two_pow_pos _) (by rw [h, number_eq_div])
  rw [ofSingle_signed _ ha', if_neg ha.ne, if_neg ha.not_gt, ofRatio, hrounded,
    Nat.min_eq_left hfinite.le, ofMagnitude_self]

theorem toSingle?_of_number {x : Double} (hx : x.isFinite) {a : ℕ} (ha : a < single.infinity)
    (h : double.number x.magnitude = single.number a) :
    x.toSingle? = some ((if x.isNegative then single.signBit else 0) + a) := by
  have hfinite := (isFinite_iff x).mp hx
  have hrounded : single.rounded ((double.parts x.magnitude).1 * 2 ^ (double.parts x.magnitude).2.toNat)
      (2 ^ (-(double.parts x.magnitude).2).toNat) = a :=
    single.rounded_eq_of_number (Nat.two_pow_pos _) (by rw [← h, number_eq_div])
  have hnan : ¬x.isNaN := fun hn => hfinite.not_gt ((isNaN_iff x).mp hn)
  have hinfinite : ¬x.isInfinite := fun hi => hfinite.ne ((isInfinite_iff x).mp hi)
  simp only [toSingle?, if_neg hnan, if_neg hinfinite, hrounded, if_pos ha]

/-- Four bytes have a number below `2 ^ 32`. -/
theorem toSingle?_lt {x : Double} {pattern : ℕ} (h : x.toSingle? = some pattern) :
    pattern < 2 ^ 32 := by
  have hsign : (if x.isNegative then single.signBit else 0) ≤ 2 ^ 31 := by
    split
    · exact signBit_single.le
    · exact Nat.zero_le _
  have hinfinity := infinity_single
  simp only [toSingle?] at h
  split at h
  · cases h
    omega
  · split at h
    · cases h
      omega
    · split at h
      · cases h
        omega
      · cases h

theorem toSingle?_of_isInfinite {x : Double} (h : x.isInfinite) :
    x.toSingle? = some ((if x.isNegative then single.signBit else 0) + single.infinity) := by
  have hmagnitude := (isInfinite_iff x).mp h
  have hnan : ¬x.isNaN := fun hn => ((isNaN_iff x).mp hn).ne hmagnitude.symm
  simp only [toSingle?, if_neg hnan, if_pos h]

theorem ofSingle_infinite {x : Double} (h : x.isInfinite) :
    ∃ pattern, x.toSingle? = some pattern ∧ ofSingle pattern = x := by
  have hbound : single.infinity < single.signBit := by decide
  refine ⟨_,toSingle?_of_isInfinite h,?_⟩
  rw [ofSingle_signed _ hbound, if_pos rfl, infinite, ← (isInfinite_iff x).mp h, ofMagnitude_self]

theorem ofSingle_nan {x : Double} {payload : ℕ} (hp : payload < 2 ^ 22)
    (hmagnitude : x.magnitude = double.infinity + 2 ^ 51 + payload * 2 ^ 29) :
    ∃ pattern, x.toSingle? = some pattern ∧ ofSingle pattern = x := by
  have hnan : x.isNaN := (isNaN_iff x).mpr (by omega)
  have hquiet : (x.magnitude - double.infinity) / 2 ^ 29 % 2 ^ 22 = payload := by
    rw [hmagnitude]
    omega
  generalize hi : single.infinity = infinity
  have hbound : infinity + (payload + 2 ^ 22) < single.signBit := by
    rw [← hi, infinity_single, signBit_single]
    omega
  have hread : (infinity + (payload + 2 ^ 22) - infinity) % 2 ^ 22 = payload := by
    rw [Nat.add_sub_cancel_left, Nat.add_mod_right, Nat.mod_eq_of_lt hp]
  refine ⟨(if x.isNegative then single.signBit else 0) + (infinity + (payload + 2 ^ 22)),?_,?_⟩
  · simp only [toSingle?, if_pos hnan, hquiet, hi, Nat.add_assoc]
  · rw [ofSingle_signed _ hbound, hi, if_neg (by omega), if_pos (by omega), hread, ← hmagnitude,
      ofMagnitude_self]

theorem ofSingle_finite {x : Double} (hx : x.isFinite) {m : ℕ} {e : ℤ} (hm : m < 2 ^ 24)
    (hlow : -149 ≤ e) (hhigh : e ≤ 104) (h : double.number x.magnitude = m * 2 ^ e) :
    ∃ pattern, x.toSingle? = some pattern ∧ ofSingle pattern = x := by
  obtain ⟨a,ha,hsingle⟩ := single.exists_number (e + 149).toNat (m := m)
    (by rw [fractionBits_single]; exact hm)
  have hweight : single.minExponent + ((e + 149).toNat : ℤ) = e := by
    rw [minExponent_single]
    omega
  have hsame : double.number x.magnitude = single.number a := by rw [h, hsingle, hweight]
  have hbound : a < single.infinity := by
    rw [fractionBits_single] at ha
    rw [infinity_single]
    exact ha.trans_le (Nat.mul_le_mul_right _ (by omega))
  exact ⟨_,toSingle?_of_number hx hbound hsame,ofSingle_of_number hx hbound hsame⟩

/-- A double that four bytes hold is read from them as it was. -/
theorem IsSingle.ofSingle_toSingle? {x : Double} (hx : x.IsSingle) :
    ∃ pattern, x.toSingle? = some pattern ∧ ofSingle pattern = x := by
  rcases hx with hinfinite | ⟨payload,hp,hmagnitude⟩ | ⟨hfinite,m,e,hm,hlow,hhigh,hnumber⟩
  · exact ofSingle_infinite hinfinite
  · exact ofSingle_nan hp hmagnitude
  · exact ofSingle_finite hfinite hm hlow hhigh hnumber

theorem toNat_ofMagnitude (negative : Bool) {a : ℕ} (ha : a < double.signBit) :
    (ofMagnitude negative a).bits.toNat = (if negative then double.signBit else 0) + a := by
  have hsign := signBit_double
  rw [ofMagnitude, UInt64.toNat_ofNat', Nat.mod_eq_of_lt]
  split <;> omega

theorem magnitude_ofMagnitude (negative : Bool) {a : ℕ} (ha : a < double.signBit) :
    (ofMagnitude negative a).magnitude = a := by
  rw [magnitude, toNat_ofMagnitude negative ha]
  split
  · rw [Nat.add_mod_left, Nat.mod_eq_of_lt ha]
  · rw [Nat.zero_add, Nat.mod_eq_of_lt ha]

theorem isNegative_ofMagnitude (negative : Bool) {a : ℕ} (ha : a < double.signBit) :
    (ofMagnitude negative a).isNegative = negative := by
  rw [isNegative, toNat_ofMagnitude negative ha]
  cases negative with
  | false => simpa using ha
  | true => simp

theorem parts_single {a : ℕ} (ha : a < single.infinity) :
    (single.parts a).1 < 2 ^ 24 ∧ -149 ≤ (single.parts a).2 ∧ (single.parts a).2 ≤ 104 := by
  rw [infinity_single] at ha
  have hfraction : a % 2 ^ 23 < 2 ^ 23 := Nat.mod_lt _ (by decide)
  have hexponent : a / 2 ^ 23 < 255 := Nat.div_lt_of_lt_mul (by omega)
  unfold parts
  rw [fractionBits_single, minExponent_single]
  dsimp only
  split
  · dsimp only
    omega
  · dsimp only
    omega

/-- A double holds every number that four bytes hold. -/
theorem rounded_of_single {m : ℕ} {e : ℤ} (hm : m < 2 ^ 24) (hlow : -149 ≤ e) (hhigh : e ≤ 104) :
    double.rounded (m * 2 ^ e.toNat) (2 ^ (-e).toNat) < double.infinity ∧
      double.number (double.rounded (m * 2 ^ e.toNat) (2 ^ (-e).toNat)) = m * 2 ^ e := by
  have hfraction : double.fractionBits = 52 := rfl
  have hleast : double.minExponent = -1074 := rfl
  obtain ⟨b,hb,hnumber⟩ := double.exists_number (e + 1074).toNat (m := m)
    (hm.trans (by rw [hfraction]; decide))
  have hweight : double.minExponent + ((e + 1074).toNat : ℤ) = e := by
    rw [hleast]
    omega
  rw [hweight] at hnumber
  have hquotient : ((m * 2 ^ e.toNat : ℕ) : ℚ) / (2 ^ (-e).toNat : ℕ) = double.number b := by
    rw [hnumber, two_zpow_eq_div]
    push_cast
    ring
  rw [double.rounded_eq_of_number (Nat.two_pow_pos _) hquotient]
  refine ⟨?_,hnumber⟩
  rw [hfraction] at hb
  rw [infinity_double]
  exact hb.trans_le (Nat.mul_le_mul_right _ (by omega))

/-- What is read from four bytes is held by four bytes. -/
theorem isSingle_ofSingle (pattern : ℕ) : (ofSingle pattern).IsSingle := by
  have hsign := signBit_double
  have hinfinity := infinity_double
  simp only [ofSingle]
  generalize decide (single.signBit ≤ pattern % (2 * single.signBit)) = negative
  generalize pattern % single.signBit = a
  split
  · refine Or.inl ((isInfinite_iff _).mpr ?_)
    exact magnitude_ofMagnitude negative (by omega)
  · split
    · have hpayload : (a - single.infinity) % 2 ^ 22 < 2 ^ 22 := Nat.mod_lt _ (by decide)
      exact Or.inr (Or.inl ⟨_,hpayload,magnitude_ofMagnitude negative (by omega)⟩)
    · rename_i hne hle
      obtain ⟨hm,hlow,hhigh⟩ := parts_single (show a < single.infinity by omega)
      obtain ⟨hfinite,hnumber⟩ := rounded_of_single hm hlow hhigh
      have hmagnitude := magnitude_ofMagnitude negative (hfinite.trans (by omega))
      rw [ofRatio, Nat.min_eq_left hfinite.le]
      refine Or.inr (Or.inr ⟨(isFinite_iff _).mpr ?_,_,_,hm,hlow,hhigh,?_⟩)
      · rw [hmagnitude]
        exact hfinite
      · rw [hmagnitude, hnumber]

/-- Four bytes are a sign and a magnitude. -/
theorem exists_single {pattern : ℕ} (h : pattern < 2 ^ 32) :
    ∃ (negative : Bool) (a : ℕ), a < single.signBit ∧
      pattern = (if negative then single.signBit else 0) + a := by
  have hsign := signBit_single
  by_cases hneg : single.signBit ≤ pattern
  · exact ⟨true,pattern - single.signBit,by omega,by rw [if_pos rfl]; omega⟩
  · exact ⟨false,pattern,by omega,by rw [if_neg Bool.false_ne_true, Nat.zero_add]⟩

/-- Four bytes with a number are written again as they were read. -/
theorem toSingle?_ofSingle {pattern : ℕ} (hpattern : pattern < 2 ^ 32)
    (hnumber : pattern % single.signBit ≤ single.infinity) :
    (ofSingle pattern).toSingle? = some pattern := by
  have hroom : double.infinity < double.signBit := by
    have hsign := signBit_double
    have hinfinity := infinity_double
    omega
  obtain ⟨negative,a,ha,rfl⟩ := exists_single hpattern
  rw [magnitude_of_single negative ha] at hnumber
  rw [ofSingle_signed negative ha]
  rcases hnumber.eq_or_lt with rfl | hlt
  · have hinfinite : (infinite negative).isInfinite :=
      (isInfinite_iff _).mpr (magnitude_ofMagnitude negative hroom)
    rw [if_pos rfl, toSingle?_of_isInfinite hinfinite, infinite, isNegative_ofMagnitude negative hroom]
  · obtain ⟨hm,hlow,hhigh⟩ := parts_single hlt
    obtain ⟨hfinite,hvalue⟩ := rounded_of_single hm hlow hhigh
    rw [if_neg hlt.ne, if_neg hlt.not_gt, ofRatio, Nat.min_eq_left hfinite.le]
    generalize double.rounded _ _ = b at hfinite hvalue
    have hb : b < double.signBit := hfinite.trans hroom
    have hmagnitude := magnitude_ofMagnitude negative hb
    have hsame : double.number (ofMagnitude negative b).magnitude = single.number a := by
      rw [hmagnitude, hvalue, number]
    rw [toSingle?_of_number ((isFinite_iff _).mpr (by rw [hmagnitude]; exact hfinite)) hlt hsame,
      isNegative_ofMagnitude negative hb]

end Double
end SealedRows
