import SealedRows.Text.Utf16

/-! # Texts read back from sixteen-bit units

Every text has a sequence of units. What is read back from it is the text again, but a high surrogate
and a low one behind it are read as the character that they denote together. Whole units are written
again as they were read.
-/
namespace SealedRows

theorem CodePoint.ofNat_val (c : CodePoint) : CodePoint.ofNat c.val = c := by
  simp [CodePoint.ofNat]

theorem CodePoint.val_ofNat {n : Nat} (h : n < 0x110000) : (ofNat n).val = n := by
  rw [ofNat, dif_pos h]

namespace Text

def pairOf (high low : CodePoint) : CodePoint :=
  CodePoint.ofNat (0x10000 + (high.val - 0xD800) * 0x400 + (low.val - 0xDC00))

def joinedPairs : Text → Text
  | [] => []
  | [c] => [c]
  | c :: d :: rest =>
    if c.isHighSurrogate && d.isLowSurrogate then pairOf c d :: joinedPairs rest
    else c :: joinedPairs (d :: rest)

theorem units_of_lt {c : CodePoint} (h : c.val < 0x10000) : units c = [c.val] := if_pos h

theorem units_of_ge {c : CodePoint} (h : ¬c.val < 0x10000) :
    units c = [0xD800 + (c.val - 0x10000) / 0x400, 0xDC00 + (c.val - 0x10000) % 0x400] := if_neg h

theorem lt_of_mem_units {c : CodePoint} {u : Nat} (h : u ∈ units c) : u < 0x10000 := by
  have hc := c.isLt
  by_cases hb : c.val < 0x10000
  · simp only [units_of_lt hb, List.mem_singleton] at h
    omega
  · simp only [units_of_ge hb, List.mem_cons, List.not_mem_nil, or_false] at h
    omega

/-- The bytes of units are read as these units. -/
theorem unitsOf?_flatMap {us : List Nat} (h : ∀ u ∈ us, u < 0x10000) :
    unitsOf? (us.flatMap (Bytes.ofNat 2)) = some us := by
  induction us with
  | nil => rfl
  | cons u us ih =>
    have hu : u < 256 ^ 2 := h u (List.mem_cons_self ..)
    have hunit : Bytes.toNat [UInt8.ofNat u, UInt8.ofNat (u / 256)] = u :=
      (Bytes.toNat_ofNat 2 u).trans (Nat.mod_eq_of_lt hu)
    have hbytes : Bytes.ofNat 2 u = [UInt8.ofNat u, UInt8.ofNat (u / 256)] := rfl
    rw [List.flatMap_cons, hbytes, List.cons_append, List.cons_append, List.nil_append, unitsOf?,
      hunit, ih fun v hv => h v (List.mem_cons_of_mem _ hv), Option.map_some]

/-- The two units of a character beyond U+FFFF are read as that character. -/
theorem ofUnits_pair {c : CodePoint} (h : ¬c.val < 0x10000) (rest : List Nat) :
    ofUnits (units c ++ rest) = c :: ofUnits rest := by
  have hc := c.isLt
  have hval : 0x10000 + (0xD800 + (c.val - 0x10000) / 0x400 - 0xD800) * 0x400 +
      (0xDC00 + (c.val - 0x10000) % 0x400 - 0xDC00) = c.val := by omega
  rw [units_of_ge h, List.cons_append, List.cons_append, List.nil_append, ofUnits,
    if_pos ⟨by omega,by omega,by omega,by omega⟩, hval, CodePoint.ofNat_val]

/-- A unit that no pair begins with stands for itself. -/
theorem ofUnits_single {c : CodePoint} {v : Nat} {rest : List Nat}
    (h : ¬(0xD800 ≤ c.val ∧ c.val < 0xDC00 ∧ 0xDC00 ≤ v ∧ v < 0xE000)) :
    ofUnits (c.val :: v :: rest) = c :: ofUnits (v :: rest) := by
  rw [ofUnits, if_neg h, CodePoint.ofNat_val]

/-- The first unit of a code point is a low surrogate only if the code point is one. -/
theorem exists_units (d : CodePoint) : ∃ v rest, units d = v :: rest ∧
    (0xDC00 ≤ v ∧ v < 0xE000 → d.isLowSurrogate) := by
  have hd := d.isLt
  by_cases hb : d.val < 0x10000
  · refine ⟨d.val,[],units_of_lt hb,?_⟩
    rintro ⟨hl,hu⟩
    simp only [CodePoint.isLowSurrogate, Bool.and_eq_true, decide_eq_true_eq]
    omega
  · refine ⟨_,_,units_of_ge hb,?_⟩
    rintro ⟨hl,hu⟩
    omega

theorem ofUnits_flatMap_units (t : Text) : ofUnits (t.flatMap units) = joinedPairs t := by
  fun_induction joinedPairs t with
  | case1 => rfl
  | case2 c =>
    by_cases hb : c.val < 0x10000
    · rw [List.flatMap_singleton, units_of_lt hb, ofUnits, CodePoint.ofNat_val]
    · rw [List.flatMap_singleton, ← List.append_nil (units c), ofUnits_pair hb]
      rfl
  | case3 c d rest h ih =>
    simp only [CodePoint.isHighSurrogate, CodePoint.isLowSurrogate, Bool.and_eq_true,
      decide_eq_true_eq] at h
    rw [List.flatMap_cons, List.flatMap_cons, units_of_lt (by omega : c.val < 0x10000),
      units_of_lt (by omega : d.val < 0x10000), List.cons_append, List.nil_append, List.cons_append,
      List.nil_append, ofUnits, if_pos (by omega), ih, pairOf]
  | case4 c d rest h ih =>
    by_cases hb : c.val < 0x10000
    · obtain ⟨v,vs,hv,hlow⟩ := exists_units d
      have hno : ¬(0xD800 ≤ c.val ∧ c.val < 0xDC00 ∧ 0xDC00 ≤ v ∧ v < 0xE000) := by
        rintro ⟨h1,h2,h3⟩
        have hd := hlow h3
        have hc : c.isHighSurrogate := by
          simp only [CodePoint.isHighSurrogate, Bool.and_eq_true, decide_eq_true_eq]
          omega
        simp [hc, hd] at h
      rw [List.flatMap_cons, hv, List.cons_append] at ih
      rw [List.flatMap_cons, List.flatMap_cons, units_of_lt hb, hv, List.cons_append, List.nil_append,
        List.cons_append, ofUnits_single hno, ih]
    · rw [List.flatMap_cons, ofUnits_pair hb, ih]

/-- A text is read back from its units, with its surrogate pairs joined. -/
theorem ofUtf16?_toUtf16 (t : Text) : ofUtf16? (toUtf16 t) = some (joinedPairs t) := by
  have hbytes : toUtf16 t = (t.flatMap units).flatMap (Bytes.ofNat 2) := by
    rw [toUtf16, List.flatMap_assoc]
  have hunits : ∀ u ∈ t.flatMap units, u < 0x10000 := by
    intro u hu
    obtain ⟨c,_,hc⟩ := List.mem_flatMap.mp hu
    exact lt_of_mem_units hc
  rw [ofUtf16?, hbytes, unitsOf?_flatMap hunits, Option.map_some, ofUnits_flatMap_units]

theorem units_ofNat {u : Nat} (h : u < 0x10000) : units (CodePoint.ofNat u) = [u] := by
  have hval : (CodePoint.ofNat u).val = u := CodePoint.val_ofNat (by omega)
  rw [units_of_lt (by omega), hval]

/-- Units are the units of the text that is read from them. -/
theorem flatMap_units_ofUnits {us : List Nat} (h : ∀ u ∈ us, u < 0x10000) :
    (ofUnits us).flatMap units = us := by
  fun_induction ofUnits us with
  | case1 => rfl
  | case2 u => rw [List.flatMap_singleton, units_ofNat (h u List.mem_cons_self)]
  | case3 u v rest hpair ih =>
    obtain ⟨hu,hu',hv,hv'⟩ := hpair
    have hc : (CodePoint.ofNat (0x10000 + (u - 0xD800) * 0x400 + (v - 0xDC00))).val =
        0x10000 + (u - 0xD800) * 0x400 + (v - 0xDC00) := CodePoint.val_ofNat (by omega)
    have hhigh : 0xD800 + (0x10000 + (u - 0xD800) * 0x400 + (v - 0xDC00) - 0x10000) / 0x400 = u := by
      omega
    have hlow : 0xDC00 + (0x10000 + (u - 0xD800) * 0x400 + (v - 0xDC00) - 0x10000) % 0x400 = v := by
      omega
    rw [List.flatMap_cons, units_of_ge (by omega), hc, hhigh, hlow,
      ih fun w hw => h w (List.mem_cons_of_mem _ (List.mem_cons_of_mem _ hw))]
    rfl
  | case4 u v rest hpair ih =>
    rw [List.flatMap_cons, units_ofNat (h u List.mem_cons_self),
      ih fun w hw => h w (List.mem_cons_of_mem _ hw), List.singleton_append]

/-- Bytes are those of the units that are read from them. -/
theorem flatMap_of_unitsOf? {bs : Bytes} {us : List Nat} (h : unitsOf? bs = some us) :
    us.flatMap (Bytes.ofNat 2) = bs ∧ ∀ u ∈ us, u < 0x10000 := by
  fun_induction unitsOf? bs generalizing us with
  | case1 =>
    cases h
    exact ⟨rfl,nofun⟩
  | case2 => cases h
  | case3 lo hi rest ih =>
    obtain ⟨vs,hvs,rfl⟩ := Option.map_eq_some_iff.mp h
    obtain ⟨hbytes,hunits⟩ := ih hvs
    have hunit : Bytes.toNat [lo, hi] < 256 ^ 2 := Bytes.toNat_lt [lo, hi]
    have hpair : Bytes.ofNat 2 (Bytes.toNat [lo, hi]) = [lo, hi] := Bytes.ofNat_toNat [lo, hi]
    refine ⟨?_,List.forall_mem_cons.mpr ⟨by omega,hunits⟩⟩
    rw [List.flatMap_cons, hbytes, hpair, List.cons_append, List.singleton_append]

/-- A byte string is what the text that is read from it is written as. -/
theorem toUtf16_of_ofUtf16? {bs : Bytes} {t : Text} (h : ofUtf16? bs = some t) : t.toUtf16 = bs := by
  obtain ⟨us,hus,rfl⟩ := Option.map_eq_some_iff.mp h
  obtain ⟨hbytes,hunits⟩ := flatMap_of_unitsOf? hus
  rw [toUtf16, ← List.flatMap_assoc, flatMap_units_ofUnits hunits, hbytes]

end Text
end SealedRows
