import SealedRows.Numeral

/-! # Numerals that are read

A text of digits, of whichever scripts, is read as an integer unless it is too long, and one with digits
on both sides of a point is always read as a double. The decimal digits of a number are read as the
number again.
-/
namespace SealedRows

/-! ## Digits -/

/-- A digit stands in the row of ten code points that begins with the zero of its script. -/
theorem CodePoint.exists_zero_of_digit? {c : CodePoint} {d : Nat} (h : c.digit? = some d) :
    d < 10 ∧ ∃ z ∈ zeros, c = ofNat (z + d) := by
  obtain ⟨z,hz,rfl⟩ := Option.map_eq_some_iff.mp h
  have hrange := List.find?_some hz
  simp only [Bool.and_eq_true, decide_eq_true_eq] at hrange
  refine ⟨by omega,z,List.mem_of_find?_eq_some hz,?_⟩
  rw [Nat.add_sub_cancel' hrange.1, ofNat, dif_pos c.isLt]

theorem CodePoint.exists_zero_of_isDigit {c : CodePoint} (h : c.isDigit) :
    ∃ z ∈ zeros, ∃ i < 10, c = ofNat (z + i) := by
  obtain ⟨d,hd⟩ := Option.isSome_iff_exists.mp h
  obtain ⟨hlt,z,hz,hc⟩ := exists_zero_of_digit? hd
  exact ⟨z,hz,d,hlt,hc⟩

theorem CodePoint.exists_digitPoint_of_isDigit {c : CodePoint} (h : c.isDigit) :
    ∃ i < 10, c.inNumeral = Text.digitPoint i := by
  have hlatin : ∀ z ∈ zeros, ∀ i < 10, (ofNat (z + i)).val < 0x7F → z = 48 := by decide +kernel
  have hwide : ∀ z ∈ zeros, ∀ i < 10, (ofNat (z + i)).isWideBlank = false := by decide +kernel
  obtain ⟨d,hd⟩ := Option.isSome_iff_exists.mp h
  obtain ⟨hlt,z,hz,hc⟩ := exists_zero_of_digit? hd
  refine ⟨d,hlt,?_⟩
  unfold inNumeral
  split
  · next hsmall =>
    rw [hc] at hsmall
    rw [hc, hlatin z hz d hlt hsmall, Text.digitPoint, if_pos hlt]
  · have hblank : c.isWideBlank = false := hc ▸ hwide z hz d hlt
    simp [hblank, hd]

theorem CodePoint.isLatinDigit_inNumeral {c : CodePoint} (h : c.isDigit) :
    Text.isLatinDigit c.inNumeral := by
  have hdigits : ∀ i < 10, Text.isLatinDigit (Text.digitPoint i) := by decide
  obtain ⟨i,hi,hc⟩ := exists_digitPoint_of_isDigit h
  rw [hc]
  exact hdigits i hi

namespace Text

theorem digitsOnto_foldl (n : Nat) (rest : List Nat) :
    (digitsOnto n rest).foldl (fun n d => 10 * n + d) 0 = rest.foldl (fun n d => 10 * n + d) n := by
  fun_induction digitsOnto n rest with
  | case1 n rest h => simp
  | case2 n rest h ih => rw [ih, List.foldl_cons, Nat.div_add_mod]

theorem lt_ten_of_mem_digitsOnto {n d : Nat} {rest : List Nat} (h : d ∈ digitsOnto n rest) :
    d < 10 ∨ d ∈ rest := by
  fun_induction digitsOnto n rest with
  | case1 n rest hn =>
    rcases List.mem_cons.mp h with rfl | h
    · exact Or.inl hn
    · exact Or.inr h
  | case2 n rest hn ih =>
    rcases ih h with h | h
    · exact Or.inl h
    · rcases List.mem_cons.mp h with rfl | h
      · exact Or.inl (Nat.mod_lt n (by decide))
      · exact Or.inr h

theorem digitsOnto_ne_nil (n : Nat) (rest : List Nat) : digitsOnto n rest ≠ [] := by
  fun_induction digitsOnto n rest with
  | case1 n rest h => simp
  | case2 n rest h ih => exact ih

theorem lt_ten_of_mem_digits {n d : Nat} (h : d ∈ digits n) : d < 10 := by
  simpa using lt_ten_of_mem_digitsOnto h

theorem ofNat_ne_nil (n : Nat) : ofNat n ≠ [] := by
  simp [ofNat, digits, digitsOnto_ne_nil]

theorem isDigit_digitPoint {d : Nat} (h : d < 10) : (digitPoint d).isDigit := by
  have hdigits : ∀ d < 10, (digitPoint d).isDigit := by decide +kernel
  exact hdigits d h

theorem all_isDigit_ofNat (n : Nat) : ∀ c ∈ ofNat n, c.isDigit := by
  intro c hc
  obtain ⟨d,hd,rfl⟩ := List.mem_map.mp hc
  exact isDigit_digitPoint (lt_ten_of_mem_digits hd)

theorem natOf_ofNat (n : Nat) : Numeral.natOf ((ofNat n).map CodePoint.inNumeral) = n := by
  have hdigit : ∀ d < 10, (digitPoint d).inNumeral.val - 48 = d := by decide +kernel
  have hfold : ∀ (ds : List Nat) (n : Nat), (∀ d ∈ ds, (digitPoint d).inNumeral.val - 48 = d) →
      ds.foldl (fun n d => 10 * n + ((digitPoint d).inNumeral.val - 48)) n =
        ds.foldl (fun n d => 10 * n + d) n := by
    intro ds
    induction ds with
    | nil => simp
    | cons d ds ih => simp +contextual [ih]
  calc Numeral.natOf ((ofNat n).map CodePoint.inNumeral)
      = (digits n).foldl (fun n d => 10 * n + ((digitPoint d).inNumeral.val - 48)) 0 := by
        simp [Numeral.natOf, ofNat, List.foldl_map]
    _ = (digits n).foldl (fun n d => 10 * n + d) 0 :=
        hfold (digits n) 0 fun d hd => hdigit d (lt_ten_of_mem_digits hd)
    _ = n := digitsOnto_foldl n []

@[simp] theorem map_inNumeral_ofNat (n : Nat) : (ofNat n).map CodePoint.inNumeral = ofNat n := by
  have hdigit : ∀ d < 10, (digitPoint d).inNumeral = digitPoint d := by decide +kernel
  rw [List.map_congr_left (g := id), List.map_id]
  intro c hc
  obtain ⟨d,hd,rfl⟩ := List.mem_map.mp hc
  exact hdigit d (lt_ten_of_mem_digits hd)

theorem isLatinDigit_of_mem_ofNat {n : Nat} {c : CodePoint} (h : c ∈ ofNat n) : isLatinDigit c := by
  have hdigit : ∀ d < 10, isLatinDigit (digitPoint d) := by decide
  obtain ⟨d,hd,rfl⟩ := List.mem_map.mp h
  exact hdigit d (lt_ten_of_mem_digits hd)

theorem trimmed_eq_self {p : CodePoint → Bool} {t : Text} (h : ∀ c ∈ t, p c = false) :
    trimmed p t = t := by
  have hdrop : ∀ {u : Text}, (∀ c ∈ u, p c = false) → u.dropWhile p = u := by
    intro u hu
    cases u with
    | nil => rfl
    | cons c u => simp [hu c (by simp)]
  rw [trimmed, hdrop h, hdrop (by simpa using h), List.reverse_reverse]

theorem takeWhile_append_stop {p : CodePoint → Bool} {s t : Text} (hs : ∀ c ∈ s, p c)
    (ht : ∀ c ∈ t.head?, p c = false) : (s ++ t).takeWhile p = s ∧ (s ++ t).dropWhile p = t := by
  rw [List.takeWhile_append_of_pos hs, List.dropWhile_append_of_pos hs]
  cases t with
  | nil => simp
  | cons c t => simp [ht c rfl]

end Text

/-! ## Readers -/

namespace Numeral

/-- A code point that a numeral may hold: a digit, the point, the sign or the letter of its power. -/
def IsPart (c : CodePoint) : Prop :=
  c.isDigit ∨ c = '.' ∨ c = 'e' ∨ c = 'E' ∨ c = '+' ∨ c = '-'

theorem isLatinBlank_of_isLatinDigit {c : CodePoint} (h : Text.isLatinDigit c) :
    c.isLatinBlank = false := by
  simp only [Text.isLatinDigit, Bool.and_eq_true, decide_eq_true_eq] at h
  simp only [CodePoint.isLatinBlank, Bool.or_eq_false_iff, Bool.and_eq_false_iff,
    beq_eq_false_iff_ne, decide_eq_false_iff_not]
  omega

theorem IsPart.ne_underscore {c : CodePoint} (h : IsPart c) :
    c.inNumeral.isLatinBlank = false ∧ c.inNumeral ≠ '_' := by
  rcases h with h | rfl | rfl | rfl | rfl | rfl
  · have hdigit := CodePoint.isLatinDigit_inNumeral h
    refine ⟨isLatinBlank_of_isLatinDigit hdigit,?_⟩
    intro hscore
    rw [hscore] at hdigit
    exact absurd hdigit (by decide)
  all_goals exact ⟨by decide,by decide⟩

theorem isLatinDigit_of_mem {ds : Text} (h : ∀ c ∈ ds, c.isDigit) {c : CodePoint}
    (hc : c ∈ ds.map CodePoint.inNumeral) : Text.isLatinDigit c := by
  obtain ⟨d,hd,rfl⟩ := List.mem_map.mp hc
  exact CodePoint.isLatinDigit_inNumeral (h d hd)

theorem ne_underscore_of_mem {t : Text} (h : ∀ c ∈ t, IsPart c) {c : CodePoint}
    (hc : c ∈ t.map CodePoint.inNumeral) : c ≠ '_' := by
  obtain ⟨d,hd,rfl⟩ := List.mem_map.mp hc
  exact (h d hd).ne_underscore.2

theorem numeralBody_eq {t : Text} (h : ∀ c ∈ t, IsPart c) :
    numeralBody t = t.map CodePoint.inNumeral := by
  apply Text.trimmed_eq_self
  intro c hc
  obtain ⟨d,hd,rfl⟩ := List.mem_map.mp hc
  exact (h d hd).ne_underscore.1

theorem ungrouped?_eq_self {t : Text} (h : ∀ {c}, c ∈ t → c ≠ '_') (before : Option CodePoint) :
    ungrouped? before t = some t := by
  induction t generalizing before with
  | nil => rfl
  | cons c t ih =>
    have hrest := ih fun hc => h (List.mem_cons_of_mem c hc)
    rw [ungrouped?, if_neg (h List.mem_cons_self), hrest, Option.map_some]

theorem takeSign_of_isLatinDigit {c : CodePoint} (h : Text.isLatinDigit c) (rest : Text) :
    takeSign (c :: rest) = (false,c :: rest) := by
  have hminus : c ≠ '-' := by
    rintro rfl
    exact absurd h (by decide)
  have hplus : c ≠ '+' := by
    rintro rfl
    exact absurd h (by decide)
  simp [takeSign, hminus, hplus]

end Numeral

open Numeral

/-- Digits of any script are an integer unless there are too many. -/
theorem intOfText?_of_isDigit {t : Text} (hne : t ≠ []) (h : ∀ c ∈ t, c.isDigit) :
    intOfText? t = if maxIntegerDigits < t.length then none
      else some (natOf (t.map CodePoint.inNumeral) : Int) := by
  have hpart : ∀ c ∈ t, IsPart c := fun c hc => Or.inl (h c hc)
  have hdigits := List.all_eq_true.mpr fun c => isLatinDigit_of_mem (c := c) h
  have hsign : takeSign (t.map CodePoint.inNumeral) = (false,t.map CodePoint.inNumeral) := by
    cases t with
    | nil => exact absurd rfl hne
    | cons c t => exact takeSign_of_isLatinDigit (isLatinDigit_of_mem h (by simp)) _
  rw [intOfText?, numeralBody_eq hpart, intOfBody?, hsign]
  simp only [ungrouped?_eq_self (ne_underscore_of_mem hpart)]
  simp [hdigits, hne]

theorem intOfText?_ofNat {n : Nat} (h : (Text.digits n).length ≤ maxIntegerDigits) :
    intOfText? (Text.ofNat n) = some (n : Int) := by
  have hlength : (Text.ofNat n).length = (Text.digits n).length := List.length_map ..
  rw [intOfText?_of_isDigit (Text.ofNat_ne_nil n) (Text.all_isDigit_ofNat n), Text.natOf_ofNat, if_neg (by omega)]

/-! ## Doubles -/

namespace Numeral

inductive IsPower : Text → Prop where
  | nil : IsPower []
  | digits {e : CodePoint} (he : e = 'e' ∨ e = 'E') {sign : Text}
      (hsign : sign = [] ∨ sign = [CodePoint.ofChar '+'] ∨ sign = [CodePoint.ofChar '-']) {ds : Text}
      (hne : ds ≠ [])
      (h : ∀ c ∈ ds, c.isDigit) : IsPower (e :: (sign ++ ds))

theorem IsPower.isPart {t : Text} (h : IsPower t) : ∀ c ∈ t, IsPart c := by
  cases h with
  | nil => simp
  | @digits e he sign hsign ds hne h =>
    intro c hc
    rcases List.mem_cons.mp hc with rfl | hc
    · rcases he with rfl | rfl
      · simp [IsPart]
      · simp [IsPart]
    · rcases List.mem_append.mp hc with hc | hc
      · rcases hsign with rfl | rfl | rfl
        · simp at hc
        · simp [IsPart, List.mem_singleton.mp hc]
        · simp [IsPart, List.mem_singleton.mp hc]
      · exact Or.inl (h c hc)

theorem exponent?_isSome {t : Text} (h : IsPower t) : (exponent? (t.map CodePoint.inNumeral)).isSome := by
  cases h with
  | nil => rfl
  | @digits e he sign hsign ds hne h =>
    have hdigits := List.all_eq_true.mpr fun c => isLatinDigit_of_mem (c := c) h
    have htake : ∃ negative, takeSign (sign.map CodePoint.inNumeral ++ ds.map CodePoint.inNumeral) =
        (negative,ds.map CodePoint.inNumeral) := by
      rcases hsign with rfl | rfl | rfl
      · cases ds with
        | nil => exact absurd rfl hne
        | cons d ds => exact ⟨false,takeSign_of_isLatinDigit (isLatinDigit_of_mem h (by simp)) _⟩
      · exact ⟨false,rfl⟩
      · exact ⟨true,rfl⟩
    have hletter : e.inNumeral = 'e' ∨ e.inNumeral = 'E' := by
      rcases he with rfl | rfl
      · exact Or.inl (by decide)
      · exact Or.inr (by decide)
    obtain ⟨negative,htake⟩ := htake
    simp [exponent?, hletter, htake, hne, hdigits]

theorem isLatinDigit_of_exponent? {t : Text} (h : (exponent? t).isSome) :
    ∀ c ∈ t.head?, Text.isLatinDigit c = false := by
  intro c hc
  cases t with
  | nil => cases hc
  | cons d t =>
    cases hc
    by_cases hletter : c = 'e' ∨ c = 'E'
    · rcases hletter with rfl | rfl
      · decide
      · decide
    · simp [exponent?, hletter] at h

theorem takeSign_of_digits {whole : Text} (hne : whole ≠ []) (h : ∀ c ∈ whole, Text.isLatinDigit c)
    (rest : Text) : takeSign (whole ++ rest) = (false,whole ++ rest) := by
  cases whole with
  | nil => exact absurd rfl hne
  | cons c whole => exact takeSign_of_isLatinDigit (h c (by simp)) _

/-- What digits without a point are read as, with a power of ten behind them. -/
theorem unsigned?_of_whole {whole tail : Text} {e : Int} (hne : whole ≠ [])
    (hwhole : ∀ c ∈ whole, Text.isLatinDigit c) (htail : exponent? tail = some e) (negative : Bool) :
    unsigned? negative (whole ++ tail) = some ⟨negative,natOf whole,e⟩ := by
  have hsome : (exponent? tail).isSome := by rw [htail]; rfl
  obtain ⟨htake,hdrop⟩ := Text.takeWhile_append_stop hwhole (isLatinDigit_of_exponent? hsome)
  have hpoint : tail.head? ≠ some (CodePoint.ofChar '.') := by
    intro hhead
    cases tail with
    | nil => cases hhead
    | cons c tail =>
      cases hhead
      exact absurd htail nofun
  simp [unsigned?, htake, hdrop, hpoint, hne, htail]

/-- What digits, a point and digits are read as, with a power of ten behind them. -/
theorem unsigned?_of_point {whole fraction tail : Text} {e : Int} (hne : whole ≠ [])
    (hwhole : ∀ c ∈ whole, Text.isLatinDigit c) (hfraction : ∀ c ∈ fraction, Text.isLatinDigit c)
    (htail : exponent? tail = some e) (negative : Bool) :
    unsigned? negative (whole ++ CodePoint.ofChar '.' :: (fraction ++ tail)) =
      some ⟨negative,natOf (whole ++ fraction),e - fraction.length⟩ := by
  have hpoint : ∀ c ∈ (CodePoint.ofChar '.' :: (fraction ++ tail)).head?,
      Text.isLatinDigit c = false := by
    rintro c ⟨⟩
    decide
  have hsome : (exponent? tail).isSome := by rw [htail]; rfl
  obtain ⟨htake,hdrop⟩ := Text.takeWhile_append_stop hwhole hpoint
  obtain ⟨htake',hdrop'⟩ := Text.takeWhile_append_stop hfraction (isLatinDigit_of_exponent? hsome)
  simp [unsigned?, htake, hdrop, htake', hdrop', hne, htail]

/-- Digits, a point and digits, with a power of ten behind them. -/
theorem isSome_ofText? {whole fraction tail : Text} (hne : whole ≠ [])
    (hwhole : ∀ c ∈ whole, Text.isLatinDigit c) (hfraction : ∀ c ∈ fraction, Text.isLatinDigit c)
    (htail : (exponent? tail).isSome) :
    (ofText? (whole ++ CodePoint.ofChar '.' :: (fraction ++ tail))).isSome := by
  obtain ⟨e,he⟩ := Option.isSome_iff_exists.mp htail
  simp only [ofText?, takeSign_of_digits hne hwhole, unsigned?_of_point hne hwhole hfraction he]
  rfl

end Numeral

theorem Double.isSome_ofBody? {body : Text} (hsign : takeSign body = (false,body))
    (hplain : ∀ {c}, c ∈ body → c ≠ '_') (h : (Numeral.ofText? body).isSome) :
    (ofBody? body).isSome := by
  obtain ⟨n,hn⟩ := Option.isSome_iff_exists.mp h
  simp only [ofBody?, hsign, ungrouped?_eq_self hplain]
  split
  · rfl
  · split
    · rfl
    · rw [Option.bind_eq_bind, Option.bind_some, hn]
      rfl

/-- Digits on both sides of a point are a double, whatever power of ten follows them. -/
theorem Double.isSome_ofText? {whole fraction tail : Text} (hne : whole ≠ [])
    (hwhole : ∀ c ∈ whole, c.isDigit) (hfraction : ∀ c ∈ fraction, c.isDigit) (htail : IsPower tail) :
    (ofText? (whole ++ CodePoint.ofChar '.' :: (fraction ++ tail))).isSome := by
  have hpart : ∀ c ∈ whole ++ CodePoint.ofChar '.' :: (fraction ++ tail), IsPart c := by
    intro c hc
    simp only [List.mem_append, List.mem_cons] at hc
    rcases hc with hc | rfl | hc | hc
    · exact Or.inl (hwhole c hc)
    · exact Or.inr (Or.inl rfl)
    · exact Or.inl (hfraction c hc)
    · exact htail.isPart c hc
  have hbody : (whole ++ CodePoint.ofChar '.' :: (fraction ++ tail)).map CodePoint.inNumeral =
      whole.map CodePoint.inNumeral ++ CodePoint.ofChar '.' ::
        (fraction.map CodePoint.inNumeral ++ tail.map CodePoint.inNumeral) := by
    have hpoint : CodePoint.inNumeral '.' = '.' := by decide
    simp [hpoint]
  have hsign : takeSign ((whole ++ CodePoint.ofChar '.' :: (fraction ++ tail)).map CodePoint.inNumeral) =
      (false,(whole ++ CodePoint.ofChar '.' :: (fraction ++ tail)).map CodePoint.inNumeral) := by
    cases whole with
    | nil => exact absurd rfl hne
    | cons c whole => exact takeSign_of_isLatinDigit (isLatinDigit_of_mem hwhole (by simp)) _
  rw [ofText?, numeralBody_eq hpart]
  apply isSome_ofBody? hsign (ne_underscore_of_mem hpart)
  rw [hbody]
  exact Numeral.isSome_ofText? (by simpa using hne) (fun c => isLatinDigit_of_mem hwhole)
    (fun c => isLatinDigit_of_mem hfraction) (exponent?_isSome htail)

end SealedRows
