import Mathlib.Data.List.Induction
import SealedRows.Proofs.Double.Shortest
import SealedRows.Proofs.Text.Numeral

/-! # Doubles are read back

The text of a finite double is a numeral of its shortest form, whichever of the four layouts it has. The
number of the numeral lies in the neighbourhood of the double, so the double is read from its text again.
-/
namespace SealedRows

namespace Numeral
open Decimal

def toDouble (n : Numeral) : Double := .ofDecimal n.negative n.coefficient n.exponent

/-- Whether a code point stands in numerals. -/
def isPoint (c : CodePoint) : Bool :=
  Text.isLatinDigit c || c = '.' || c = 'e' || c = 'E' || c = '+' || c = '-'

theorem isPoint_of_isLatinDigit {c : CodePoint} (h : Text.isLatinDigit c) : isPoint c := by
  simp [isPoint, h]

theorem natOf_append (s t : Text) : natOf (s ++ t) = natOf s * 10 ^ t.length + natOf t := by
  induction t using List.reverseRecOn with
  | nil => simp [natOf]
  | append_singleton t c ih =>
    have hlast (u : Text) : natOf (u ++ [c]) = 10 * natOf u + (c.val - 48) := by simp [natOf]
    rw [← List.append_assoc, hlast, hlast, ih, List.length_append, List.length_singleton, Nat.pow_succ]
    ring

@[simp] theorem natOf_replicate_zero (n : ℕ) : natOf (List.replicate n ('0' : CodePoint)) = 0 := by
  have hzero : natOf [CodePoint.ofChar '0'] = 0 := by decide
  induction n with
  | zero => rfl
  | succ n ih => rw [List.replicate_succ', natOf_append, ih, hzero, Nat.zero_mul]

@[simp] theorem natOf_ofNat (n : ℕ) : natOf (Text.ofNat n) = n := by
  simpa using Text.natOf_ofNat n

/-- Whether a text is an unsigned numeral of a coefficient and a power of ten, not of digits alone. -/
structure Shows (t : Text) (c : ℕ) (e : ℤ) : Prop where
  unsigned : takeSign t = (false,t)
  read (negative : Bool) : unsigned? negative t = some ⟨negative,c,e⟩
  points : ∀ p ∈ t, isPoint p
  marked : ∃ p ∈ t, Text.isLatinDigit p = false

section
variable {whole fraction tail : Text} {e : ℤ} (hne : whole ≠ [])
  (hwhole : ∀ c ∈ whole, Text.isLatinDigit c)
  (htail : exponent? tail = some e) (hpoints : ∀ c ∈ tail, isPoint c)
include hne hwhole htail hpoints

theorem shows_whole (hpower : tail ≠ []) : Shows (whole ++ tail) (natOf whole) e where
  unsigned := takeSign_of_digits hne hwhole tail
  read := unsigned?_of_whole hne hwhole htail
  points c hc := by
    rcases List.mem_append.mp hc with hc | hc
    · exact isPoint_of_isLatinDigit (hwhole c hc)
    · exact hpoints c hc
  marked := by
    obtain ⟨c,rest,rfl⟩ := List.exists_cons_of_ne_nil hpower
    have hsome : (exponent? (c :: rest)).isSome := by simp [htail]
    exact ⟨c,by simp,isLatinDigit_of_exponent? hsome c rfl⟩

theorem shows_point (hfraction : ∀ c ∈ fraction, Text.isLatinDigit c) :
    Shows (whole ++ CodePoint.ofChar '.' :: (fraction ++ tail)) (natOf (whole ++ fraction))
      (e - fraction.length) where
  unsigned := takeSign_of_digits hne hwhole _
  read := unsigned?_of_point hne hwhole hfraction htail
  points c hc := by
    simp only [List.mem_append, List.mem_cons] at hc
    rcases hc with hc | rfl | hc | hc
    · exact isPoint_of_isLatinDigit (hwhole c hc)
    · decide
    · exact isPoint_of_isLatinDigit (hfraction c hc)
    · exact hpoints c hc
  marked := ⟨CodePoint.ofChar '.',by simp,by decide⟩

end

/-! ## Layouts -/

def power (top : ℤ) : Text :=
  let sign : Text := if top < 0 then "-" else "+"
  let digits := Text.ofNat top.natAbs
  "e" ++ sign ++ (if digits.length < 2 then "0" ++ digits else digits)

theorem exists_power (top : ℤ) : ∃ (sign : CodePoint) (ds : Text),
    power top = CodePoint.ofChar 'e' :: sign :: ds ∧
    sign = (if top < 0 then CodePoint.ofChar '-' else CodePoint.ofChar '+') ∧ ds ≠ [] ∧
    (∀ p ∈ ds, Text.isLatinDigit p) ∧ natOf ds = top.natAbs := by
  have hzero : natOf [CodePoint.ofChar '0'] = 0 := by decide
  have hsign : (if top < 0 then "-" else "+" : Text) =
      [if top < 0 then CodePoint.ofChar '-' else CodePoint.ofChar '+'] := by
    split <;> rfl
  have he : Text.ofString "e" = [CodePoint.ofChar 'e'] := rfl
  have hpad : Text.ofString "0" = [CodePoint.ofChar '0'] := rfl
  simp only [power, hsign, he, hpad, List.cons_append, List.nil_append]
  refine ⟨_,_,rfl,rfl,?_,?_,?_⟩
  · split <;> simp [Text.ofNat_ne_nil]
  · intro p hp
    split at hp
    · rcases List.mem_cons.mp hp with rfl | hp
      · decide
      · exact Text.isLatinDigit_of_mem_ofNat hp
    · exact Text.isLatinDigit_of_mem_ofNat hp
  · split
    · rw [← List.singleton_append, natOf_append, hzero, Nat.zero_mul, Nat.zero_add, natOf_ofNat]
    · exact natOf_ofNat _

theorem power_ne_nil (top : ℤ) : power top ≠ [] := by
  have he : Text.ofString "e" = [CodePoint.ofChar 'e'] := rfl
  simp [power, he]

theorem exponent?_power (top : ℤ) : exponent? (power top) = some top := by
  obtain ⟨sign,ds,hpower,hsign,hne,hdigits,hvalue⟩ := exists_power top
  have htake : takeSign (sign :: ds) = (decide (top < 0),ds) := by
    rw [hsign]
    by_cases hneg : top < 0
    · rw [if_pos hneg, decide_eq_true hneg]
      rfl
    · rw [if_neg hneg, decide_eq_false hneg]
      rfl
  have hall : ds.all Text.isLatinDigit := List.all_eq_true.mpr hdigits
  have htop : (if top < 0 then -(top.natAbs : ℤ) else top.natAbs) = top := by
    split <;> omega
  simpa [hpower, exponent?, htake, hne, hall, hvalue] using htop

theorem isPoint_of_mem_power {top : ℤ} {c : CodePoint} (h : c ∈ power top) : isPoint c := by
  obtain ⟨sign,ds,hpower,hsign,-,hdigits,-⟩ := exists_power top
  rw [hpower] at h
  simp only [List.mem_cons] at h
  rcases h with rfl | rfl | h
  · decide
  · rw [hsign]
    split <;> decide
  · exact isPoint_of_isLatinDigit (hdigits c h)

theorem isLatinDigit_of_mem_zeros {n : ℕ} :
    ∀ c ∈ List.replicate n ('0' : CodePoint), Text.isLatinDigit c := by
  intro c hc
  rw [List.eq_of_mem_replicate hc]
  decide

theorem isLatinDigit_zero : ∀ c ∈ [CodePoint.ofChar '0'], Text.isLatinDigit c :=
  List.all_eq_true.mp (by decide)

section
variable {ds : Text} (hne : ds ≠ []) (hdigits : ∀ c ∈ ds, Text.isLatinDigit c)

include hne hdigits in
/-- Digits with zeros behind them. -/
theorem shows_zeros_behind (n : ℕ) :
    Shows ((ds ++ List.replicate n ('0' : CodePoint)) ++
        CodePoint.ofChar '.' :: ([CodePoint.ofChar '0'] ++ []))
      (natOf ds * 10 ^ (n + 1)) (-1) := by
  have hwhole : ∀ c ∈ ds ++ List.replicate n ('0' : CodePoint), Text.isLatinDigit c := by
    intro c hc
    exact (List.mem_append.mp hc).elim (hdigits c) (isLatinDigit_of_mem_zeros c)
  have hzero : natOf [CodePoint.ofChar '0'] = 0 := by decide
  have hnone : exponent? [] = some 0 := rfl
  have hshows := shows_point (by simp [hne]) hwhole hnone nofun isLatinDigit_zero
  have hvalue : natOf (ds ++ List.replicate n ('0' : CodePoint) ++ [CodePoint.ofChar '0']) =
      natOf ds * 10 ^ (n + 1) := by
    rw [natOf_append, natOf_append, natOf_replicate_zero, hzero, List.length_replicate, Nat.pow_succ, ← mul_assoc]
    rfl
  rw [hvalue] at hshows
  exact hshows

include hdigits in
/-- Digits with zeros before them, all of them behind the point. -/
theorem shows_zeros_before (n : ℕ) :
    Shows ([CodePoint.ofChar '0'] ++ CodePoint.ofChar '.' ::
        ((List.replicate n ('0' : CodePoint) ++ ds) ++ []))
      (natOf ds) (-(n + ds.length : ℕ)) := by
  have hfraction : ∀ c ∈ List.replicate n ('0' : CodePoint) ++ ds, Text.isLatinDigit c := by
    intro c hc
    exact (List.mem_append.mp hc).elim (isLatinDigit_of_mem_zeros c) (hdigits c)
  have hzero : natOf [CodePoint.ofChar '0'] = 0 := by decide
  have hnone : exponent? [] = some 0 := rfl
  have hshows := shows_point (List.cons_ne_nil _ _) isLatinDigit_zero hnone nofun hfraction
  rw [natOf_append, natOf_append, hzero, natOf_replicate_zero, Nat.zero_mul, Nat.zero_mul, Nat.zero_add,
    Nat.zero_add, List.length_append, List.length_replicate, zero_sub] at hshows
  exact hshows

include hne hdigits in
/-- Digits with the point among them. -/
theorem shows_split {k : ℕ} (hk : 0 < k) {tail : Text} {e : ℤ} (htail : exponent? tail = some e)
    (hpoints : ∀ c ∈ tail, isPoint c) :
    Shows (ds.take k ++ CodePoint.ofChar '.' :: (ds.drop k ++ tail)) (natOf ds)
      (e - (ds.length - k : ℕ)) := by
  have hfirst : ds.take k ≠ [] := by simp [hne, hk.ne']
  have htake : ∀ c ∈ ds.take k, Text.isLatinDigit c := fun c hc => hdigits c (List.mem_of_mem_take hc)
  have hdrop : ∀ c ∈ ds.drop k, Text.isLatinDigit c := fun c hc => hdigits c (List.mem_of_mem_drop hc)
  have hshows := shows_point hfirst htake htail hpoints hdrop
  rw [List.take_append_drop, List.length_drop] at hshows
  exact hshows

end

end Numeral

namespace Double
open Decimal Numeral

/-- The four layouts of a decimal number. -/
theorem positional_eq (d : ℕ) (place : ℤ) : positional d place =
    let ds := Text.ofNat d
    let top := (ds.length : ℤ) - 1 + place
    if -4 ≤ top ∧ top < 16 then
      if 0 ≤ place then
        (ds ++ List.replicate place.toNat ('0' : CodePoint)) ++
          CodePoint.ofChar '.' :: ([CodePoint.ofChar '0'] ++ [])
      else if 0 ≤ top then
        ds.take (top + 1).toNat ++ CodePoint.ofChar '.' :: (ds.drop (top + 1).toNat ++ [])
      else
        [CodePoint.ofChar '0'] ++ CodePoint.ofChar '.' ::
          ((List.replicate (-top - 1).toNat ('0' : CodePoint) ++ ds) ++ [])
    else if ds.length = 1 then ds ++ power top
    else ds.take 1 ++ CodePoint.ofChar '.' :: (ds.drop 1 ++ power top) := by
  have hpoint : Text.ofString "." = [CodePoint.ofChar '.'] := rfl
  have hend : Text.ofString ".0" = [CodePoint.ofChar '.',CodePoint.ofChar '0'] := rfl
  have hstart : Text.ofString "0." = [CodePoint.ofChar '0',CodePoint.ofChar '.'] := rfl
  have hdigits : (Text.digits d).map Text.digitPoint = Text.ofNat d := rfl
  simp only [positional, hdigits]
  generalize Text.ofNat d = ds
  refine if_congr Iff.rfl (if_congr Iff.rfl ?_ (if_congr Iff.rfl ?_ ?_)) ?_
  · simp [hend]
  · simp [hpoint]
  · simp [hstart]
  · split
    · next hone => simp [power, List.take_of_length_le hone.le]
    · simp [power, hpoint]

/-- Each layout is a numeral of the number that it lays out. -/
theorem exists_shows_positional (d : ℕ) (place : ℤ) :
    ∃ c e, Shows (positional d place) c e ∧ size c e = size d place := by
  have hne := Text.ofNat_ne_nil d
  have hlength : 0 < (Text.ofNat d).length := List.length_pos_of_ne_nil hne
  have hdigits : ∀ c ∈ Text.ofNat d, Text.isLatinDigit c := fun _ => Text.isLatinDigit_of_mem_ofNat
  have hnumber := natOf_ofNat d
  rw [positional_eq]
  dsimp only
  generalize Text.ofNat d = ds at hne hlength hdigits hnumber ⊢
  subst hnumber
  split
  · split
    · next hplace =>
      refine ⟨_,_,shows_zeros_behind hne hdigits place.toNat,?_⟩
      have hweight : (10 : ℚ) ^ place = 10 ^ place.toNat := by
        rw [← zpow_natCast, Int.toNat_of_nonneg hplace]
      rw [size, size, hweight]
      push_cast
      ring
    · split
      · refine ⟨_,_,shows_split hne hdigits (by omega) rfl (by simp),?_⟩
        congr 1
        omega
      · refine ⟨_,_,shows_zeros_before hdigits _,?_⟩
        congr 1
        omega
  · generalize htop : (ds.length : ℤ) - 1 + place = top
    have hpower := exponent?_power top
    split
    · refine ⟨_,_,shows_whole hne hdigits hpower (fun _ => isPoint_of_mem_power) (power_ne_nil top),?_⟩
      congr 1
      omega
    · refine ⟨_,_,shows_split hne hdigits Nat.one_pos hpower (fun _ => isPoint_of_mem_power),?_⟩
      congr 1
      omega

/-- A finite double is the one nearest to the number of its shortest form. -/
theorem ofDecimal_of_size {magnitude c : ℕ} {e : ℤ} (hmagnitude : magnitude ≠ 0)
    (hfinite : magnitude < BinaryFormat.double.infinity)
    (h : size c e = size (shortest magnitude).1 (shortest magnitude).2) (negative : Bool) :
    ofDecimal negative c e = ofMagnitude negative magnitude := by
  obtain ⟨hlow,hhigh⟩ := size_shortest_bounds hmagnitude hfinite
  rw [← h] at hlow hhigh
  have hc : c ≠ 0 := by
    rintro rfl
    rw [size_eq_zero.mpr rfl] at hlow
    exact hlow.not_ge (zpow_pos (by norm_num) _).le
  obtain ⟨hbelow,habove⟩ := size_bounds hc e
  have hplace := (zpow_lt_zpow_iff_right₀ (by norm_num)).mp (hlow.trans habove)
  have hplace' := (zpow_lt_zpow_iff_right₀ (by norm_num)).mp (hbelow.trans_lt hhigh)
  have hquotient : ((c * 10 ^ e.toNat : ℕ) : ℚ) / (10 ^ (-e).toNat : ℕ) = size c e := by
    rw [size, ten_zpow_eq_div]
    push_cast
    ring
  rw [ofDecimal, if_neg hc]
  dsimp only
  rw [if_neg (by omega), if_neg (by omega), ofRatio,
    rounded_shortest hmagnitude (by positivity) (hquotient.trans h), Nat.min_eq_left hfinite.le]

/-- The text of a finite double is its sign and a numeral of which it is the nearest double. -/
theorem exists_shows_toText {x : Double} (hx : x.isFinite) : ∃ body c e,
    x.toText = (if x.isNegative then CodePoint.ofChar '-' :: body else body) ∧ Shows body c e ∧
    ofDecimal x.isNegative c e = x := by
  have hfinite := (isFinite_iff x).mp hx
  have hnan : ¬x.isNaN := fun hn => hfinite.not_gt ((isNaN_iff x).mp hn)
  have hinfinite : ¬x.isInfinite := fun hi => hfinite.ne ((isInfinite_iff x).mp hi)
  have hminus (t : Text) : Text.ofString "-" ++ t = CodePoint.ofChar '-' :: t := rfl
  rw [toText, if_neg hnan, if_neg hinfinite]
  by_cases hzero : x.magnitude = 0
  · have hnone : exponent? [] = some 0 := rfl
    have hx0 : x.isZero := decide_eq_true hzero
    rw [if_pos hx0]
    refine ⟨Text.ofString "0.0",0,-1,rfl,?_,?_⟩
    · exact shows_point (List.cons_ne_nil _ _) isLatinDigit_zero hnone nofun isLatinDigit_zero
    · rw [ofDecimal, if_pos rfl, ← hzero, ofMagnitude_self]
  · obtain ⟨c,e,hshows,hsize⟩ :=
      exists_shows_positional (shortest x.magnitude).1 (shortest x.magnitude).2
    have hx0 : ¬x.isZero := by simpa [isZero] using hzero
    rw [if_neg hx0]
    refine ⟨_,c,e,rfl,hshows,?_⟩
    rw [ofDecimal_of_size hzero hfinite hsize, ofMagnitude_self]

end Double

/-- A finite double is read from its text again. -/
theorem Numeral.ofText?_toText {x : Double} (hx : x.isFinite) :
    (ofText? x.toText).map toDouble = some x := by
  obtain ⟨body,c,e,hbody,hshows,hdouble⟩ := Double.exists_shows_toText hx
  cases hnegative : x.isNegative with
  | false =>
    rw [hnegative] at hbody hdouble
    rw [hbody, if_neg Bool.false_ne_true, ofText?, hshows.unsigned]
    simp [hshows.read, toDouble, hdouble]
  | true =>
    rw [hnegative] at hbody hdouble
    have hsign : takeSign (CodePoint.ofChar '-' :: body) = (true,body) := rfl
    rw [hbody, if_pos rfl, ofText?, hsign]
    simp [hshows.read, toDouble, hdouble]

end SealedRows
