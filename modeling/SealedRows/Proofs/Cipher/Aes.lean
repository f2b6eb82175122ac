import Mathlib.Data.List.Basic
import Mathlib.Data.Nat.Bitwise
import Mathlib.Logic.Function.Basic
import SealedRows.Proofs.Cipher.Keystream

/-! # AES takes different blocks to different blocks

Every step of a round can be undone, whatever the round keys are. The substitution undoes itself but for
a fixed mixture of bits, and a mixed column gives back the sum of its bytes, then the sums of two of them,
and then the bytes.
-/
namespace SealedRows.Aes
open Bytes

/-! ## Columns -/

theorem doubled_xor (a b : UInt8) : doubled (a ^^^ b) = doubled a ^^^ doubled b := by
  have htop (c : UInt8) : (if 128 ≤ c then 0x1B else 0 : UInt8) = if c.toNat.testBit 7 then 0x1B else 0 := by
    have hc : c.toNat < 256 := c.toNat_lt
    have hbit : c.toNat.testBit 7 = true ↔ 128 ≤ c := by
      rw [Nat.testBit_eq_decide_div_mod_eq, decide_eq_true_eq, UInt8.le_iff_toNat_le]
      change c.toNat / 128 % 2 = 1 ↔ 128 ≤ c.toNat
      omega
    simp only [hbit]
  have hshift : (a ^^^ b) <<< 1 = (a <<< 1) ^^^ (b <<< 1) := by
    apply UInt8.toNat_inj.mp
    simp only [UInt8.toNat_shiftLeft, UInt8.toNat_xor, Nat.shiftLeft_xor_distrib, Nat.xor_mod_two_pow]
  rw [doubled, doubled, doubled, htop, htop a, htop b, hshift, UInt8.toNat_xor, Nat.testBit_xor]
  cases a.toNat.testBit 7 <;> cases b.toNat.testBit 7 <;>
    simp [UInt8.xor_assoc, UInt8.xor_comm, xor_left_comm]

/-- A byte of a mixed column; the bytes of the column are given in turn from its own place on. -/
def mixedByte (a b c d : UInt8) : UInt8 := doubled a ^^^ doubled b ^^^ b ^^^ c ^^^ d

section
variable (a b c d : UInt8)

theorem sum_mixedByte : mixedByte a b c d ^^^ mixedByte b c d a ^^^ mixedByte c d a b ^^^ mixedByte d a b c =
    a ^^^ b ^^^ c ^^^ d := by
  simp only [mixedByte, UInt8.xor_assoc, UInt8.xor_comm, xor_left_comm, xor_cancel_left, UInt8.xor_self,
    UInt8.xor_zero]

theorem mixedByte_xor_opposite : mixedByte a b c d ^^^ mixedByte c d a b =
    doubled (a ^^^ b ^^^ c ^^^ d) ^^^ (a ^^^ c) := by
  simp only [mixedByte, doubled_xor, UInt8.xor_assoc, UInt8.xor_comm, xor_left_comm, xor_cancel_left]

theorem mixedByte_xor_next : mixedByte a b c d ^^^ mixedByte b c d a = doubled (a ^^^ c) ^^^ (a ^^^ b) := by
  simp only [mixedByte, doubled_xor, UInt8.xor_assoc, UInt8.xor_comm, xor_left_comm, xor_cancel_left]

theorem mixedByte_eq : mixedByte a b c d = doubled (a ^^^ b) ^^^ (a ^^^ b ^^^ c ^^^ d) ^^^ a := by
  simp only [mixedByte, doubled_xor, UInt8.xor_assoc, UInt8.xor_comm, xor_left_comm, xor_cancel_left]

end

theorem mixedByte_inj {a b c d a' b' c' d' : UInt8} (h0 : mixedByte a b c d = mixedByte a' b' c' d')
    (h1 : mixedByte b c d a = mixedByte b' c' d' a') (h2 : mixedByte c d a b = mixedByte c' d' a' b')
    (h3 : mixedByte d a b c = mixedByte d' a' b' c') : a = a' := by
  have hsum : a ^^^ b ^^^ c ^^^ d = a' ^^^ b' ^^^ c' ^^^ d' := by
    rw [← sum_mixedByte a b, ← sum_mixedByte a' b', h0, h1, h2, h3]
  have hopposite : a ^^^ c = a' ^^^ c' := by
    have h := mixedByte_xor_opposite a b c d
    rw [h0, h2, mixedByte_xor_opposite, hsum] at h
    exact ((UInt8.xor_right_inj _).mp h).symm
  have hnext : a ^^^ b = a' ^^^ b' := by
    have h := mixedByte_xor_next a b c d
    rw [h0, h1, mixedByte_xor_next, hopposite] at h
    exact ((UInt8.xor_right_inj _).mp h).symm
  rw [mixedByte_eq, mixedByte_eq, hsum, hnext] at h0
  exact (UInt8.xor_right_inj _).mp h0

def further (i : Fin 16) (k : Fin 4) : Fin 16 := ⟨4 * (i.val / 4) + (i.val + k.val) % 4,by omega⟩

theorem further_zero (i : Fin 16) : further i 0 = i := by
  apply Fin.ext
  change 4 * (i.val / 4) + i.val % 4 = i.val
  omega

theorem further_further (i : Fin 16) (k l : Fin 4) : further (further i k) l = further i (k + l) := by
  apply Fin.ext
  simp only [further, Fin.val_add]
  omega

theorem getElem_mixColumns (s : State) (i : Fin 16) : (mixColumns s)[i] =
    mixedByte s[further i 0] s[further i 1] s[further i 2] s[further i 3] := by
  rw [mixColumns, Fin.getElem_fin, Vector.getElem_ofFn]
  rfl

theorem mixColumns_injective : Function.Injective mixColumns := by
  intro s s' h
  have hbyte (i : Fin 16) (k : Fin 4) := congrArg (fun t : State => t[further i k]) h
  simp only [getElem_mixColumns, further_further] at hbyte
  apply Vector.ext
  intro i hi
  have hfirst : s[further ⟨i,hi⟩ 0] = s'[further ⟨i,hi⟩ 0] :=
    mixedByte_inj (hbyte ⟨i,hi⟩ 0) (hbyte ⟨i,hi⟩ 1) (hbyte ⟨i,hi⟩ 2) (hbyte ⟨i,hi⟩ 3)
  simp only [further_zero] at hfirst
  exact hfirst

/-! ## Substitution -/

def doubledNumber (b : Nat) : Nat := Nat.xor (Nat.mod (Nat.mul 2 b) 256) (Nat.mul 27 (Nat.div b 128))

theorem toNat_doubled (b : UInt8) : (doubled b).toNat = doubledNumber b.toNat := by
  have hb : b.toNat < 256 := b.toNat_lt
  have hshift : (b <<< 1).toNat = 2 * b.toNat % 256 := by
    rw [UInt8.toNat_shiftLeft, Nat.shiftLeft_eq, Nat.mul_comm]
    rfl
  have htop : (if 128 ≤ b then 0x1B else 0 : UInt8).toNat = 27 * (b.toNat / 128) := by
    split
    · next h =>
      have hle : 128 ≤ b.toNat := UInt8.le_iff_toNat_le.mp h
      rw [show b.toNat / 128 = 1 by omega]
      rfl
    · next h =>
      have hlt : ¬128 ≤ b.toNat := fun hle => h (UInt8.le_iff_toNat_le.mpr hle)
      rw [show b.toNat / 128 = 0 by omega]
      rfl
  rw [doubled, UInt8.toNat_xor, hshift, htop]
  rfl

/-- The product of two bytes added to a third, as numbers; the second is read bit by bit. -/
def productNumber : Nat → Nat → Nat → Nat → Nat
  | 0, _, _, sum => sum
  | count + 1, a, b, sum =>
    productNumber count (doubledNumber a) (Nat.div b 2) (Nat.xor sum (Nat.mul (Nat.mod b 2) a))

def inverseNumber (b : Nat) : Nat :=
  let square (a : Nat) := productNumber 8 a a 0
  let step (power : Nat) := productNumber 8 (square power) b 0
  square (step (step (step (step (step (step b))))))

theorem toNat_foldl_product (b : UInt8) (count place : Nat) (sum power : UInt8) :
    ((List.range' place count).foldl
      (fun (sum,power) i => (if b.toNat.testBit i then sum ^^^ power else sum,doubled power))
      (sum,power)).1.toNat = productNumber count power.toNat (b.toNat / 2 ^ place) sum.toNat := by
  induction count generalizing place sum power with
  | zero => rfl
  | succ count ih =>
    have hrest : Nat.div (b.toNat / 2 ^ place) 2 = b.toNat / 2 ^ (place + 1) := by
      change b.toNat / 2 ^ place / 2 = _
      rw [Nat.div_div_eq_div_mul, Nat.pow_succ]
    have hsum : (if b.toNat.testBit place then sum ^^^ power else sum : UInt8).toNat =
        Nat.xor sum.toNat (Nat.mul (Nat.mod (b.toNat / 2 ^ place) 2) power.toNat) := by
      change _ = sum.toNat ^^^ (b.toNat / 2 ^ place % 2 * power.toNat)
      rw [Nat.testBit_eq_decide_div_mod_eq]
      have hbit := Nat.mod_two_eq_zero_or_one (b.toNat / 2 ^ place)
      rcases hbit with hbit | hbit <;> simp [hbit]
    rw [List.range'_succ, List.foldl_cons, ih, toNat_doubled, productNumber, hrest, hsum]

theorem toNat_product (a b : UInt8) : (product a b).toNat = productNumber 8 a.toNat b.toNat 0 := by
  have h := toNat_foldl_product b 8 0 0 a
  rw [Nat.pow_zero, Nat.div_one] at h
  exact h

theorem toNat_inverse (b : UInt8) : (inverse b).toNat = inverseNumber b.toNat := by
  simp only [inverse, inverseNumber, toNat_product]

theorem inverseNumber_inverseNumber : ∀ b < 256, inverseNumber (inverseNumber b) = b := by
  decide +kernel

theorem inverse_inverse (b : UInt8) : inverse (inverse b) = b := by
  apply UInt8.toNat_inj.mp
  rw [toNat_inverse, toNat_inverse]
  exact inverseNumber_inverseNumber b.toNat b.toNat_lt

def mixedBits (a : UInt8) : UInt8 :=
  let rotated (k : UInt8) := (a <<< k) ||| (a >>> (8 - k))
  a ^^^ rotated 1 ^^^ rotated 2 ^^^ rotated 3 ^^^ rotated 4 ^^^ 0x63

def unmixedBits (a : UInt8) : UInt8 :=
  let rotated (k : UInt8) := (a <<< k) ||| (a >>> (8 - k))
  rotated 1 ^^^ rotated 3 ^^^ rotated 6 ^^^ 5

theorem unmixedBits_mixedBits_ofNat : ∀ b < 256, unmixedBits (mixedBits (UInt8.ofNat b)) = UInt8.ofNat b := by
  decide +kernel

theorem unmixedBits_mixedBits (b : UInt8) : unmixedBits (mixedBits b) = b := by
  have h := unmixedBits_mixedBits_ofNat b.toNat b.toNat_lt
  rwa [UInt8.ofNat_toNat] at h

theorem subByte_eq (b : UInt8) : subByte b = mixedBits (inverse b) := by
  have hget (v : Vector UInt8 256) (i : Fin 256) : v.get i = v[i.val] := rfl
  rw [subByte, substitutes, hget, Vector.getElem_ofFn, UInt8.ofNat_toNat]
  rfl

theorem subByte_injective : Function.Injective subByte := by
  have hback : Function.LeftInverse (fun c => inverse (unmixedBits c)) subByte := by
    intro b
    dsimp only
    rw [subByte_eq, unmixedBits_mixedBits, inverse_inverse]
  exact hback.injective

/-! ## Rounds -/

theorem map_subByte_injective : Function.Injective fun s : State => s.map subByte := by
  intro s s' h
  apply Vector.ext
  intro i hi
  have hbyte := congrArg (fun t : State => t[i]) h
  simp only [Vector.getElem_map] at hbyte
  exact subByte_injective hbyte

theorem addKey_injective (key : State) : Function.Injective (addKey key) := by
  intro s s' h
  apply Vector.ext
  intro i hi
  have hbyte := congrArg (fun t : State => t[i]) h
  simp only [addKey, Vector.getElem_zipWith, UInt8.xor_comm _ key[i]] at hbyte
  exact (UInt8.xor_right_inj _).mp hbyte

theorem shiftRows_injective : Function.Injective shiftRows := by
  -- Every byte goes to some place.
  have hplaces : ∀ j : Fin 16, ∃ i : Fin 16, 4 * ((i.val / 4 + i.val % 4) % 4) + i.val % 4 = j.val := by decide
  intro s s' h
  apply Vector.ext
  intro j hj
  obtain ⟨i,hi⟩ := hplaces ⟨j,hj⟩
  have hbyte := congrArg (fun t : State => t[i]) h
  simp only [shiftRows, Fin.getElem_fin, Vector.getElem_ofFn, hi] at hbyte
  exact hbyte

def round (words : Array Word) (s : State) (round : Nat) : State :=
  addKey (roundKey words round) (mixColumns (shiftRows (s.map subByte)))

theorem round_injective (words : Array Word) (i : Nat) : Function.Injective fun s => round words s i :=
  fun _ _ h => map_subByte_injective (shiftRows_injective (mixColumns_injective (addKey_injective _ h)))

theorem encrypt_eq (words : Array Word) (keyWords : Nat) (block : State) :
    let s := (List.range' 1 (rounds keyWords - 1)).foldl (round words) (addKey (roundKey words 0) block)
    encrypt words keyWords block = addKey (roundKey words (rounds keyWords)) (shiftRows (s.map subByte)) := rfl

theorem encrypt_injective (words : Array Word) (keyWords : Nat) : Function.Injective (encrypt words keyWords) := by
  intro block block' h
  rw [encrypt_eq, encrypt_eq] at h
  have hrounds := map_subByte_injective (shiftRows_injective (addKey_injective _ h))
  have hfirst := foldl_injective (round_injective words) _ hrounds
  exact addKey_injective _ hfirst

end SealedRows.Aes
