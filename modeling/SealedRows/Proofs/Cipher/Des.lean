import Mathlib.Data.Nat.Bitwise
import Mathlib.Data.Nat.Digits.Lemmas
import SealedRows.Proofs.Cipher.Keystream

/-! # DES takes different blocks to different blocks

The places before and after the rounds name every bit, so no bit is lost there, and a round keeps one
half and adds to the other what follows from the half that is kept. The rounds are therefore one-to-one
whatever the substitution tables and the round keys are.
-/
namespace SealedRows.Des
variable {places : List Nat} {width n m : Nat}

/-! ## Bits -/

theorem foldl_digits (base : Nat) (digits : List Nat) :
    digits.foldl (fun m digit => base * m + digit) 0 = Nat.ofDigits base digits.reverse := by
  rw [Nat.ofDigits_eq_foldr, List.foldr_reverse]
  simp only [Nat.cast_id, Nat.add_comm]

def bitsAt (places : List Nat) (width n : Nat) : List Nat :=
  places.map fun place => (n >>> (width - place)) % 2

theorem lt_of_mem_bitsAt : ∀ bit ∈ (bitsAt places width n).reverse, bit < 2 := by
  intro bit hbit
  obtain ⟨place,-,rfl⟩ := List.mem_map.mp (List.mem_reverse.mp hbit)
  exact Nat.mod_lt _ (by decide)

theorem selected_eq_ofDigits (places : List Nat) (width n : Nat) :
    selected places width n = Nat.ofDigits 2 (bitsAt places width n).reverse := by
  rw [← foldl_digits, bitsAt, List.foldl_map]
  rfl

theorem selected_lt (places : List Nat) (width n : Nat) : selected places width n < 2 ^ places.length := by
  have hlength : (bitsAt places width n).reverse.length = places.length := by simp [bitsAt]
  rw [selected_eq_ofDigits, ← hlength]
  exact Nat.ofDigits_lt_base_pow_length (by decide) lt_of_mem_bitsAt

theorem eq_of_testBit_lt (hn : n < 2 ^ width) (hm : m < 2 ^ width)
    (h : ∀ i < width, n.testBit i = m.testBit i) : n = m := by
  apply Nat.eq_of_testBit_eq
  intro i
  by_cases hi : i < width
  · exact h i hi
  · have hwidth : 2 ^ width ≤ 2 ^ i := Nat.pow_le_pow_right (by decide) (by omega)
    rw [Nat.testBit_lt_two_pow (hn.trans_le hwidth), Nat.testBit_lt_two_pow (hm.trans_le hwidth)]

/-- Numbers whose bits at all places agree are equal. -/
theorem selected_inj (hplaces : ∀ i < width, width - i ∈ places) (hn : n < 2 ^ width) (hm : m < 2 ^ width)
    (h : selected places width n = selected places width m) : n = m := by
  rw [selected_eq_ofDigits, selected_eq_ofDigits] at h
  have hbits := Nat.ofDigits_inj_of_len_eq (by decide) (by simp [bitsAt]) lt_of_mem_bitsAt lt_of_mem_bitsAt h
  have hplace := List.map_inj_left.mp (List.reverse_inj.mp hbits)
  apply eq_of_testBit_lt hn hm
  intro i hi
  have hbit := hplace (width - i) (hplaces i hi)
  rw [Nat.sub_sub_self hi.le] at hbit
  rw [Nat.testBit_eq_decide_div_mod_eq, Nat.testBit_eq_decide_div_mod_eq, ← Nat.shiftRight_eq_div_pow,
    ← Nat.shiftRight_eq_div_pow, hbit]

theorem mem_initialPlaces : ∀ i < 64, 64 - i ∈ initialPlaces := by decide

theorem mem_finalPlaces : ∀ i < 64, 64 - i ∈ finalPlaces := by decide

/-! ## Rounds -/

abbrev round (halves : Nat × Nat) (key : Nat) : Nat × Nat :=
  (halves.2, halves.1 ^^^ mixed key halves.2)

theorem mixed_lt (key half : Nat) : mixed key half < 2 ^ 32 := selected_lt mixedPlaces 32 _

theorem round_injective (key : Nat) : Function.Injective fun halves => round halves key := by
  rintro ⟨left,right⟩ ⟨left',right'⟩ h
  obtain ⟨rfl,hleft⟩ := Prod.mk.inj h
  exact Prod.ext (Nat.xor_left_inj.mp hleft) rfl

theorem rounds_lt (keys : List Nat) (left right : Nat) (hleft : left < 2 ^ 32) (hright : right < 2 ^ 32) :
    (keys.foldl round (left,right)).1 < 2 ^ 32 ∧ (keys.foldl round (left,right)).2 < 2 ^ 32 := by
  induction keys generalizing left right with
  | nil => exact ⟨hleft,hright⟩
  | cons key rest ih => exact ih _ _ hright (Nat.xor_lt_two_pow hleft (mixed_lt key right))

theorem crypt_eq (keys : List Nat) (block : Nat) :
    let bits := selected initialPlaces 64 block
    let halves := keys.foldl round (bits / 2 ^ 32,bits % 2 ^ 32)
    crypt keys block = selected finalPlaces 64 (halves.2 * 2 ^ 32 + halves.1) := rfl

theorem crypt_lt (keys : List Nat) (block : Nat) : crypt keys block < 2 ^ 64 := selected_lt finalPlaces 64 _

theorem crypt_inj (keys : List Nat) {block block' : Nat} (hblock : block < 2 ^ 64) (hblock' : block' < 2 ^ 64)
    (h : crypt keys block = crypt keys block') : block = block' := by
  have hbits : selected initialPlaces 64 block < 2 ^ 64 := selected_lt initialPlaces 64 block
  have hbits' : selected initialPlaces 64 block' < 2 ^ 64 := selected_lt initialPlaces 64 block'
  apply selected_inj mem_initialPlaces hblock hblock'
  rw [crypt_eq, crypt_eq] at h
  generalize selected initialPlaces 64 block = bits at h hbits ⊢
  generalize selected initialPlaces 64 block' = bits' at h hbits' ⊢
  have hhalves := rounds_lt keys (bits / 2 ^ 32) (bits % 2 ^ 32) (by omega) (by omega)
  have hhalves' := rounds_lt keys (bits' / 2 ^ 32) (bits' % 2 ^ 32) (by omega) (by omega)
  have hlast := selected_inj mem_finalPlaces (by omega) (by omega) h
  have hrounds : keys.foldl round (bits / 2 ^ 32,bits % 2 ^ 32) =
      keys.foldl round (bits' / 2 ^ 32,bits' % 2 ^ 32) := Prod.ext (by omega) (by omega)
  obtain ⟨hleft,hright⟩ := Prod.mk.inj (foldl_injective round_injective keys hrounds)
  omega

/-! ## Blocks -/

theorem ofBytes_eq_ofDigits (bs : Bytes) : ofBytes bs = Nat.ofDigits 256 (bs.map UInt8.toNat).reverse := by
  rw [← foldl_digits, List.foldl_map]
  rfl

theorem lt_of_mem_bytes (bs : Bytes) : ∀ digit ∈ (bs.map UInt8.toNat).reverse, digit < 256 := by
  intro digit hdigit
  obtain ⟨b,-,rfl⟩ := List.mem_map.mp (List.mem_reverse.mp hdigit)
  exact b.toNat_lt

theorem ofBytes_lt (block : State) : ofBytes block.toList < 2 ^ 64 := by
  have h := Nat.ofDigits_lt_base_pow_length (by decide) (lt_of_mem_bytes block.toList)
  rw [← ofBytes_eq_ofDigits, List.length_reverse, List.length_map, Vector.length_toList] at h
  exact h

theorem ofBytes_injective : Function.Injective fun block : State => ofBytes block.toList := by
  intro block block' h
  dsimp only at h
  rw [ofBytes_eq_ofDigits, ofBytes_eq_ofDigits] at h
  have hdigits := Nat.ofDigits_inj_of_len_eq (by decide) (by simp) (lt_of_mem_bytes _) (lt_of_mem_bytes _) h
  have hbytes := List.map_injective_iff.mpr (fun _ _ => UInt8.toNat_inj.mp) (List.reverse_inj.mp hdigits)
  exact Vector.toList_inj.mp hbytes

theorem toState_inj (hn : n < 2 ^ 64) (hm : m < 2 ^ 64) (h : toState n = toState m) : n = m := by
  have hbyte (k : Fin 8) : (n >>> (8 * (7 - k.val))) % 2 ^ 8 = (m >>> (8 * (7 - k.val))) % 2 ^ 8 := by
    have hk := congrArg (fun s : State => s[k].toNat) h
    simpa [toState] using hk
  apply eq_of_testBit_lt hn hm
  intro i hi
  have hbit := congrArg (fun byte => byte.testBit (i % 8)) (hbyte ⟨7 - i / 8,by omega⟩)
  have hplace : 8 * (7 - (7 - i / 8)) + i % 8 = i := by omega
  have hlt : i % 8 < 8 := Nat.mod_lt _ (by decide)
  simpa only [Nat.testBit_mod_two_pow, Nat.testBit_shiftRight, hplace, hlt, decide_true, Bool.true_and] using hbit

theorem encrypt_injective (keys : List Nat) : Function.Injective (encrypt keys) := by
  intro block block' h
  have hcrypt := toState_inj (crypt_lt keys _) (crypt_lt keys _) h
  exact ofBytes_injective (crypt_inj keys (ofBytes_lt block) (ofBytes_lt block') hcrypt)

theorem encryptThreefold_injective (keys₁ keys₂ keys₃ : List Nat) :
    Function.Injective (encryptThreefold keys₁ keys₂ keys₃) := by
  intro block block' h
  have hthird := toState_inj (crypt_lt keys₃ _) (crypt_lt keys₃ _) h
  have hsecond := crypt_inj keys₃ (crypt_lt _ _) (crypt_lt _ _) hthird
  have hfirst := crypt_inj keys₂.reverse (crypt_lt _ _) (crypt_lt _ _) hsecond
  exact ofBytes_injective (crypt_inj keys₁ (ofBytes_lt block) (ofBytes_lt block') hfirst)

end SealedRows.Des
