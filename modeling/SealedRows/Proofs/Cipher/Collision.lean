import SealedRows.Proofs.Cipher.Aes
import SealedRows.Proofs.Cipher.Des
import SealedRows.Proofs.Cipher.Stream

/-! # Equal data in different places

A cipher takes different registers to different blocks, so two keystreams differ in their first block
unless they begin with the same register. The register is the sum of the salt and the number of the column,
which tells when this is so: never for two columns of one row, nor for one column of two rows whose salts
differ.
-/
namespace SealedRows

theorem Algorithm.encryption_injective (a : Algorithm) (key : Bytes) : Function.Injective (a.encryption key) := by
  cases a with
  | aes256 => exact Aes.encrypt_injective _ _
  | aes192 => exact Aes.encrypt_injective _ _
  | aes128 => exact Aes.encrypt_injective _ _
  | des => exact Des.encrypt_injective _
  | tripleDes => exact Des.encryptThreefold_injective _ _ _

namespace Bytes

theorem ofNat_xor (width m n : Nat) : ofNat width (m ^^^ n) = (ofNat width m).added (ofNat width n) := by
  induction width generalizing m n with
  | zero => rfl
  | succ width ih =>
    have hbyte : UInt8.ofNat (m ^^^ n) = UInt8.ofNat m ^^^ UInt8.ofNat n := by
      apply UInt8.toNat_inj.mp
      simp
    have hrest : (m ^^^ n) / 256 = m / 256 ^^^ n / 256 := Nat.xor_div_two_pow (n := 8)
    rw [ofNat, hbyte, hrest, ih]
    rfl

theorem xor_eq_xor_iff {w x y z : UInt8} : w ^^^ x = y ^^^ z ↔ w ^^^ y = x ^^^ z := by
  constructor
  · intro h
    have hw : w = x ^^^ (y ^^^ z) := by rw [← h, UInt8.xor_comm w, xor_cancel_left]
    rw [hw, UInt8.xor_assoc, UInt8.xor_comm _ y, xor_cancel_left]
  · intro h
    have hw : w = y ^^^ (x ^^^ z) := by rw [← h, UInt8.xor_comm w, xor_cancel_left]
    rw [hw, UInt8.xor_assoc, UInt8.xor_comm _ x, xor_cancel_left]

end Bytes

namespace CipherContext
variable {a : Algorithm} {key : Bytes} {s₁ s₂ : Salt} {o₁ o₂ : Nat}

def ordinalByte (ordinal i : Nat) : UInt8 := (Bytes.ofNat 4 ordinal).getD (i % 4) 0

theorem ordinalByte_xor (i : Nat) : ordinalByte (o₁ ^^^ o₂) i = ordinalByte o₁ i ^^^ ordinalByte o₂ i := by
  have hi : i % 4 < 4 := Nat.mod_lt i (by decide)
  simp [ordinalByte, Bytes.ofNat_xor, Bytes.added, hi]

theorem getElem_register (c : CipherContext) (ordinal i : Nat) (hi : i < c.algorithm.blockSize) :
    (c.register ordinal)[i] = c.saltByte i ^^^ ordinalByte ordinal i := by
  simp [register, ordinalByte]

theorem saltByte_of_lt (c : CipherContext) {i : Nat} (hi : i < 8) : c.saltByte i = c.salt.toList.getD i 0 :=
  if_pos hi

theorem saltByte_add (c : CipherContext) {i : Nat} (hi : i < 8) : c.saltByte (i + 8) = c.saltByte i ^^^ 0xFF := by
  have hlow : ¬i + 8 < saltSize := Nat.not_lt.mpr (Nat.le_add_left 8 i)
  have hplace : i + 8 - saltSize = i := Nat.add_sub_cancel i 8
  rw [saltByte, if_neg hlow, saltByte_of_lt c hi, hplace]

theorem ordinalByte_add (ordinal i : Nat) : ordinalByte ordinal (i + 8) = ordinalByte ordinal i := by
  have hplace : (i + 8) % 4 = i % 4 := by omega
  rw [ordinalByte, hplace, ordinalByte]

theorem register_eq_iff_bytes : register ⟨a,key,s₁⟩ o₁ = register ⟨a,key,s₂⟩ o₂ ↔
    ∀ i < 8, s₁.toList.getD i 0 ^^^ s₂.toList.getD i 0 = ordinalByte o₁ i ^^^ ordinalByte o₂ i := by
  have hsize : a.blockSize = 8 ∨ a.blockSize = 16 := by cases a <;> decide
  constructor
  · intro h i hi
    have hblock : i < a.blockSize := by omega
    have hleft := getElem_register ⟨a,key,s₁⟩ o₁ i hblock
    have hright := getElem_register ⟨a,key,s₂⟩ o₂ i hblock
    rw [saltByte_of_lt _ hi] at hleft hright
    rw [h, hright] at hleft
    exact Bytes.xor_eq_xor_iff.mp hleft.symm
  · intro h
    have hfirst {i : Nat} (hi : i < 8) : saltByte ⟨a,key,s₁⟩ i ^^^ ordinalByte o₁ i =
        saltByte ⟨a,key,s₂⟩ i ^^^ ordinalByte o₂ i := by
      rw [saltByte_of_lt _ hi, saltByte_of_lt _ hi]
      exact Bytes.xor_eq_xor_iff.mp (h i hi)
    apply Vector.ext
    intro i hi
    rw [getElem_register, getElem_register]
    change i < a.blockSize at hi
    by_cases hlow : i < 8
    · exact hfirst hlow
    · -- The other half is the complement of the first one.
      obtain ⟨j,rfl⟩ : ∃ j, i = j + 8 := ⟨i - 8,by omega⟩
      have hj : j < 8 := by omega
      rw [saltByte_add _ hj, saltByte_add _ hj, ordinalByte_add, ordinalByte_add, UInt8.xor_assoc,
        UInt8.xor_assoc, UInt8.xor_comm 0xFF, UInt8.xor_comm 0xFF, ← UInt8.xor_assoc, hfirst hj,
        UInt8.xor_assoc]

/-- The bytes of a column's number, written twice. -/
def ordinalTwice (ordinal : Nat) : Bytes := Bytes.ofNat 4 ordinal ++ Bytes.ofNat 4 ordinal

theorem getElem?_ordinalTwice (ordinal : Nat) {i : Nat} (hi : i < 8) :
    (ordinalTwice ordinal)[i]? = some (ordinalByte ordinal i) := by
  by_cases hlow : i < 4
  · simp [ordinalTwice, ordinalByte, List.getElem?_append, hlow, Nat.mod_eq_of_lt hlow]
  · have hplace : i % 4 = i - 4 := by omega
    have hhigh : i - 4 < 4 := by omega
    simp [ordinalTwice, ordinalByte, List.getElem?_append, hlow, hplace, hhigh]

theorem getElem?_added (s₁ s₂ : Salt) {i : Nat} (hi : i < 8) :
    (Bytes.added s₁.toList s₂.toList)[i]? = some (s₁.toList.getD i 0 ^^^ s₂.toList.getD i 0) := by
  have h₁ : i < s₁.toList.length := s₁.length_toList.symm ▸ hi
  have h₂ : i < s₂.toList.length := s₂.length_toList.symm ▸ hi
  rw [Bytes.added, List.getElem?_zipWith, List.getD_eq_getElem?_getD, List.getD_eq_getElem?_getD,
    List.getElem?_eq_getElem h₁, List.getElem?_eq_getElem h₂]
  rfl

theorem register_eq_iff : register ⟨a,key,s₁⟩ o₁ = register ⟨a,key,s₂⟩ o₂ ↔
    Bytes.added s₁.toList s₂.toList = ordinalTwice (o₁ ^^^ o₂) := by
  rw [register_eq_iff_bytes]
  constructor
  · intro h
    apply List.ext_getElem?
    intro i
    by_cases hi : i < 8
    · rw [getElem?_added _ _ hi, getElem?_ordinalTwice _ hi, h i hi, ordinalByte_xor]
    · have hleft : (Bytes.added s₁.toList s₂.toList).length ≤ i := by
        rw [Bytes.length_added, Vector.length_toList, Vector.length_toList, Nat.min_self]
        exact Nat.not_lt.mp hi
      have hright : (ordinalTwice (o₁ ^^^ o₂)).length ≤ i := by simpa [ordinalTwice] using hi
      rw [List.getElem?_eq_none hleft, List.getElem?_eq_none hright]
  · intro h i hi
    have hbyte := congrArg (fun bs : List UInt8 => bs[i]?) h
    simp only [getElem?_added _ _ hi, getElem?_ordinalTwice _ hi, ordinalByte_xor] at hbyte
    exact Option.some.inj hbyte

/-- Two keystreams that agree on a block begin with the same register. -/
theorem appliedWith_eq_iff (key : Bytes) (s₁ s₂ : Salt) {encrypt : a.Block → a.Block}
    (hencrypt : Function.Injective encrypt) (h₁ : o₁ < 2 ^ (32 : Nat)) (h₂ : o₂ < 2 ^ (32 : Nat))
    {data : Bytes} (hdata : a.blockSize ≤ data.length) :
    appliedWith ⟨a,key,s₁⟩ encrypt data o₁ = appliedWith ⟨a,key,s₂⟩ encrypt data o₂ ↔
      register ⟨a,key,s₁⟩ o₁ = register ⟨a,key,s₂⟩ o₂ := by
  have hleft := addsStream_appliedWith ⟨a,key,s₁⟩ encrypt h₁
  have hright := addsStream_appliedWith ⟨a,key,s₂⟩ encrypt h₂
  constructor
  · intro h
    apply hencrypt
    apply Vector.toList_inj.mp
    rw [← start_streamByte encrypt, ← start_streamByte encrypt]
    apply List.map_congr_left
    intro i hi
    exact hleft.agree hright h ((List.mem_range.mp hi).trans_le hdata)
  · intro h
    have hresult := hleft data
    rw [h] at hresult
    exact hresult.trans (hright data).symm

theorem ordinal_eq_of_register_eq {salt : Salt} (h₁ : o₁ < 2 ^ (32 : Nat)) (h₂ : o₂ < 2 ^ (32 : Nat))
    (h : register ⟨a,key,salt⟩ o₁ = register ⟨a,key,salt⟩ o₂) : o₁ = o₂ := by
  have hbytes := register_eq_iff_bytes.mp h
  have hsame : Bytes.ofNat 4 o₁ = Bytes.ofNat 4 o₂ := by
    apply List.ext_getElem (by simp)
    intro i hi hi'
    have hplace : i % 4 = i := Nat.mod_eq_of_lt (by simpa using hi)
    have hbyte := hbytes i (by simp at hi; omega)
    rw [UInt8.xor_self, eq_comm, UInt8.xor_eq_zero_iff, ordinalByte, ordinalByte, hplace] at hbyte
    rwa [List.getD_eq_getElem _ _ hi, List.getD_eq_getElem _ _ hi'] at hbyte
  have hnumber := congrArg Bytes.toNat hsame
  rw [Bytes.toNat_ofNat, Bytes.toNat_ofNat] at hnumber
  omega

theorem salt_eq_of_register_eq {ordinal : Nat} (h : register ⟨a,key,s₁⟩ ordinal = register ⟨a,key,s₂⟩ ordinal) :
    s₁ = s₂ := by
  have hbytes := register_eq_iff_bytes.mp h
  apply Vector.toList_inj.mp
  apply List.ext_getElem (by rw [s₁.length_toList, s₂.length_toList])
  intro i hi hi'
  have hbyte := hbytes i (hi.trans_eq s₁.length_toList)
  rwa [UInt8.xor_self, UInt8.xor_eq_zero_iff, List.getD_eq_getElem _ _ hi, List.getD_eq_getElem _ _ hi'] at hbyte

/-- Data of at least one block look alike under two salts in two columns exactly if the sum of the salts is
the sum of the columns' numbers, written twice. So they look different in two columns of one row, and in one
column of two rows with different salts. -/
theorem applied_eq_iff_salts (a : Algorithm) (key : Bytes) (s₁ s₂ : Salt) (h₁ : o₁ < 2 ^ (32 : Nat))
    (h₂ : o₂ < 2 ^ (32 : Nat)) {data : Bytes} (hdata : a.blockSize ≤ data.length) :
    ∃ out₁ out₂, applied ⟨a,key,s₁⟩ data o₁ = .ok out₁ ∧ applied ⟨a,key,s₂⟩ data o₂ = .ok out₂ ∧
      (out₁ = out₂ ↔ Bytes.added s₁.toList s₂.toList = ordinalTwice (o₁ ^^^ o₂)) ∧
      (s₁ = s₂ → o₁ ≠ o₂ → out₁ ≠ out₂) ∧ (o₁ = o₂ → s₁ ≠ s₂ → out₁ ≠ out₂) := by
  have hinjective := a.encryption_injective key
  have hsame := appliedWith_eq_iff key s₁ s₂ hinjective h₁ h₂ hdata
  have hout₁ := addsStream_appliedWith ⟨a,key,s₁⟩ (a.encryption key) h₁ data
  have hout₂ := addsStream_appliedWith ⟨a,key,s₂⟩ (a.encryption key) h₂ data
  dsimp only at hout₁ hout₂
  rw [hout₁, hout₂, Except.ok.injEq] at hsame
  refine ⟨_,_,hout₁,hout₂,hsame.trans register_eq_iff,?_,?_⟩
  · rintro rfl hne h
    exact hne (ordinal_eq_of_register_eq h₁ h₂ (hsame.mp h))
  · rintro rfl hne h
    exact hne (salt_eq_of_register_eq (hsame.mp h))

end CipherContext

namespace Twin

def key : Bytes := List.replicate 32 0

def salt : Salt := #v[1, 2, 3, 4, 5, 6, 7, 8]

def salt' : Salt := #v[4, 2, 3, 4, 0, 6, 7, 8]

def data : Bytes := List.replicate 20 9

/-- Different salts may meet in different columns. -/
theorem applied_twin : 2 < 2 ^ (32 : Nat) ∧ 7 < 2 ^ (32 : Nat) ∧ Algorithm.aes256.blockSize ≤ data.length ∧
    ∃ out, CipherContext.applied ⟨.aes256,key,salt⟩ data 2 = .ok out ∧
      CipherContext.applied ⟨.aes256,key,salt'⟩ data 7 = .ok out := by
  have h₁ : 2 < 2 ^ (32 : Nat) := by decide
  have h₂ : 7 < 2 ^ (32 : Nat) := by decide
  have hdata : Algorithm.aes256.blockSize ≤ data.length := by decide
  obtain ⟨out,out',hout,hout',hsame,-⟩ :=
    CipherContext.applied_eq_iff_salts .aes256 key salt salt' h₁ h₂ hdata
  have hsalts : Bytes.added salt.toList salt'.toList = CipherContext.ordinalTwice (2 ^^^ 7) := by decide
  rw [← hsame.mpr hsalts] at hout'
  exact ⟨h₁,h₂,hdata,out,hout,hout'⟩

end Twin
end SealedRows
