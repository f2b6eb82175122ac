import SealedRows.Cipher.Keystream

/-! # Keystreams are their own inverses

The keystream of a column depends on the data only through their length, which adding it does not
change. Adding it twice therefore gives back the data. Whether it can be added depends neither on the
data nor on the key.
-/
namespace SealedRows

namespace Bytes

theorem xor_left_comm (x y z : UInt8) : x ^^^ (y ^^^ z) = y ^^^ (x ^^^ z) := by
  rw [← UInt8.xor_assoc, UInt8.xor_comm x y, UInt8.xor_assoc]

theorem xor_cancel_left (x y : UInt8) : x ^^^ (x ^^^ y) = y := by
  rw [← UInt8.xor_assoc, UInt8.xor_self, UInt8.zero_xor]

@[simp] theorem length_added (a b : Bytes) : (a.added b).length = min a.length b.length :=
  List.length_zipWith

theorem added_added {a b : Bytes} (h : a.length ≤ b.length) : (a.added b).added b = a := by
  induction a generalizing b with
  | nil => rfl
  | cons x a ih =>
    cases b with
    | nil => simp at h
    | cons y b =>
      have hbyte : x ^^^ y ^^^ y = x := by rw [UInt8.xor_assoc, UInt8.xor_self, UInt8.xor_zero]
      have htail : a.length ≤ b.length := by simpa using h
      rw [added, added, List.zipWith_cons_cons, List.zipWith_cons_cons, hbyte]
      exact congrArg (x :: ·) (ih htail)

end Bytes

/-- Steps that lose nothing lose nothing together. -/
theorem foldl_injective {α β : Type} {f : β → α → β} (hf : ∀ a, Function.Injective fun b => f b a) (l : List α) :
    Function.Injective fun b => l.foldl f b := by
  induction l with
  | nil => exact fun _ _ h => h
  | cons a rest ih => exact fun _ _ h => hf a (ih h)

theorem Algorithm.blockSize_pos (a : Algorithm) : 0 < a.blockSize := by cases a <;> decide

namespace CipherContext
variable (c : CipherContext)

/-- As many blocks are made as cover the data. -/
theorem le_blocks_mul (a : Algorithm) (length : Nat) :
    length ≤ (length + a.blockSize - 1) / a.blockSize * a.blockSize := by
  have hsize := a.blockSize_pos
  have hdiv := Nat.div_add_mod (length + a.blockSize - 1) a.blockSize
  have hmod := Nat.mod_lt (length + a.blockSize - 1) hsize
  rw [Nat.mul_comm]
  omega

theorem le_length_keystreamFor (ordinal length : Nat) :
    length ≤ (c.keystreamFor ordinal length).length := by
  rw [keystreamFor, length_keystream]
  exact le_blocks_mul c.algorithm length

theorem length_applied {data out : Bytes} {ordinal : Int} (h : c.applied data ordinal = .ok out) :
    out.length = data.length := by
  have hk := c.le_length_keystreamFor ordinal.toNat data.length
  unfold applied at h
  cases hs : c.initialState ordinal with
  | error fault =>
    rw [hs] at h
    cases h
  | ok state =>
    rw [hs] at h
    cases h
    rw [Bytes.length_added, Nat.min_eq_left hk]

/-- Only the number of the column decides whether there is a keystream. -/
theorem exists_applied_iff (data : Bytes) {ordinal : Int} :
    (∃ out, c.applied data ordinal = .ok out) ↔ 0 ≤ ordinal ∧ ordinal < 2 ^ (32 : Nat) := by
  unfold applied initialState
  split
  · exact iff_of_false nofun (by omega)
  · split
    · exact iff_of_false nofun (by omega)
    · exact iff_of_true ⟨_,rfl⟩ (by omega)

/-- What a keystream was added to is got back by adding it again. -/
theorem applied_applied {data out : Bytes} {ordinal : Int} (h : c.applied data ordinal = .ok out) :
    c.applied out ordinal = .ok data := by
  unfold applied at h ⊢
  cases hs : c.initialState ordinal with
  | error fault =>
    rw [hs] at h
    cases h
  | ok state =>
    rw [hs] at h
    cases h
    have hk := c.le_length_keystreamFor ordinal.toNat data.length
    simp only [Except.map, Bytes.length_added, Nat.min_eq_left hk, Bytes.added_added hk]

theorem exists_ofBytes_iff {a : Algorithm} {key salt : Bytes} :
    (∃ k, ofBytes a key salt = .ok k) ↔ a.keySize ≤ key.length ∧ salt.length = saltSize := by
  unfold ofBytes
  split
  · exact iff_of_false nofun (by omega)
  · split
    · exact iff_of_true ⟨_,rfl⟩ (by omega)
    · exact iff_of_false nofun (by omega)

end CipherContext
end SealedRows
