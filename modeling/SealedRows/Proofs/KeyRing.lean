import SealedRows.KeyRing

/-! # Key rings

A value is taken for a key if it is made of enough bytes. A ring always finds the key of a table before its
own one, and it fails for no other reason than that there is neither.
-/
namespace SealedRows

def Value.IsBytes (v : Value) (key : Bytes) : Prop := v = .bytes key ∨ v = .buffer key

theorem Value.IsBytes.unique {v : Value} {key other : Bytes} (h : v.IsBytes key) (hother : v.IsBytes other) :
    key = other := by
  unfold IsBytes at h hother
  grind

namespace Algorithm
variable {a : Algorithm} {v : Value}

theorem checkedKey_eq_ok {key : Bytes} :
    a.checkedKey v = .ok key ↔ v.IsBytes key ∧ a.keySize ≤ key.length := by
  unfold checkedKey Value.IsBytes
  split
  · simp
  · next bs =>
    split <;> simp <;> grind
  · next bs =>
    split <;> simp <;> grind
  · next hbytes hbuffer =>
    simp only [reduceCtorEq, false_iff]
    rintro ⟨rfl | rfl,_⟩
    · exact hbytes _ rfl
    · exact hbuffer _ rfl

theorem category_of_checkedKey {fault : KeyFault} (h : a.checkedKey v = .error fault) :
    fault.report.category = .library .invalidKey := by
  unfold checkedKey at h
  split at h
  · cases h
    rfl
  · split at h <;> cases h
    rfl
  · split at h <;> cases h
    rfl
  · cases h
    rfl

end Algorithm

namespace KeyRing
variable {ring : KeyRing} {e : RegistryEntry} {key : Bytes}

theorem resolve_eq (ring : KeyRing) (e : RegistryEntry) : ring.resolve e =
    match e.key.or ring.defaultKey with
    | some key => .ok key
    | none => .error (.notInstalled e.schema.name) := by
  unfold resolve
  cases e.key <;> cases ring.defaultKey <;> rfl

theorem resolve_eq_ok_iff : ring.resolve e = .ok key ↔ e.key.or ring.defaultKey = some key := by
  rw [resolve_eq]
  cases e.key.or ring.defaultKey <;> simp

theorem resolve_eq_error_iff {fault : KeyFault} : ring.resolve e = .error fault ↔
    fault = .notInstalled e.schema.name ∧ ∀ key, ring.resolve e ≠ .ok key := by
  rw [resolve_eq]
  cases e.key.or ring.defaultKey <;> simp [eq_comm]

/-- With a key that is long enough every salt is taken. -/
theorem contextFor_of_resolve (h : ring.resolve e = .ok key) (hlong : ring.algorithm.keySize ≤ key.length)
    (salt : Salt) : ring.contextFor e salt.toList = .ok ⟨ring.algorithm,key,salt⟩ := by
  have hsalt : salt.toList.length = saltSize := Vector.length_toList
  unfold contextFor CipherContext.ofBytes
  rw [h]
  dsimp only
  rw [if_neg (Nat.not_lt.mpr hlong), dif_pos hsalt]
  rfl

theorem contextFor_of_error {fault : KeyFault} (h : ring.resolve e = .error fault) (salt : Bytes) :
    ring.contextFor e salt = .error (.key fault) := by
  unfold contextFor
  rw [h]

end KeyRing

end SealedRows
