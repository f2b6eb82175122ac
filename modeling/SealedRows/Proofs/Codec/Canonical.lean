import SealedRows.Proofs.Cipher.Keystream
import SealedRows.Proofs.Codec.Legible

/-! # Canonical forms

Each kind admits the values of its own type, and null. What is read of a stored value is the value
again in a form that each kind has: null, integers, bytes and wide doubles stay as they are, and so do
moments without an offset. A moment at an offset becomes the same instant on the clock of universal
time, a decimal keeps its sign and number and loses a positive exponent, and in a layout a high
surrogate and the low one behind it become the character that they denote.
-/
namespace SealedRows

/-- The values of the own type of a kind, and null. -/
inductive ValueKind.Admits : ValueKind → Value → Prop where
  | null (kind : ValueKind) : Admits kind .none
  | integer (l : IntLayout) {v : Value} (h : v.integer?.isSome) : Admits (.integer l) v
  | float32 (x : Double) : Admits .float32 (.float x)
  | float64 (x : Double) : Admits .float64 (.float x)
  | decimal (d : Decimal) : Admits .decimal (.decimal d)
  | bool (v : Value) : Admits .bool v
  | string (t : Text) : Admits .string (.text t)
  | timestamp (m : Moment) : Admits .timestamp (.moment m)
  | bytes (bs : Bytes) : Admits .bytes (.bytes bs)
  | buffer (bs : Bytes) : Admits .bytes (.buffer bs)

/-- The canonical form of a value of a kind, in an encrypted column or in a plain one. -/
inductive Canonical (isEncrypted : Bool) : ValueKind → Value → Value → Prop where
  | null (kind : ValueKind) : Canonical isEncrypted kind .none .none
  | integer (l : IntLayout) {v : Value} {n : Int} (h : v.integer? = some n) :
      Canonical isEncrypted (.integer l) v (.int n)
  | float64 (x : Double) : Canonical isEncrypted .float64 (.float x) (.float x)
  /-- Four bytes hold the double, or a plain column holds all eight. -/
  | float32 (x : Double) (h : x.IsSingle ∨ !isEncrypted) :
      Canonical isEncrypted .float32 (.float x) (.float x)
  /-- Four bytes hold the double nearest to it. -/
  | float32Nearest {x : Double} {pattern : Nat} (hx : ¬x.IsSingle) (hencrypted : isEncrypted)
      (h : x.toSingle? = some pattern) :
      Canonical isEncrypted .float32 (.float x) (.float (.ofSingle pattern))
  | decimal (negative : Bool) (c : Nat) (e : Int) :
      Canonical isEncrypted .decimal (.decimal (.finite negative c e))
        (.decimal (.finite negative (c * 10 ^ e.toNat) (min e 0)))
  | bool {v : Value} {b : Bool} (hv : v ≠ .none) (h : v.truth = .ok b) :
      Canonical isEncrypted .bool v (.bool b)
  | string (t : Text) (h : !isEncrypted) : Canonical isEncrypted .string (.text t) (.text t)
  | stringJoined (t : Text) (h : isEncrypted) :
      Canonical isEncrypted .string (.text t) (.text t.joinedPairs)
  | timestamp {m : Moment} (h : m.offset = none) :
      Canonical isEncrypted .timestamp (.moment m) (.moment m)
  | timestampUniversal {m u : Moment} (h : m.offset.isSome) (hoffset : u.offset = some 0)
      (hinstant : u.instant = m.instant) : Canonical isEncrypted .timestamp (.moment m) (.moment u)
  | bytes (bs : Bytes) : Canonical isEncrypted .bytes (.bytes bs) (.bytes bs)
  | buffer (bs : Bytes) : Canonical isEncrypted .bytes (.buffer bs) (.bytes bs)

namespace ValueKind

theorem canonical_single {x : Double} {bs : Bytes} (h : float32.toBytes (.float x) = .ok bs) :
    Canonical true float32 (.float x) (.float (.ofSingle (Bytes.toNat bs))) := by
  simp only [toBytes, Value.numberToDouble] at h
  split at h
  · rename_i pattern hpattern
    cases h
    have hlt : pattern < 256 ^ 4 := Double.toSingle?_lt hpattern
    rw [Bytes.toNat_ofNat_of_lt hlt]
    by_cases hx : x.IsSingle
    · obtain ⟨_,hp,hread⟩ := hx.ofSingle_toSingle?
      cases hpattern.symm.trans hp
      rw [hread]
      exact .float32 x (Or.inl hx)
    · exact .float32Nearest hx rfl hpattern
  · cases h

theorem canonical_moment (isEncrypted : Bool) {m : Moment} {bs : Bytes}
    (h : timestamp.toBytes (.moment m) = .ok bs) :
    Canonical isEncrypted timestamp (.moment m) (.moment (Moment.ofBytes bs)) := by
  simp only [toBytes] at h
  split at h
  · rename_i hm
    cases h
    have hu := Moment.ofBytes_toBytes? hm
    obtain ⟨hoffset,hinstant⟩ := Moment.toUniversal?_spec hu
    cases ho : m.offset with
    | none =>
      rw [Moment.toUniversal?_of_no_offset ho] at hu
      cases hu
      exact .timestamp ho
    | some o => exact .timestampUniversal (by simp [ho]) (by simp [hoffset, ho]) hinstant
  · cases h

/-- What is read from the layout of an admitted value is its canonical form. -/
theorem canonical_ofBytes {kind : ValueKind} {v w : Value} {bs : Bytes} (hadmits : kind.Admits v)
    (hv : v ≠ .none) (h : kind.toBytes v = .ok bs) (hw : kind.ofBytes bs = .ok w) :
    Canonical true kind v w := by
  have hread : kind.ofSizedBytes bs = .ok w := by
    cases hsize : kind.size? with
    | some n => rwa [ofBytes_of_size hsize (length_toBytes hsize h)] at hw
    | none => rwa [ofBytes_of_no_size hsize] at hw
  cases hadmits with
  | null => exact absurd rfl hv
  | integer l hv =>
    obtain ⟨n,hn⟩ := Option.isSome_iff_exists.mp hv
    simp only [toBytes, hn] at h
    split at h
    · rename_i hholds
      cases h
      cases hread
      rw [IntLayout.ofBytes_toBytes hholds]
      exact .integer l hn
    · cases h
  | float32 x =>
    cases hread
    exact canonical_single h
  | float64 x =>
    cases h
    cases hread
    rw [Double.ofBytes_toBytes]
    exact .float64 x
  | decimal d =>
    rcases d with ⟨negative,c,e⟩ | negative | ⟨negative,signaling,payload⟩
    · cases hread
      rw [(Decimal.ofBytes_toBytes h).1]
      exact .decimal negative c e
    · cases h
    · cases h
  | bool v =>
    obtain ⟨b,hb,rfl⟩ := map_eq_ok.mp h
    cases hread
    cases b <;> exact .bool hv hb
  | string t =>
    cases h
    rw [ofSizedBytes, Text.ofUtf16?_toUtf16] at hread
    cases hread
    exact .stringJoined t rfl
  | timestamp m =>
    cases hread
    exact canonical_moment true h
  | bytes bs =>
    cases h
    cases hread
    exact .bytes bs
  | buffer bs =>
    cases h
    cases hread
    exact .buffer bs

end ValueKind
end SealedRows
