import SealedRows.Proofs.Codec.Represented
import SealedRows.Proofs.Decimal.Equality
import SealedRows.Proofs.Double.Overflow

/-! # Encryption of a column

A plain column holds doubles and texts as they are, and an encrypted one holds the layout of every kind.
The layout of the short kind of doubles rounds, and refuses what is too large; in the layout of a text a
high surrogate and the low one behind it are one character. Apart from these values a column accepts
and gives back the same whether it is encrypted or not.
-/
namespace SealedRows

namespace Text

def IsJoined (t : Text) : Prop := t.IsChain fun c d => ¬(c.isHighSurrogate ∧ d.isLowSurrogate)

theorem length_joinedPairs_le (t : Text) : (joinedPairs t).length ≤ t.length := by
  fun_induction joinedPairs t with
  | case1 => exact Nat.le_refl _
  | case2 c => exact Nat.le_refl _
  | case3 c d rest h ih =>
    simp only [List.length_cons]
    omega
  | case4 c d rest h ih =>
    simp only [List.length_cons] at ih ⊢
    omega

theorem joinedPairs_eq_iff (t : Text) : joinedPairs t = t ↔ t.IsJoined := by
  unfold IsJoined
  fun_induction joinedPairs t with
  | case1 => exact iff_of_true rfl .nil
  | case2 c => exact iff_of_true rfl (.singleton c)
  | case3 c d rest h ih =>
    rw [List.isChain_cons_cons]
    refine iff_of_false (fun heq => ?_) (fun hchain => hchain.1 (by simpa using h))
    have hlength := length_joinedPairs_le rest
    have hsame := congrArg List.length heq
    simp only [List.length_cons] at hsame
    omega
  | case4 c d rest h ih =>
    rw [List.isChain_cons_cons, List.cons.injEq, ih]
    simp only [Bool.and_eq_true] at h
    exact ⟨fun hrest => ⟨h,hrest.2⟩,fun hrest => ⟨rfl,hrest.2⟩⟩

end Text

namespace Double
open BinaryFormat

theorem number_nonneg (f : BinaryFormat) (magnitude : ℕ) : 0 ≤ f.number magnitude := by
  unfold number
  positivity

/-- A double that is a number has its size, or it is infinite. -/
theorem extended?_eq_some {x : Double} {q : ExtendedRat} (h : x.extended? = some q) :
    (x.isInfinite ∧ q = .infinite x.isNegative) ∨
      (x.isFinite ∧ ∃ r : ℚ, q = .ofRat r ∧ |r| = double.number x.magnitude) := by
  unfold extended? at h
  split at h
  · cases h
  · rename_i hnan
    split at h
    · rename_i hinfinite
      cases h
      exact Or.inl ⟨hinfinite,rfl⟩
    · rename_i hinfinite
      cases h
      rw [isNaN_iff] at hnan
      rw [isInfinite_iff] at hinfinite
      refine Or.inr ⟨(isFinite_iff x).mpr (by omega),_,rfl,?_⟩
      have hnonneg := number_nonneg double x.magnitude
      split
      · rw [abs_neg, abs_of_nonneg hnonneg]
      · exact abs_of_nonneg hnonneg

/-- Four bytes hold every double that is the same number as one that they hold. -/
theorem IsSingle.of_extended? {x y : Double} (hy : y.IsSingle) {q : ExtendedRat}
    (hx : x.extended? = some q) (hq : y.extended? = some q) : x.IsSingle := by
  rcases extended?_eq_some hx with ⟨hinfinite,_⟩ | ⟨hfinite,r,rfl,hsize⟩
  · exact Or.inl hinfinite
  · rcases extended?_eq_some hq with ⟨_,hne⟩ | ⟨hyfinite,r',hr,hsize'⟩
    · exact absurd hne (ExtendedRat.ofRat_ne_infinite r _)
    · cases ExtendedRat.strictMono_ofRat.injective hr
      have hlt := (isFinite_iff y).mp hyfinite
      rcases hy with hinfinite | ⟨payload,_,hmagnitude⟩ | ⟨_,m,e,hm,hlow,hhigh,hnumber⟩
      · exact absurd ((isInfinite_iff y).mp hinfinite) hlt.ne
      · omega
      · exact Or.inr (Or.inr ⟨hfinite,m,e,hm,hlow,hhigh,by rw [← hsize, hsize', hnumber]⟩)

end Double

namespace Value

theorem isKey_float {x : Double} (h : ¬x.isNaN) : IsKey (.float x) := by
  refine .number rfl ?_
  unfold Decimal.ofDouble
  rw [if_neg h]
  split
  · exact beq_self_eq_true _
  · exact Decimal.sameAs_finite.mpr ⟨rfl,Or.inr rfl⟩

/-- Whether two values are read as equal. No missing number is equal to any other, so two of them count
as read alike. -/
def ReadsAs (v w : Value) : Prop :=
  v.equals w = .ok true ∨ ∃ x y, v = .float x ∧ w = .float y ∧ x.isNaN ∧ y.isNaN

theorem SameKey.readsAs {v w : Value} (h : SameKey v w) (hv : v.IsKey) (hw : w.IsKey) : v.ReadsAs w := by
  obtain ⟨b,hequals,hb⟩ := IsKey.equals_eq (Or.inl hv) hw
  refine Or.inl ?_
  rw [hequals, hb.mpr h]

theorem IsKey.readsAs_self {v : Value} (h : v.IsKey) : v.ReadsAs v := h.sameKey.readsAs h h

theorem readsAs_float_self (x : Double) : ReadsAs (.float x) (.float x) := by
  by_cases hnan : x.isNaN
  · exact Or.inr ⟨x,x,rfl,rfl,hnan,hnan⟩
  · exact (isKey_float hnan).readsAs_self

theorem isSignaling_ofDouble (x : Double) : (Decimal.ofDouble x).isSignaling = false := by
  unfold Decimal.ofDouble
  split
  · rfl
  · split <;> rfl

/-- Doubles that are read alike are the same number, if they are numbers. -/
theorem extended?_of_readsAs {x y : Double} (hx : ¬x.isNaN) (h : ReadsAs (.float x) (.float y)) :
    ∃ q, x.extended? = some q ∧ y.extended? = some q := by
  rcases h with hequals | ⟨_,_,hv,_,hnan,_⟩
  · simp only [equals] at hequals
    rw [sameLeaf_number rfl rfl (isSignaling_ofDouble x) (isSignaling_ofDouble y)] at hequals
    rw [← Decimal.extended?_ofDouble, ← Decimal.extended?_ofDouble]
    injection hequals with hsame
    exact Decimal.extended?_of_sameAs hsame
  · cases hv
    exact absurd hnan hx

theorem readsAs_moment {m n : Moment} (hoffset : m.offset = n.offset) (hinstant : m.instant = n.instant) :
    ReadsAs (.moment m) (.moment n) := by
  have hsame : SameKey (.moment m) (.moment n) := by
    refine .moment ?_
    simp only [Moment.sameAs, hoffset, hinstant, beq_self_eq_true, Bool.and_self]
  exact hsame.readsAs (.moment m) (.moment n)

theorem readsAs_text {t t' : Text} : ReadsAs (.text t) (.text t') ↔ t = t' := by
  constructor
  · rintro (hequals | ⟨_,_,hv,_⟩)
    · simp only [equals] at hequals
      injection hequals with hsame
      exact beq_iff_eq.mp hsame
    · cases hv
  · rintro rfl
    exact (IsKey.text t).readsAs_self

end Value

/-- A column that is encrypted or not, and is the same otherwise. -/
def Column.marked (c : Column) (isEncrypted : Bool) : Column := { c with isEncrypted := isEncrypted }

theorem Column.encode_marked (c : Column) (isEncrypted : Bool) (v : Value) (k : CipherContext) :
    (c.marked isEncrypted).encode v (some k) =
      (c.kind.encode v c.ordinal (if isEncrypted then some k else none)).mapError .value := by
  by_cases hv : v = .none
  · subst hv
    rfl
  · rw [encode_of_ne_none hv]
    cases isEncrypted <;> rfl

theorem Column.decode_marked (c : Column) (isEncrypted : Bool) (raw : Value) (k : CipherContext) :
    (c.marked isEncrypted).decode raw (some k) =
      (c.kind.decode raw c.ordinal (if isEncrypted then some k else none)).mapError .value := by
  by_cases hraw : raw = .none
  · subst hraw
    rfl
  · rw [decode_of_ne_none hraw]
    cases isEncrypted <;> rfl

namespace ValueKind

/-- Whether the layout of a kind has room for a value, as far as a plain column does not ask. -/
def HasRoom : ValueKind → Value → Prop
  | .float32, .float x => x.isFinite → BinaryFormat.double.number x.magnitude < 2 ^ 128 - 2 ^ 103
  | _, _ => True

/-- Whether the layout of a kind keeps a value that a plain column holds as it is. -/
def Keeps : ValueKind → Value → Prop
  | .float32, .float x => x.IsSingle ∨ x.isNaN
  | .string, .text t => t.IsJoined
  | _, _ => True

/-- Whether a value is accepted with a cipher if and only if it is without one, and is then read alike. -/
def IsTransparent (kind : ValueKind) (v : Value) (ordinal : ℕ) (c : CipherContext) : Prop :=
  ((∃ plain, kind.encode v ordinal none = .ok plain) ↔
      ∃ secret, kind.encode v ordinal (some c) = .ok secret) ∧
    ∀ plain secret, kind.encode v ordinal none = .ok plain →
      kind.encode v ordinal (some c) = .ok secret →
      ∃ a b, kind.decode plain ordinal none = .ok a ∧ kind.decode secret ordinal (some c) = .ok b ∧
        a.ReadsAs b

variable {kind : ValueKind} {v : Value}

/-- The two forms in which a value comes back are alike exactly if the layout keeps it. -/
theorem readsAs_iff_keeps (hv : v ≠ .none) {a b : Value} (ha : Canonical false kind v a)
    (hb : Canonical true kind v b) : a.ReadsAs b ↔ kind.Keeps v := by
  cases ha with
  | null => exact absurd rfl hv
  | integer l h =>
    cases hb with
    | null => exact absurd rfl hv
    | integer _ h' =>
      cases h.symm.trans h'
      exact iff_of_true (Value.IsKey.int _).readsAs_self trivial
  | float64 x =>
    cases hb
    exact iff_of_true (Value.readsAs_float_self x) trivial
  | float32 x =>
    cases hb with
    | float32 _ h =>
      have hsingle : x.IsSingle := by simpa using h
      exact iff_of_true (Value.readsAs_float_self x) (Or.inl hsingle)
    | float32Nearest hx _ hpattern =>
      -- A missing number is read as a missing number, with the payload that fits.
      by_cases hnan : x.isNaN
      · obtain ⟨pattern,hp,hread⟩ := Double.isNaN_ofSingle_toSingle? hnan
        cases hpattern.symm.trans hp
        exact iff_of_true (Or.inr ⟨_,_,rfl,rfl,hnan,hread⟩) (Or.inr hnan)
      · refine iff_of_false (fun h => ?_) (not_or.mpr ⟨hx,hnan⟩)
        obtain ⟨q,hq,hq'⟩ := Value.extended?_of_readsAs hnan h
        exact hx ((Double.isSingle_ofSingle _).of_extended? hq hq')
  | float32Nearest _ hfalse => cases hfalse
  | decimal negative c e =>
    cases hb
    refine iff_of_true (Value.IsKey.readsAs_self (.number rfl ?_)) trivial
    exact Decimal.sameAs_finite.mpr ⟨rfl,Or.inr rfl⟩
  | bool _ h =>
    cases hb with
    | null => exact absurd rfl hv
    | bool _ h' =>
      cases h.symm.trans h'
      refine iff_of_true (Value.IsKey.readsAs_self (.number rfl ?_)) trivial
      exact Decimal.sameAs_finite.mpr ⟨rfl,Or.inr rfl⟩
  | string t =>
    cases hb with
    | string _ hfalse => cases hfalse
    | stringJoined => rw [Value.readsAs_text, eq_comm, Text.joinedPairs_eq_iff, Keeps]
  | stringJoined _ hfalse => cases hfalse
  | timestamp h =>
    cases hb with
    | timestamp => exact iff_of_true (Value.IsKey.moment _).readsAs_self trivial
    | timestampUniversal h' => simp [h] at h'
  | timestampUniversal h hoffset hinstant =>
    cases hb with
    | timestamp h' => simp [h'] at h
    | timestampUniversal _ hoffset' hinstant' =>
      refine iff_of_true (Value.readsAs_moment ?_ (hinstant.trans hinstant'.symm)) trivial
      rw [hoffset, hoffset']
  | bytes bs =>
    cases hb
    exact iff_of_true (Value.IsKey.bytes bs).readsAs_self trivial
  | buffer bs =>
    cases hb
    exact iff_of_true (Value.IsKey.bytes bs).readsAs_self trivial

/-- A value has a layout if a plain column accepts it and the layout has room for it. -/
theorem exists_toBytes_iff_plain (hadmits : kind.Admits v) (hv : v ≠ .none) :
    (∃ bs, kind.toBytes v = .ok bs) ↔ (∃ plain, kind.encodePlain v = .ok plain) ∧ kind.HasRoom v := by
  have hown (h : kind.Owns v) (hroom : kind.HasRoom v) : (∃ bs, kind.toBytes v = .ok bs) ↔
      (∃ plain, kind.encodePlain v = .ok plain) ∧ kind.HasRoom v := by
    rw [h.exists_encodePlain_iff, and_iff_left hroom]
  cases hadmits with
  | null => exact absurd rfl hv
  | integer l h => exact hown (.integer l h) trivial
  | float64 x => exact hown (.float64 x) trivial
  | decimal d => exact hown (.decimal d) trivial
  | string t => exact hown (.string t) trivial
  | timestamp m => exact hown (.timestamp m) trivial
  | bytes bs => exact hown (.bytes bs) trivial
  | buffer bs => exact hown (.buffer bs) trivial
  | bool v =>
    have hplain : bool.encodePlain v = v.truth.map fun b => .int (if b then 1 else 0) := rfl
    rw [and_iff_left (show bool.HasRoom v from trivial), hplain, toBytes]
    cases v.truth <;> simp [Except.map]
  | float32 x =>
    have hplain : float32.encodePlain (.float x) = .ok (.float x) := rfl
    rw [and_iff_right ⟨_,hplain⟩, HasRoom, ← x.exists_toSingle?_iff]
    simp only [toBytes, Value.numberToDouble]
    cases x.toSingle? <;> simp

theorem hasRoom_of_keeps (h : kind.Keeps v) : kind.HasRoom v := by
  cases kind with
  | float32 =>
    cases v with
    | float x => exact x.exists_toSingle?_iff.mp (Double.exists_toSingle? h)
    | _ => trivial
  | _ => trivial

/-- Only of what a plain column always accepts there are values that the layout does not keep. -/
theorem exists_encodePlain_of_not_keeps (h : ¬kind.Keeps v) : ∃ plain, kind.encodePlain v = .ok plain := by
  cases kind with
  | float32 =>
    cases v with
    | float x => exact ⟨.float x,rfl⟩
    | _ => exact absurd trivial h
  | string =>
    cases v with
    | text t => exact ⟨.text t,rfl⟩
    | _ => exact absurd trivial h
  | _ => exact absurd trivial h

section
variable (hadmits : kind.Admits v) (hv : v ≠ .none) {ordinal : ℕ} (hordinal : ordinal < 2 ^ 32)
  (c : CipherContext)
include hadmits hv hordinal

theorem exists_encode_sealed_iff_plain : (∃ secret, kind.encode v ordinal (some c) = .ok secret) ↔
    (∃ plain, kind.encode v ordinal none = .ok plain) ∧ kind.HasRoom v := by
  rw [exists_encode_sealed_iff hv hordinal, exists_toBytes_iff_plain hadmits hv, encode_plain kind hv]

theorem isTransparent_iff_keeps : IsTransparent kind v ordinal c ↔ kind.Keeps v := by
  have haccepts := exists_encode_sealed_iff_plain hadmits hv hordinal c
  constructor
  · rintro ⟨hboth,hreads⟩
    by_contra hkeeps
    have hplain := exists_encodePlain_of_not_keeps hkeeps
    rw [← encode_plain kind hv ordinal] at hplain
    obtain ⟨secret,hsecret⟩ := hboth.mp hplain
    obtain ⟨plain,hplain⟩ := hplain
    obtain ⟨a,b,ha,hb,halike⟩ := hreads plain secret hplain hsecret
    obtain ⟨_,ha',hplainForm⟩ := hadmits.decode_encode hv hplain
    obtain ⟨_,hb',hsecretForm⟩ := hadmits.decode_encode hv hsecret
    cases ha.symm.trans ha'
    cases hb.symm.trans hb'
    exact hkeeps ((readsAs_iff_keeps hv hplainForm hsecretForm).mp halike)
  · intro hkeeps
    refine ⟨?_,fun plain secret hplain hsecret => ?_⟩
    · rw [haccepts, and_iff_left (hasRoom_of_keeps hkeeps)]
    · obtain ⟨a,ha,hplainForm⟩ := hadmits.decode_encode hv hplain
      obtain ⟨b,hb,hsecretForm⟩ := hadmits.decode_encode hv hsecret
      exact ⟨a,b,ha,hb,(readsAs_iff_keeps hv hplainForm hsecretForm).mpr hkeeps⟩

/-- Encryption changes neither what is accepted nor what is read back, exactly if the layout keeps the
value. Otherwise a value that the layout has room for is still read back, in the form of its layout. The
same holds of a column that is marked as encrypted. -/
theorem encryption_transparent :
    (IsTransparent kind v ordinal c ↔ kind.Keeps v) ∧
      ((∃ secret, kind.encode v ordinal (some c) = .ok secret) ↔
        (∃ plain, kind.encode v ordinal none = .ok plain) ∧ kind.HasRoom v) ∧
      (∀ cipher stored, kind.encode v ordinal cipher = .ok stored →
        ∃ w, kind.decode stored ordinal cipher = .ok w ∧ Canonical cipher.isSome kind v w) ∧
      ∀ column : Column, column.kind = kind → column.ordinal = ordinal → ∀ isEncrypted : Bool,
        let cipher := if isEncrypted then some c else none
        (column.marked isEncrypted).encode v (some c) = (kind.encode v ordinal cipher).mapError .value ∧
          ∀ raw, (column.marked isEncrypted).decode raw (some c) =
            (kind.decode raw ordinal cipher).mapError .value := by
  refine ⟨isTransparent_iff_keeps hadmits hv hordinal c,
    exists_encode_sealed_iff_plain hadmits hv hordinal c,
    fun cipher stored hstored => hadmits.decode_encode hv hstored,?_⟩
  rintro column rfl hcolumn isEncrypted
  rw [← hcolumn]
  exact ⟨column.encode_marked isEncrypted v c,fun raw => column.decode_marked isEncrypted raw c⟩

end

end ValueKind

namespace Double

def tenth : Double := ⟨0x3FB999999999999A⟩

def half : Double := ofSingle 0x3F000000

def sampleCipher : CipherContext := ⟨.des,[1, 2, 3, 4, 5, 6, 7, 8],Vector.replicate 8 5⟩

theorem not_keeps_tenth : ¬ValueKind.float32.Keeps (.float tenth) := by
  have hpattern : tenth.toSingle? = some 0x3DCCCCCD := by decide +kernel
  have hread : ofSingle 0x3DCCCCCD ≠ tenth := by decide +kernel
  rintro (hsingle | hnan)
  · obtain ⟨pattern,hp,hback⟩ := hsingle.ofSingle_toSingle?
    cases hpattern.symm.trans hp
    exact hread hback
  · exact absurd hnan (by decide)

/-- A tenth is accepted with and without a cipher, and is not read alike. -/
theorem not_transparent_tenth : ¬ValueKind.IsTransparent .float32 (.float tenth) 1 sampleCipher := by
  rw [ValueKind.isTransparent_iff_keeps (.float32 tenth) nofun (by decide)]
  exact not_keeps_tenth

theorem transparent_half_not_pair :
    ValueKind.IsTransparent .float32 (.float half) 1 sampleCipher ∧
      ¬ValueKind.IsTransparent .string (.text [0xD83D, 0xDE00]) 1 sampleCipher := by
  have hhalf := ValueKind.encryption_transparent (.float32 half) nofun (show 1 < 2 ^ 32 by decide)
    sampleCipher
  have hpair := ValueKind.encryption_transparent (.string [0xD83D, 0xDE00]) nofun
    (show 1 < 2 ^ 32 by decide) sampleCipher
  refine ⟨hhalf.1.mpr (Or.inl (isSingle_ofSingle _)),fun h => ?_⟩
  have hjoined : Text.joinedPairs [0xD83D, 0xDE00] = [0xD83D, 0xDE00] :=
    (Text.joinedPairs_eq_iff _).mpr (hpair.1.mp h)
  exact absurd hjoined (by decide)

end Double
end SealedRows
