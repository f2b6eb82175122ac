import SealedRows.Proofs.Outcome
import SealedRows.Value.Equality

/-! # Keys

Numbers, texts, byte strings and moments can be keys, and any two of them can be compared. A missing
number is not even the same as itself and is no key, so to be the same key is an equivalence.
-/
namespace SealedRows

theorem withoutTens_fst_eq_zero {c : Nat} {e : Int} : (withoutTens c e).1 = 0 ↔ c = 0 := by
  fun_induction withoutTens c e with
  | case1 => simp
  | case2 c e hc hten ih => exact ih.trans (by omega)
  | case3 c e hc hten => exact Iff.rfl

namespace Decimal

/-- The digits of equal decimals vanish together, so the sign of either of them may be looked at. -/
theorem sameAs_finite {n n' : Bool} {c c' : Nat} {e e' : Int} :
    (finite n c e).sameAs (finite n' c' e') ↔
      withoutTens c e = withoutTens c' e' ∧ (c = 0 ∨ n = n') := by
  simp only [sameAs, Bool.and_eq_true, Bool.or_eq_true, beq_iff_eq]

theorem sameAs_symm {a b : Decimal} (h : a.sameAs b) : b.sameAs a := by
  cases a with
  | finite n c e =>
    cases b with
    | finite n' c' e' =>
      obtain ⟨hdigits,hsign⟩ := sameAs_finite.mp h
      have hzero : c = 0 ↔ c' = 0 := by
        rw [← withoutTens_fst_eq_zero (e := e), hdigits, withoutTens_fst_eq_zero]
      exact sameAs_finite.mpr ⟨hdigits.symm,hsign.imp hzero.mp Eq.symm⟩
    | _ => cases h
  | infinite n =>
    cases b with
    | infinite n' =>
      simp only [sameAs, beq_iff_eq] at h ⊢
      exact h.symm
    | _ => cases h
  | nan => cases h

theorem sameAs_trans {a b d : Decimal} (hab : a.sameAs b) (hbd : b.sameAs d) : a.sameAs d := by
  cases a with
  | finite n c e =>
    cases b with
    | finite n' c' e' =>
      cases d with
      | finite n'' c'' e'' =>
        obtain ⟨hdigits,hsign⟩ := sameAs_finite.mp hab
        obtain ⟨hdigits',hsign'⟩ := sameAs_finite.mp hbd
        have hzero : c = 0 ↔ c' = 0 := by
          rw [← withoutTens_fst_eq_zero (e := e), hdigits, withoutTens_fst_eq_zero]
        refine sameAs_finite.mpr ⟨hdigits.trans hdigits',?_⟩
        rcases hsign' with hc' | hn'
        · exact Or.inl (hzero.mpr hc')
        · exact hsign.imp_right fun hn => hn.trans hn'
      | _ => cases hbd
    | _ => cases hab
  | infinite n =>
    cases b with
    | infinite n' =>
      cases d with
      | infinite n'' =>
        simp only [sameAs, beq_iff_eq] at hab hbd ⊢
        exact hab.trans hbd
      | _ => cases hbd
    | _ => cases hab
  | nan => cases hab

theorem isSignaling_of_sameAs {a b : Decimal} (h : a.sameAs b) : a.isSignaling = false := by
  cases a with
  | nan => cases h
  | _ => rfl

end Decimal

namespace Value

inductive IsKey : Value → Prop where
  | number {v : Value} {d : Decimal} (h : v.number? = some d) (hsame : d.sameAs d) : IsKey v
  | text (t : Text) : IsKey (.text t)
  | bytes (bs : Bytes) : IsKey (.bytes bs)
  | moment (m : Moment) : IsKey (.moment m)

inductive SameKey : Value → Value → Prop where
  | number {v w : Value} {a b : Decimal} (hv : v.number? = some a) (hw : w.number? = some b)
      (h : a.sameAs b) : SameKey v w
  | text (t : Text) : SameKey (.text t) (.text t)
  | bytes (bs : Bytes) : SameKey (.bytes bs) (.bytes bs)
  | moment {m n : Moment} (h : m.sameAs n) : SameKey (.moment m) (.moment n)

theorem SameKey.symm {v w : Value} (h : SameKey v w) : SameKey w v := by
  cases h with
  | number hv hw h => exact .number hw hv (Decimal.sameAs_symm h)
  | text t => exact .text t
  | bytes bs => exact .bytes bs
  | moment h =>
    simp only [Moment.sameAs, Bool.and_eq_true, beq_iff_eq] at h
    exact .moment (by simp only [Moment.sameAs, h.1, h.2, beq_self_eq_true, Bool.and_self])

theorem SameKey.trans {u v w : Value} (huv : SameKey u v) (hvw : SameKey v w) : SameKey u w := by
  cases huv with
  | number hu hv huv =>
    cases hvw with
    | number hv' hw hvw =>
      cases hv.symm.trans hv'
      exact .number hu hw (Decimal.sameAs_trans huv hvw)
    | _ => cases hv
  | text t =>
    cases hvw with
    | number hv => cases hv
    | text => exact .text t
  | bytes bs =>
    cases hvw with
    | number hv => cases hv
    | bytes => exact .bytes bs
  | @moment m n huv =>
    cases hvw with
    | number hv => cases hv
    | @moment _ o hvw =>
      simp only [Moment.sameAs, Bool.and_eq_true, beq_iff_eq] at huv hvw
      refine .moment ?_
      simp only [Moment.sameAs, huv.1, huv.2, hvw.1, hvw.2, beq_self_eq_true, Bool.and_self]

theorem IsKey.int (n : Int) : IsKey (.int n) :=
  .number rfl (Decimal.sameAs_finite.mpr ⟨rfl,Or.inr rfl⟩)

theorem IsKey.sameKey {v : Value} (h : v.IsKey) : SameKey v v := by
  cases h with
  | number h hsame => exact .number h h hsame
  | text t => exact .text t
  | bytes bs => exact .bytes bs
  | moment m => exact .moment (by simp only [Moment.sameAs, beq_self_eq_true, Bool.and_self])

theorem IsKey.isHashable {v : Value} (h : v.IsKey) : v.isHashable := by
  cases h with
  | @number v d h hsame =>
    cases v with
    | decimal d =>
      cases h
      simp only [Value.isHashable, Decimal.isSignaling_of_sameAs hsame, Bool.not_false]
    | bool => rfl
    | int => rfl
    | float => rfl
    | _ => cases h
  | _ => rfl

theorem IsKey.ne_none {v : Value} (h : v.IsKey) : v ≠ .none := by
  rintro rfl
  cases h with
  | number h => cases h

theorem IsKey.isNone_eq {v : Value} (h : v.IsKey) : v.isNone = false := by
  cases h with
  | @number v d h => cases v <;> cases h <;> rfl
  | _ => rfl

theorem IsKey.quiet {v : Value} (h : v.IsKey) {d : Decimal} (hd : v.number? = some d) :
    d.isSignaling = false := by
  cases h with
  | number h hsame =>
    cases hd.symm.trans h
    exact Decimal.isSignaling_of_sameAs hsame
  | _ => cases hd

theorem sameLeaf_number {v w : Value} {a b : Decimal} (hv : v.number? = some a)
    (hw : w.number? = some b) (ha : a.isSignaling = false) (hb : b.isSignaling = false) :
    sameLeaf v w = .ok (a.sameAs b) := by
  unfold sameLeaf
  simp only [hv, hw, ha, hb, Bool.or_self, Bool.false_eq_true, if_false]

theorem sameKey_number {v w : Value} {a b : Decimal} (hv : v.number? = some a)
    (hw : w.number? = some b) : SameKey v w ↔ a.sameAs b := by
  constructor
  · intro h
    cases h with
    | number hv' hw' h =>
      cases hv.symm.trans hv'
      cases hw.symm.trans hw'
      exact h
    | _ => cases hv
  · exact .number hv hw

/-- A number is the same key as nothing but a number. -/
theorem sameLeaf_of_no_number {v w : Value} {d : Decimal} (hv : v.number? = some d) (hw : w.IsKey)
    (hnone : w.number? = Option.none) : (sameLeaf v w = .ok false ∧ sameLeaf w v = .ok false) ∧
      ¬SameKey v w ∧ ¬SameKey w v := by
  refine ⟨?_,?_,?_⟩
  · cases hw with
    | number hw => cases hnone.symm.trans hw
    | _ => cases v <;> cases hv <;> exact ⟨rfl,rfl⟩
  · intro h
    cases h with
    | number _ hw => cases hnone.symm.trans hw
    | _ => cases hv
  · intro h
    cases h with
    | number hw => cases hnone.symm.trans hw
    | _ => cases hv

theorem equals_eq_sameLeaf {v : Value} (hv : v.IsKey ∨ v = .none) (w : Value) :
    v.equals w = sameLeaf v w := by
  rcases hv with hv | rfl
  · cases hv with
    | number hv => cases v <;> cases hv <;> simp only [equals]
    | _ => simp only [equals]
  · simp only [equals]

/-- Keys that are no numbers are the same only if they are of one type. -/
theorem sameLeaf_plain {v w : Value} (hv : v.IsKey) (hw : w.IsKey) (hnone : v.number? = Option.none)
    (hnone' : w.number? = Option.none) :
    ∃ b : Bool, sameLeaf v w = .ok b ∧ (b ↔ SameKey v w) := by
  cases hv with
  | number hv => cases hnone.symm.trans hv
  | text t =>
    cases hw with
    | number hw => cases hnone'.symm.trans hw
    | text t' =>
      refine ⟨t == t',rfl,fun h => ?_,fun h => ?_⟩
      · rw [beq_iff_eq.mp h]
        exact .text t'
      · cases h with
        | number h => cases h
        | text => exact beq_self_eq_true t
    | _ => exact ⟨false,rfl,nofun,fun h => by cases h with | number h => cases h⟩
  | bytes bs =>
    cases hw with
    | number hw => cases hnone'.symm.trans hw
    | bytes bs' =>
      refine ⟨bs == bs',rfl,fun h => ?_,fun h => ?_⟩
      · rw [beq_iff_eq.mp h]
        exact .bytes bs'
      · cases h with
        | number h => cases h
        | bytes => exact beq_self_eq_true bs
    | _ => exact ⟨false,rfl,nofun,fun h => by cases h with | number h => cases h⟩
  | moment m =>
    cases hw with
    | number hw => cases hnone'.symm.trans hw
    | moment n =>
      refine ⟨m.sameAs n,rfl,.moment,fun h => ?_⟩
      cases h with
      | number h => cases h
      | moment h => exact h
    | _ => exact ⟨false,rfl,nofun,fun h => by cases h with | number h => cases h⟩

/-- Any two keys can be compared. A missing value is no key and is the same as none. -/
theorem IsKey.equals_eq {v w : Value} (hv : v.IsKey ∨ v = .none) (hw : w.IsKey) :
    ∃ b : Bool, v.equals w = .ok b ∧ (b ↔ SameKey v w) := by
  rw [equals_eq_sameLeaf hv]
  rcases hv with hv | rfl
  · cases hnumber : v.number? with
    | some a =>
      cases hnumber' : w.number? with
      | some b =>
        exact ⟨a.sameAs b,sameLeaf_number hnumber hnumber' (hv.quiet hnumber) (hw.quiet hnumber'),
          (sameKey_number hnumber hnumber').symm⟩
      | none =>
        obtain ⟨⟨hleaf,_⟩,hsame,_⟩ := sameLeaf_of_no_number hnumber hw hnumber'
        exact ⟨false,hleaf,nofun,fun h => absurd h hsame⟩
    | none =>
      cases hnumber' : w.number? with
      | some b =>
        obtain ⟨⟨_,hleaf⟩,_,hsame⟩ := sameLeaf_of_no_number hnumber' hv hnumber
        exact ⟨false,hleaf,nofun,fun h => absurd h hsame⟩
      | none => exact sameLeaf_plain hv hw hnumber hnumber'
  · refine ⟨false,?_,nofun,?_⟩
    · cases hw with
      | number hw => cases w <;> cases hw <;> rfl
      | _ => rfl
    · intro h
      cases h with
      | number h => cases h

theorem isSameKey_iff {v w : Value} (hv : v.IsKey ∨ v = .none) (hw : w.IsKey) :
    v.isSameKey w ↔ SameKey v w := by
  obtain ⟨b,hequals,hb⟩ := IsKey.equals_eq hv hw
  rw [isSameKey, hequals]
  exact hb

theorem IsKey.isSameKey_self {v : Value} (h : v.IsKey) : v.isSameKey v :=
  (isSameKey_iff (Or.inl h) h).mpr h.sameKey

theorem SameKey.isKey {v w : Value} (h : SameKey v w) (hv : v.IsKey ∨ v = .none) : v.IsKey := by
  rcases hv with hv | rfl
  · exact hv
  · cases h with
    | number h => cases h

end Value
end SealedRows
