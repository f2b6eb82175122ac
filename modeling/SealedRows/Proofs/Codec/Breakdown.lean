import SealedRows.Proofs.Codec.Represented
import SealedRows.Proofs.Double.Overflow

/-! # Values that can't be told as wrong

A value that a column has no room for is to blame for it, as a rule, and is told so. A few values end
the conversion itself instead: moments that universal time has no date for, integers and doubles beyond
the range of a shorter format, and texts and parts that form no decimal.
-/
namespace SealedRows

/-- Whether a report is an error of a class or of one below it. -/
def Report.IsBelow (r : Report) (above : ErrorClass) : Prop :=
  ∃ c, r.category = .library c ∧ c.isBelow above

/-- Whether a conversion fails without blaming its value exactly with the given breakdowns. -/
structure BreaksAs {α : Type} (x : Except ValueFault α) (broken : Breakdown → Prop) : Prop where
  of_error : ∀ {fault}, x = .error fault → fault.isRefusal ∨ ∃ b, broken b ∧ fault.report = .silent b
  exists_fault : ∀ {b}, broken b → ∃ fault, x = .error fault ∧ fault.report = .silent b ∧
    b.isRefusal = false

namespace BreaksAs
variable {α β : Type} {x : Except ValueFault α} {broken : Breakdown → Prop}

theorem of_ok {a : α} (h : x = .ok a) (hnone : ∀ b, ¬broken b) : BreaksAs x broken := by
  subst h
  exact ⟨nofun,fun hb => absurd hb (hnone _)⟩

theorem of_refusal {fault : ValueFault} (h : x = .error fault) (hfault : fault.isRefusal)
    (hnone : ∀ b, ¬broken b) : BreaksAs x broken := by
  subst h
  constructor
  · rintro _ ⟨⟩
    exact Or.inl hfault
  · exact fun hb => absurd hb (hnone _)

theorem of_general {b : Breakdown} (h : x = .error (.general b)) (hb : b.isRefusal = false)
    (honly : ∀ c, broken c ↔ c = b) : BreaksAs x broken := by
  subst h
  constructor
  · rintro _ ⟨⟩
    exact Or.inr ⟨b,(honly b).mpr rfl,rfl⟩
  · intro c hc
    cases (honly c).mp hc
    exact ⟨_,rfl,rfl,hb⟩

theorem map (h : BreaksAs x broken) (f : α → β) : BreaksAs (x.map f) broken := by
  cases x with
  | ok a => exact of_ok rfl fun b hb => by obtain ⟨_,⟨⟩,_⟩ := h.exists_fault hb
  | error fault =>
    constructor
    · rintro _ ⟨⟩
      exact h.of_error rfl
    · intro b hb
      obtain ⟨_,⟨⟩,hfault⟩ := h.exists_fault hb
      exact ⟨fault,rfl,hfault⟩

theorem congr {other : Breakdown → Prop} (h : BreaksAs x broken) (hother : ∀ b, other b ↔ broken b) :
    BreaksAs x other := by
  obtain rfl : other = broken := funext fun b => propext (hother b)
  exact h

theorem bind {f : α → Except ValueFault β} {later : α → Breakdown → Prop} (hx : BreaksAs x broken)
    (hf : ∀ a, x = .ok a → BreaksAs (f a) (later a)) :
    BreaksAs (x >>= f) fun b => broken b ∨ ∃ a, x = .ok a ∧ later a b := by
  cases x with
  | ok a =>
    refine (hf a rfl).congr fun b => ⟨?_,fun hb => Or.inr ⟨a,rfl,hb⟩⟩
    rintro (hb | ⟨_,⟨⟩,hb⟩)
    · obtain ⟨_,⟨⟩,_⟩ := hx.exists_fault hb
    · exact hb
  | error fault =>
    constructor
    · rintro _ ⟨⟩
      refine (hx.of_error rfl).imp_right ?_
      rintro ⟨b,hb,hreport⟩
      exact ⟨b,Or.inl hb,hreport⟩
    · rintro b (hb | ⟨_,⟨⟩,_⟩)
      obtain ⟨_,⟨⟩,hfault⟩ := hx.exists_fault hb
      exact ⟨fault,rfl,hfault⟩

end BreaksAs

theorem BreaksAs.lift {α : Type} {x : Except Breakdown α} {broken : Breakdown → Prop}
    (h : ∀ b, broken b ↔ x = .error b ∧ b.isRefusal = false) : BreaksAs (ValueFault.lift x) broken := by
  cases x with
  | ok a => exact .of_ok rfl fun b hb => by cases ((h b).mp hb).1
  | error b =>
    cases hb : b.isRefusal with
    | true =>
      refine .of_refusal rfl hb fun c hc => ?_
      obtain ⟨⟨⟩,hc⟩ := (h c).mp hc
      rw [hb] at hc
      cases hc
    | false =>
      refine .of_general rfl hb fun c => (h c).trans ⟨fun hc => ?_,fun hc => ?_⟩
      · cases hc.1
        rfl
      · cases hc
        exact ⟨rfl,hb⟩

/-! ## Layouts -/

inductive ValueKind.LayoutBreaks : ValueKind → Value → Breakdown → Prop where
  | moment {m : Moment} (h : ¬m.Fits) : LayoutBreaks .timestamp (.moment m) .overflow
  | single {v : Value} {x : Double} (hv : v.numberToDouble = .ok x) (hfinite : x.isFinite)
      (hlarge : 2 ^ 128 - 2 ^ 103 ≤ BinaryFormat.double.number x.magnitude) :
      LayoutBreaks .float32 v .overflow
  | decimalText {t : Text} (h : Decimal.ofText? t = none) :
      LayoutBreaks .decimal (.text t) .invalidDecimal
  | decimalParts {v sign digits exponent : Value} (hv : v = .list [sign,digits,exponent] ∨
      v = .tuple [sign,digits,exponent]) {b : Breakdown} (h : Value.decimalOfParts sign digits exponent = .error b)
      (hb : b.isRefusal = false) : LayoutBreaks .decimal v b

theorem Value.toDecimal_eq_error_iff {v : Value} {b : Breakdown} :
    ValueKind.decimal.LayoutBreaks v b ↔ v.toDecimal = .error b ∧ b.isRefusal = false := by
  constructor
  · intro h
    cases h with
    | decimalText h => exact ⟨by rw [toDecimal, h]; rfl,rfl⟩
    | decimalParts hv h hb =>
      rcases hv with rfl | rfl <;> exact ⟨h,hb⟩
  · rintro ⟨h,hb⟩
    have hparts : ∀ vs, (v = .list vs ∨ v = .tuple vs) → ValueKind.decimal.LayoutBreaks v b := by
      intro vs hv
      rcases vs with _ | ⟨sign,_ | ⟨digits,_ | ⟨exponent,_ | ⟨more,rest⟩⟩⟩⟩
      case cons.cons.cons.nil =>
        refine .decimalParts hv ?_ hb
        rcases hv with rfl | rfl <;> exact h
      all_goals
        rcases hv with rfl | rfl <;> cases h <;> cases hb
    cases v with
    | text t =>
      rw [toDecimal] at h
      cases ht : Decimal.ofText? t with
      | none =>
        rw [ht] at h
        cases h
        exact .decimalText ht
      | some d =>
        rw [ht] at h
        cases h
    | list vs => exact hparts vs (Or.inl rfl)
    | tuple vs => exact hparts vs (Or.inr rfl)
    | _ => cases h <;> cases hb

/-- Every decimal that has no layout is to blame for it. -/
theorem Decimal.breaks_toBytes (d : Decimal) : BreaksAs d.toBytes fun _ => False := by
  cases d with
  | finite negative c e =>
    rw [toBytes]
    split
    · exact .of_refusal rfl rfl fun _ => id
    · split
      · exact .of_refusal rfl rfl fun _ => id
      · split
        · exact .of_refusal rfl rfl fun _ => id
        · exact .of_ok rfl fun _ => id
  | infinite negative => exact .of_refusal rfl rfl fun _ => id
  | nan negative signaling payload => exact .of_refusal rfl rfl fun _ => id

theorem ValueFault.isRefusal_unfit (v : Value) (kind : ValueKind) : (unfit v kind).isRefusal := by
  have hcategory : (unfit v kind).report.category = .general .wrongValue := by
    simp only [report, Value.told]
    split <;> rfl
  rw [isRefusal, hcategory]
  rfl

theorem Value.breaks_truth (v : Value) : BreaksAs v.truth fun _ => False := by
  cases v with
  | condition c => exact .of_refusal rfl rfl fun _ => id
  | column name => exact .of_refusal rfl rfl fun _ => id
  | decimal d => cases d <;> exact .of_ok rfl fun _ => id
  | _ => exact .of_ok rfl fun _ => id

namespace ValueKind

theorem breaks_toBytes_decimal (v : Value) : BreaksAs (decimal.toBytes v) (decimal.LayoutBreaks v) := by
  have hbytes : decimal.toBytes v = ValueFault.lift v.toDecimal >>= Decimal.toBytes := by
    rw [toBytes]
    cases v.toDecimal <;> rfl
  have hlift := BreaksAs.lift fun b => Value.toDecimal_eq_error_iff (v := v) (b := b)
  rw [hbytes]
  exact (hlift.bind fun d _ => d.breaks_toBytes).congr (by simp)

theorem breaks_toBytes_moment (m : Moment) :
    BreaksAs (timestamp.toBytes (.moment m)) (timestamp.LayoutBreaks (.moment m)) := by
  have hfits := m.exists_toBytes?_iff
  cases hm : m.toBytes? with
  | some bs =>
    refine .of_ok (by simp only [toBytes, hm]; rfl) ?_
    rintro _ ⟨h⟩
    exact h (hfits.mp ⟨bs,hm⟩)
  | none =>
    refine .of_general (by simp only [toBytes, hm]; rfl) rfl fun b => ⟨?_,?_⟩
    · rintro ⟨_⟩
      rfl
    · rintro rfl
      refine .moment fun h => ?_
      obtain ⟨bs,hbs⟩ := hfits.mpr h
      rw [hm] at hbs
      cases hbs

/-- A number has no pattern of 32 bits exactly if it is rounded beyond the largest one. -/
theorem layoutBreaks_float32_iff {v : Value} {x : Double} (hv : v.numberToDouble = .ok x) {b : Breakdown} :
    float32.LayoutBreaks v b ↔ b = .overflow ∧ x.toSingle? = none := by
  have hroom := x.exists_toSingle?_iff
  constructor
  · intro h
    cases h with
    | single hv' hfinite hlarge =>
      cases hv.symm.trans hv'
      refine ⟨rfl,Option.eq_none_iff_forall_not_mem.mpr fun pattern hx => ?_⟩
      exact absurd hlarge (hroom.mp ⟨pattern,hx⟩ hfinite).not_ge
  · rintro ⟨rfl,hx⟩
    have hnone : ¬∃ pattern, x.toSingle? = some pattern := by simp [hx]
    rw [hroom, Classical.not_imp, not_lt] at hnone
    exact .single hv hnone.1 hnone.2

theorem breaks_toBytes_float32 (v : Value) : BreaksAs (float32.toBytes v) (float32.LayoutBreaks v) := by
  cases hv : v.numberToDouble with
  | ok x =>
    have hbreaks := @layoutBreaks_float32_iff v x hv
    cases hx : x.toSingle? with
    | some pattern =>
      refine .of_ok (by simp only [toBytes, hv, hx]; rfl) fun b hb => ?_
      cases hx.symm.trans (hbreaks.mp hb).2
    | none =>
      refine .of_general (by simp only [toBytes, hv, hx]; rfl) rfl fun b => ?_
      rw [hbreaks, and_iff_left hx]
  | error b =>
    refine .of_refusal (by simp only [toBytes, hv]) (ValueFault.isRefusal_unfit v .float32) ?_
    intro b hb
    cases hb with
    | single hv' => cases hv.symm.trans hv'

theorem breaks_toBytes (kind : ValueKind) (v : Value) : BreaksAs (kind.toBytes v) (kind.LayoutBreaks v) := by
  cases kind with
  | decimal => exact breaks_toBytes_decimal v
  | timestamp =>
    cases v with
    | moment m => exact breaks_toBytes_moment m
    | _ => exact .of_refusal rfl rfl (by rintro _ ⟨⟩)
  | float32 => exact breaks_toBytes_float32 v
  | float64 =>
    cases hv : v.numberToDouble with
    | ok x => exact .of_ok (by simp only [toBytes, hv]; rfl) (by rintro _ ⟨⟩)
    | error b =>
      exact .of_refusal (by simp only [toBytes, hv]) (ValueFault.isRefusal_unfit v .float64)
        (by rintro _ ⟨⟩)
  | integer l =>
    rw [toBytes]
    split
    · split
      · exact .of_ok rfl (by rintro _ ⟨⟩)
      · exact .of_refusal rfl (ValueFault.isRefusal_unfit v _) (by rintro _ ⟨⟩)
    · exact .of_refusal rfl (ValueFault.isRefusal_unfit v _) (by rintro _ ⟨⟩)
  | bool =>
    refine (v.breaks_truth.map _).congr fun b => ⟨?_,False.elim⟩
    rintro ⟨⟩
  | string =>
    cases v with
    | text t => exact .of_ok rfl (by rintro _ ⟨⟩)
    | _ => exact .of_refusal rfl rfl (by rintro _ ⟨⟩)
  | bytes =>
    cases v with
    | bytes bs => exact .of_ok rfl (by rintro _ ⟨⟩)
    | buffer bs => exact .of_ok rfl (by rintro _ ⟨⟩)
    | _ => exact .of_refusal rfl rfl (by rintro _ ⟨⟩)

end ValueKind

/-! ## Stored forms -/

namespace ValueKind

/-- Values whose conversion into a stored form breaks down. A plain double is not put into a layout, and the
number of a column matters only to its cipher. -/
inductive BreaksDown (isSealed : Bool) (ordinal : Int) : ValueKind → Value → Breakdown → Prop where
  | layout {kind : ValueKind} (hkind : isSealed ∨ kind.isBlobStored) {v : Value} {b : Breakdown}
      (h : kind.LayoutBreaks v b) : BreaksDown isSealed ordinal kind v b
  | double (hplain : isSealed = false) {kind : ValueKind} (hkind : kind = .float32 ∨ kind = .float64)
      {n : Int} (hlarge : 2 ^ 1024 - 2 ^ 970 ≤ (n.natAbs : ℚ)) :
      BreaksDown isSealed ordinal kind (.int n) .overflow
  | ordinal (hsealed : isSealed) {kind : ValueKind} {v : Value} {bs : Bytes} (hbytes : kind.toBytes v = .ok bs)
      (hordinal : 2 ^ 32 ≤ ordinal) : BreaksDown isSealed ordinal kind v .overflow

variable {kind : ValueKind} {ordinal : Int} {v : Value} {b : Breakdown}

/-- What has no binary layout in a plain column breaks down only as an integer beyond all doubles. -/
theorem breaksDown_plain_iff (hkind : kind.isBlobStored = false) : kind.BreaksDown false ordinal v b ↔
    (kind = .float32 ∨ kind = .float64) ∧ b = .overflow ∧
      ∃ n, v = .int n ∧ 2 ^ 1024 - 2 ^ 970 ≤ (n.natAbs : ℚ) := by
  constructor
  · intro h
    cases h with
    | layout hlayout _ => simp [hkind] at hlayout
    | double _ hdouble hlarge => exact ⟨hdouble,rfl,_,rfl,hlarge⟩
    | ordinal hsealed => cases hsealed
  · rintro ⟨hdouble,rfl,n,rfl,hlarge⟩
    exact .double rfl hdouble hlarge

end ValueKind

theorem Value.toDouble_eq_error_iff {v : Value} {b : Breakdown} :
    b = .overflow ∧ (∃ n, v = .int n ∧ 2 ^ 1024 - 2 ^ 970 ≤ (n.natAbs : ℚ)) ↔
      v.toDouble = .error b ∧ b.isRefusal = false := by
  have hrefused : ∀ {o : Option Double}, orElse .wrongValue o = .error b → b.isRefusal := by
    intro o h
    cases o with
    | none =>
      cases h
      rfl
    | some x => cases h
  constructor
  · rintro ⟨rfl,n,rfl,hlarge⟩
    have hnone := (Double.ofInt?_eq_none_iff n).mpr hlarge
    refine ⟨?_,rfl⟩
    change orElse .overflow (Double.ofInt? n) = _
    rw [hnone]
    rfl
  · rintro ⟨h,hb⟩
    cases v with
    | int n =>
      change orElse .overflow (Double.ofInt? n) = _ at h
      cases hn : Double.ofInt? n with
      | none =>
        rw [hn] at h
        cases h
        exact ⟨rfl,n,rfl,(Double.ofInt?_eq_none_iff n).mp hn⟩
      | some x =>
        rw [hn] at h
        cases h
    | text t => simp [hrefused h] at hb
    | bytes bs => simp [hrefused h] at hb
    | buffer bs => simp [hrefused h] at hb
    | decimal d => simp [hrefused h] at hb
    | bool _ => cases h
    | float _ => cases h
    | _ =>
      cases h
      cases hb

namespace ValueKind
variable {kind : ValueKind} {ordinal : Int} {v : Value} {b : Breakdown}

theorem breaks_encodePlain (kind : ValueKind) (v : Value) (ordinal : Int) :
    BreaksAs (kind.encodePlain v) (kind.BreaksDown false ordinal v) := by
  by_cases hkind : kind.isBlobStored
  · have hlayout : ∀ b, kind.BreaksDown false ordinal v b ↔ kind.LayoutBreaks v b := by
      intro b
      refine ⟨fun h => ?_,.layout (Or.inr hkind)⟩
      cases h with
      | layout _ h => exact h
      | double _ hdouble => rcases hdouble with rfl | rfl <;> cases hkind
      | ordinal hsealed => cases hsealed
    unfold encodePlain
    rw [if_pos hkind]
    exact ((breaks_toBytes kind v).map _).congr hlayout
  · rw [Bool.not_eq_true] at hkind
    have hplain := fun b => @breaksDown_plain_iff kind ordinal v b hkind
    have hnone : ¬(kind = .float32 ∨ kind = .float64) → ∀ b, ¬kind.BreaksDown false ordinal v b :=
      fun hdouble b hb => hdouble ((hplain b).mp hb).1
    have hdouble : (kind = .float32 ∨ kind = .float64) →
        BreaksAs (ValueFault.lift v.toDouble) (kind.BreaksDown false ordinal v) := by
      intro hdouble
      refine .lift fun b => ?_
      rw [hplain, ← Value.toDouble_eq_error_iff, and_iff_right hdouble]
    unfold encodePlain
    rw [if_neg (by simp [hkind])]
    cases kind with
    | bool => exact (v.breaks_truth.map _).congr fun b => ⟨hnone (by simp) b,False.elim⟩
    | float32 => exact (hdouble (Or.inl rfl)).map _
    | float64 => exact (hdouble (Or.inr rfl)).map _
    | integer l =>
      have hlayout : ∀ b, ¬(integer l).LayoutBreaks v b := by rintro b ⟨⟩
      have hnumber : ∀ bs, (integer l).toBytes v = .ok bs →
          BreaksAs ((ValueFault.lift v.toInt).map Value.int) fun _ => False := by
        intro bs hbs
        obtain ⟨n,_,hn⟩ := integer?_eq_of_toBytes hbs
        rw [hn]
        exact .of_ok rfl fun _ => id
      refine ((breaks_toBytes _ v).bind hnumber).congr fun b => ?_
      simp [hnone, hlayout]
    | string =>
      cases v with
      | text t => exact .of_ok rfl (hnone (by simp))
      | _ =>
        apply BreaksAs.of_refusal rfl _ (hnone (by simp))
        rfl
    | _ => cases hkind

theorem breaks_applied (c : CipherContext) (bs : Bytes) (ordinal : Int) :
    BreaksAs (ValueFault.liftCipher (c.applied bs ordinal)) fun b => b = .overflow ∧ 2 ^ 32 ≤ ordinal := by
  rw [CipherContext.applied, CipherContext.initialState]
  split
  · refine .of_refusal rfl rfl ?_
    rintro b ⟨_,hlarge⟩
    omega
  · split
    · next hlarge =>
      constructor
      · rintro _ ⟨⟩
        exact Or.inr ⟨.overflow,⟨rfl,hlarge⟩,rfl⟩
      · rintro b ⟨rfl,_⟩
        exact ⟨_,rfl,rfl,rfl⟩
    · next hsmall => exact .of_ok rfl fun b hb => hsmall hb.2

/-- A conversion into a stored form blames its value unless it breaks down. -/
theorem breaks_encode (kind : ValueKind) (hv : v ≠ .none) (ordinal : Int) (cipher : Option CipherContext) :
    BreaksAs (kind.encode v ordinal cipher) (kind.BreaksDown cipher.isSome ordinal v) := by
  cases cipher with
  | none =>
    rw [encode_plain kind hv]
    exact breaks_encodePlain kind v ordinal
  | some c =>
    rw [encode_sealed kind hv]
    refine ((breaks_toBytes kind v).bind fun bs _ => (breaks_applied c bs ordinal).map _).congr ?_
    intro b
    constructor
    · intro h
      cases h with
      | layout _ h => exact Or.inl h
      | double hplain => cases hplain
      | ordinal _ hbytes hordinal => exact Or.inr ⟨_,hbytes,rfl,hordinal⟩
    · rintro (h | ⟨bs,hbytes,rfl,hordinal⟩)
      · exact .layout (Or.inl rfl) h
      · exact .ordinal rfl hbytes hordinal

end ValueKind
end SealedRows
