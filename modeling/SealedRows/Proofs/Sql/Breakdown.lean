import SealedRows.Proofs.Codec.Breakdown
import SealedRows.Proofs.Schema.Registration
import SealedRows.Proofs.Sql.Answerable

/-! # Conditions that are not told as wrong

A condition that becomes no clause is refused with an error of its own kind, with two exceptions. An integer
beyond all doubles can't be compared with a column of doubles, and that is not told as its fault. A literal
that is refused is shown in the message, which fails for integers of too many digits.
-/
namespace SealedRows

/-- Leaves with a literal that breaks down where it is encoded or where it is shown. -/
inductive Condition.BreaksDown (s : Schema) : Condition Value → Breakdown → Prop where
  | overflow {field : Text} {c : Column} (hc : s.NamesPlain field c)
      (hkind : c.kind = .float32 ∨ c.kind = .float64) (op : Operator) {n : Int}
      (hlarge : 2 ^ 1024 - 2 ^ 970 ≤ (n.natAbs : ℚ)) :
      BreaksDown s (.comparison field op (.int n)) .overflow
  | unshown {field : Text} {c : Column} (hc : s.NamesPlain field c) (hblob : c.kind.isBlobStored = false)
      (op : Operator) {literal : Value} {fault : ValueFault}
      (hfault : c.kind.encode literal c.ordinal none = .error fault) (hrefusal : fault.isRefusal)
      (hshown : literal.isShowable = false) : BreaksDown s (.comparison field op literal) .wrongValue

/-- Whether what was given as a condition breaks down, with the first leaf that can't be answered. -/
def Value.BreaksDown (s : Schema) (v : Value) (b : Breakdown) : Prop :=
  ∃ c before leaf after, Condition.ofValue? v = some c ∧ c.leaves = before ++ leaf :: after ∧
    (∀ l ∈ before, Condition.IsAnswerable s l) ∧ leaf.BreaksDown s b

namespace Condition
variable {s : Schema} {leaf : Condition Value} {fault : QueryFault} {b : Breakdown}

theorem BreaksDown.exists_refused (h : leaf.BreaksDown s b) :
    ∃ fault, leaf.Refused s fault ∧ fault.report = .silent b := by
  cases h with
  | @overflow field c hc hkind op n hlarge =>
    have hblob : c.kind.isBlobStored = false := by rcases hkind with h | h <;> rw [h] <;> rfl
    have hbreaks : c.kind.BreaksDown false c.ordinal (.int n) .overflow := .double rfl hkind hlarge
    have hliteral : Value.int n ≠ .none := nofun
    obtain ⟨fault,hfault,hreport,_⟩ := (c.kind.breaks_encode hliteral c.ordinal none).exists_fault hbreaks
    have hrefusal : fault.isRefusal = false := by
      rw [ValueFault.isRefusal, hreport]
      rfl
    have hrefused := Refused.invalid hc hblob hliteral hfault op
    rw [if_neg (by simp [hrefusal])] at hrefused
    exact ⟨.value fault,hrefused,hreport⟩
  | @unshown field c hc hblob op literal fault hfault hrefusal hshown =>
    have hliteral : literal ≠ .none := by
      rintro rfl
      cases hfault
    have hrefused := Refused.invalid hc hblob hliteral hfault op
    rw [if_pos hrefusal] at hrefused
    exact ⟨_,hrefused,by simp [QueryFault.report, Value.told, hshown]⟩

theorem Refused.report (h : leaf.Refused s fault) :
    (∃ b, leaf.BreaksDown s b ∧ fault.report = .silent b) ∨ fault.report.IsBelow .translate := by
  cases h with
  | @invalid field c hc hblob literal hliteral fault hfault op =>
    cases hrefusal : fault.isRefusal with
    | true =>
      cases hshown : literal.isShowable with
      | true => exact Or.inr ⟨.translate,by simp [QueryFault.report, Value.told, hshown]; rfl,by decide⟩
      | false =>
        refine Or.inl ⟨.wrongValue,.unshown hc hblob op hfault hrefusal hshown,?_⟩
        simp [QueryFault.report, Value.told, hshown]
    | false =>
      obtain hrefused | ⟨b,hb,hreport⟩ := (c.kind.breaks_encode hliteral c.ordinal none).of_error hfault
      · simp [hrefusal] at hrefused
      · obtain ⟨hkind,rfl,n,rfl,hlarge⟩ := (ValueKind.breaksDown_plain_iff hblob).mp hb
        exact Or.inl ⟨.overflow,.overflow hc hkind op hlarge,hreport⟩
  | unknown => exact Or.inr ⟨_,rfl,by decide⟩
  | encrypted => exact Or.inr ⟨_,rfl,by decide⟩
  | _ => exact Or.inr ⟨_,rfl,by decide⟩

end Condition

namespace Clause
variable {s : Schema}

theorem ofValue_eq_ofCondition {v : Value} {c : Condition Value} (hc : Condition.ofValue? v = some c)
    (qualify : Bool) : ofValue s qualify v = ofCondition s qualify c := by
  cases v <;> cases hc <;> rfl

theorem exists_fault_of_breaksDown {v : Value} {b : Breakdown} (h : v.BreaksDown s b) (qualify : Bool) :
    ∃ fault, ofValue s qualify v = .error fault ∧ fault.report = .silent b := by
  obtain ⟨c,before,leaf,after,hc,hsplit,hbefore,hleaf⟩ := h
  obtain ⟨fault,hrefused,hreport⟩ := hleaf.exists_refused
  refine ⟨fault,?_,hreport⟩
  rw [ofValue_eq_ofCondition hc, ofCondition_eq_error_iff]
  exact ⟨before,leaf,after,hsplit,hbefore,hrefused⟩

/-- What is given as a condition and becomes no clause is told as an error of conditions, unless it breaks
down. -/
theorem ofValue_report (s : Schema) (qualify : Bool) (v : Value) :
    (∀ b, v.BreaksDown s b → ∃ fault, ofValue s qualify v = .error fault ∧ fault.report = .silent b) ∧
      ∀ fault, ofValue s qualify v = .error fault →
        (∃ b, v.BreaksDown s b ∧ fault.report = .silent b) ∨ fault.report.IsBelow .translate := by
  constructor
  · exact fun b hb => exists_fault_of_breaksDown hb qualify
  · intro fault hfault
    cases hc : Condition.ofValue? v with
    | none =>
      refine Or.inr ?_
      cases v with
      | condition c => cases hc
      | column name => cases hc
      | none =>
        cases hfault
        exact ⟨_,rfl,by decide⟩
      | _ =>
        cases hfault
        exact ⟨_,rfl,by decide⟩
    | some c =>
      rw [ofValue_eq_ofCondition hc, ofCondition_eq_error_iff] at hfault
      obtain ⟨before,leaf,after,hsplit,hbefore,hrefused⟩ := hfault
      refine hrefused.report.imp_left ?_
      rintro ⟨b,hb,hreport⟩
      exact ⟨b,⟨c,before,leaf,after,hc,hsplit,hbefore,hb⟩,hreport⟩

end Clause

namespace Reading

def declarations : List TypeDeclaration :=
  [⟨"Reading",some "readings",none,true,
    [⟨"id","int",some { ColumnOptions.plain with primaryKey := true },.required,true⟩,
      ⟨"level","float",none,.required,true⟩]⟩]

def catalog : Catalog := declarations.map (Catalog.typeOf none)

def level : Column := { name := "level", fieldName := "level", kind := .float64, ordinal := 1 }

set_option maxRecDepth 4000 in
theorem exists_schema : ∃ s, catalog.schemaOf "Reading" = .ok s ∧ s.columnForField? "level" = some level :=
  ⟨_,rfl,rfl⟩

def beyond : Condition Value := .comparison "level" .lt (.int (10 ^ 400))

theorem breaksDown_beyond {s : Schema} (h : s.columnForField? "level" = some level) :
    (Value.condition beyond).BreaksDown s .overflow := by
  have hnames : s.NamesPlain "level" level := ⟨Or.inl h,rfl⟩
  have hlarge : (2 : ℚ) ^ 1024 - 2 ^ 970 ≤ ((10 ^ 400 : ℤ).natAbs : ℚ) := by
    have hle : (2 : ℕ) ^ 1024 ≤ (10 ^ 400 : ℤ).natAbs := by decide +kernel
    have hcast : (2 : ℚ) ^ 1024 ≤ ((10 ^ 400 : ℤ).natAbs : ℚ) := by exact_mod_cast hle
    have hunit : (0 : ℚ) ≤ 2 ^ 970 := by positivity
    exact (sub_le_self _ hunit).trans hcast
  exact ⟨beyond,[],beyond,[],rfl,rfl,nofun,.overflow hnames (Or.inr rfl) .lt hlarge⟩

/-- The comparison is refused with an error that is none of conditions. -/
theorem not_isBelow_translate : ¬∀ (ds : List TypeDeclaration) (catalog : Catalog) (typeName : Text)
    (s : Schema), Catalog.ofDeclarations ds = .ok catalog → catalog.schemaOf typeName = .ok s →
      ∀ (qualify : Bool) (v : Value) (fault : QueryFault), Clause.ofValue s qualify v = .error fault →
        fault.report.IsBelow .translate := by
  intro h
  obtain ⟨s,hs,hlevel⟩ := exists_schema
  obtain ⟨fault,hfault,hreport⟩ := Clause.exists_fault_of_breaksDown (breaksDown_beyond hlevel) false
  obtain ⟨e,he,_⟩ := h declarations catalog "Reading" s rfl hs false _ fault hfault
  rw [hreport] at he
  cases he

end Reading
end SealedRows
