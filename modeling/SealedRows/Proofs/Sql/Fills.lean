import SealedRows.Proofs.Schema.Named
import SealedRows.Proofs.Sql.Filled
import SealedRows.Proofs.Sql.Meaning
import SealedRows.Session

/-! # Clauses with their parameters in place

Each literal of a condition stands in its clause where its column is compared to it, in the form in which
the column is stored; a test for null takes no parameter. The text of a clause depends on nothing of its
literals but which of them are null.
-/
namespace SealedRows
open Filled

namespace Clause

def filled : Clause → Filled
  | isNull column => plain ("(" ++ column ++ " IS NULL)")
  | isNotNull column => plain ("(" ++ column ++ " IS NOT NULL)")
  | compare column op v => plain ("(" ++ column ++ " " ++ op.symbol ++ " ") ++ [.parameter v] ++ plain ")"
  | isTrue column => plain column
  | and left right => plain "(" ++ left.filled ++ plain " AND " ++ right.filled ++ plain ")"
  | or left right => plain "(" ++ left.filled ++ plain " OR " ++ right.filled ++ plain ")"
  | not operand => plain "(NOT " ++ operand.filled ++ plain ")"

theorem text_filled (clause : Clause) : clause.filled.text = clause.toSql := by
  induction clause with
  | compare column op v =>
    simp only [filled, toSql, text_append, text_plain, text_parameter, List.append_assoc]
    rfl
  | and left right ihleft ihright =>
    simp only [filled, toSql, text_append, text_plain, ihleft, ihright]
  | or left right ihleft ihright =>
    simp only [filled, toSql, text_append, text_plain, ihleft, ihright]
  | not operand ih => simp only [filled, toSql, text_append, text_plain, ih]
  | _ => exact text_plain _

theorem parameters_filled (clause : Clause) : clause.filled.parameters = clause.parameters := by
  induction clause with
  | compare column op v =>
    simp only [filled, parameters, parameters_append, parameters_plain, parameters_parameter]
    rfl
  | and left right ihleft ihright =>
    simp only [filled, parameters, parameters_append, parameters_plain, ihleft, ihright]
    simp
  | or left right ihleft ihright =>
    simp only [filled, parameters, parameters_append, parameters_plain, ihleft, ihright]
    simp
  | not operand ih =>
    simp only [filled, parameters, parameters_append, parameters_plain, ih]
    simp
  | _ => exact parameters_plain _

end Clause

namespace Condition
open Clause (nameOf)

/-- What a condition on the records of a table is in a statement: every literal that is not null stands
behind the comparison with its column, encoded as the column stores it. -/
inductive Fills (s : Schema) (qualify : Bool) : Condition Value → Filled → Prop where
  | equalsNull {field : Text} {c : Column} (hc : s.resolve? field = some c) :
      Fills s qualify (.comparison field .eq .none) (plain ("(" ++ nameOf s qualify c ++ " IS NULL)"))
  | differsFromNull {field : Text} {c : Column} (hc : s.resolve? field = some c) :
      Fills s qualify (.comparison field .ne .none) (plain ("(" ++ nameOf s qualify c ++ " IS NOT NULL)"))
  | comparison {field : Text} {op : Operator} {v encoded : Value} {c : Column}
      (hc : s.resolve? field = some c) (hv : v ≠ .none)
      (hencoded : c.kind.encode v c.ordinal none = .ok encoded) :
      Fills s qualify (.comparison field op v)
        (plain ("(" ++ nameOf s qualify c ++ " " ++ op.symbol ++ " ") ++ [.parameter encoded] ++ plain ")")
  | isNull {field : Text} {c : Column} (hc : s.resolve? field = some c) :
      Fills s qualify (.nullCheck field true) (plain ("(" ++ nameOf s qualify c ++ " IS NULL)"))
  | isNotNull {field : Text} {c : Column} (hc : s.resolve? field = some c) :
      Fills s qualify (.nullCheck field false) (plain ("(" ++ nameOf s qualify c ++ " IS NOT NULL)"))
  | isTrue {field : Text} {c : Column} (hc : s.resolve? field = some c) :
      Fills s qualify (.isTrue field) (plain (nameOf s qualify c))
  | and {l r : Condition Value} {f g : Filled} (hl : Fills s qualify l f) (hr : Fills s qualify r g) :
      Fills s qualify (.and l r) (plain "(" ++ f ++ plain " AND " ++ g ++ plain ")")
  | or {l r : Condition Value} {f g : Filled} (hl : Fills s qualify l f) (hr : Fills s qualify r g) :
      Fills s qualify (.or l r) (plain "(" ++ f ++ plain " OR " ++ g ++ plain ")")
  | not {c : Condition Value} {f : Filled} (h : Fills s qualify c f) :
      Fills s qualify (.not c) (plain "(NOT " ++ f ++ plain ")")

def outline : Condition Value → Condition Bool
  | comparison field op v => comparison field op v.isNone
  | nullCheck field null => nullCheck field null
  | isTrue field => isTrue field
  | and left right => and left.outline right.outline
  | or left right => or left.outline right.outline
  | not operand => not operand.outline
  | bare => bare
  | misfit v => misfit v.isNone

variable {s : Schema} {qualify : Bool}

theorem fills_ofComparison {field : Text} {op : Operator} {v : Value} {clause : Clause}
    (h : Clause.ofComparison s qualify field op v = .ok clause) :
    Fills s qualify (.comparison field op v) clause.filled := by
  obtain ⟨c,hc,h⟩ := bind_eq_ok.mp h
  have hcolumn := Clause.resolve?_of_leafColumn hc
  cases v with
  | none =>
    cases op with
    | eq =>
      cases h
      exact .equalsNull hcolumn
    | ne =>
      cases h
      exact .differsFromNull hcolumn
    | _ => cases h
  | _ =>
    obtain ⟨_,_,h⟩ := bind_eq_ok.mp h
    split at h
    case h_1 encoded hencoded =>
      cases h
      exact .comparison hcolumn nofun hencoded
    case h_2 => split at h <;> cases h

theorem fills_ofCondition {condition : Condition Value} {clause : Clause}
    (h : Clause.ofCondition s qualify condition = .ok clause) : condition.Fills s qualify clause.filled := by
  induction condition generalizing clause with
  | comparison field op v => exact fills_ofComparison h
  | nullCheck field null =>
    obtain ⟨c,hc,h⟩ := bind_eq_ok.mp h
    have hcolumn := Clause.resolve?_of_leafColumn hc
    cases null with
    | true =>
      cases h
      exact .isNull hcolumn
    | false =>
      cases h
      exact .isNotNull hcolumn
  | isTrue field =>
    obtain ⟨c,hc,h⟩ := bind_eq_ok.mp h
    obtain ⟨_,_,h⟩ := bind_eq_ok.mp h
    split at h
    · cases h
      exact .isTrue (Clause.resolve?_of_leafColumn hc)
    · cases h
  | and left right ihleft ihright =>
    obtain ⟨l,hl,h⟩ := bind_eq_ok.mp h
    obtain ⟨r,hr,h⟩ := bind_eq_ok.mp h
    cases h
    exact .and (ihleft hl) (ihright hr)
  | or left right ihleft ihright =>
    obtain ⟨l,hl,h⟩ := bind_eq_ok.mp h
    obtain ⟨r,hr,h⟩ := bind_eq_ok.mp h
    cases h
    exact .or (ihleft hl) (ihright hr)
  | not operand ih =>
    obtain ⟨c,hc,h⟩ := bind_eq_ok.mp h
    cases h
    exact .not (ih hc)
  | bare => cases h
  | misfit v => cases h

theorem eq_none_of_outline {field other : Text} {op operator : Operator} {v : Value}
    (h : outline (.comparison field op .none) = outline (.comparison other operator v)) : v = .none := by
  obtain ⟨_,_,hnone⟩ := Condition.comparison.inj h
  exact Value.isNone_iff.mp hnone.symm

/-- Conditions of one outline have one text. -/
theorem Fills.text_eq {c d : Condition Value} {f g : Filled} (hf : c.Fills s qualify f)
    (hg : d.Fills s qualify g) (h : c.outline = d.outline) : f.text = g.text := by
  induction hf generalizing d g with
  | equalsNull hc =>
    cases hg with
    | equalsNull hd =>
      cases h
      rw [Option.some.inj (hc.symm.trans hd)]
    | comparison _ hv => exact absurd (eq_none_of_outline h) hv
    | _ => cases h
  | differsFromNull hc =>
    cases hg with
    | differsFromNull hd =>
      cases h
      rw [Option.some.inj (hc.symm.trans hd)]
    | comparison _ hv => exact absurd (eq_none_of_outline h) hv
    | _ => cases h
  | comparison hc hv _ =>
    cases hg with
    | equalsNull _ => exact absurd (eq_none_of_outline h.symm) hv
    | differsFromNull _ => exact absurd (eq_none_of_outline h.symm) hv
    | comparison hd _ _ =>
      obtain ⟨rfl,rfl,_⟩ := Condition.comparison.inj h
      cases hc.symm.trans hd
      simp only [text_append, text_parameter]
    | _ => cases h
  | isNull hc | isNotNull hc | isTrue hc =>
    cases hg <;> cases h
    next hd => rw [Option.some.inj (hc.symm.trans hd)]
  | and _ _ ihl ihr =>
    cases hg with
    | and hl hr =>
      obtain ⟨hleft,hright⟩ := Condition.and.inj h
      simp only [text_append, ihl hl hleft, ihr hr hright]
    | _ => cases h
  | or _ _ ihl ihr =>
    cases hg with
    | or hl hr =>
      obtain ⟨hleft,hright⟩ := Condition.or.inj h
      simp only [text_append, ihl hl hleft, ihr hr hright]
    | _ => cases h
  | not _ ih =>
    cases hg with
    | not hd => simp only [text_append, ih hd (Condition.not.inj h)]
    | _ => cases h

end Condition

/-- Whether no name of a table holds a question mark. -/
def Schema.Unmarked (s : Schema) : Prop := mark ∉ s.name ∧ ∀ c ∈ s.columns, mark ∉ c.name

instance (s : Schema) : Decidable s.Unmarked := inferInstanceAs (Decidable (_ ∧ _))

theorem Operator.mark_not_mem_symbol (op : Operator) : mark ∉ op.symbol := by
  cases op <;> decide

namespace Clause
variable {s : Schema} {qualify : Bool} {c : Column}

theorem mark_not_mem_nameOf (hs : s.Unmarked) (hc : c ∈ s.columns) : mark ∉ nameOf s qualify c := by
  have hname := hs.2 c hc
  cases qualify with
  | false => exact hname
  | true =>
    have hdot : mark ∉ (("." : Text)) := by decide
    simpa [nameOf, hname, hdot] using hs.1

theorem nameOf_ne_nil (hs : s.Named) (hc : c ∈ s.columns) : nameOf s qualify c ≠ [] := by
  have hname := hs c hc
  cases qualify with
  | false => exact hname
  | true => simp [nameOf, hname]

end Clause

namespace Condition.Fills
variable {s : Schema} {qualify : Bool} {c : Condition Value} {f : Filled}

theorem unmarked (hs : s.Unmarked) (h : c.Fills s qualify f) : f.Unmarked := by
  have hname : ∀ {field : Text} {c : Column}, s.resolve? field = some c →
      mark ∉ Clause.nameOf s qualify c := fun hc =>
    Clause.mark_not_mem_nameOf hs (Schema.mem_of_resolve? hc)
  have hword : ∀ t ∈ ([" IS NULL)", " IS NOT NULL)", "(", ")", " ", " AND ", " OR ", "(NOT "] : List Text),
      mark ∉ t := by decide
  simp only [List.forall_mem_cons] at hword
  induction h with
  | comparison hc => simp [hname hc, hword, Operator.mark_not_mem_symbol]
  | equalsNull hc | differsFromNull hc | isNull hc | isNotNull hc | isTrue hc => simp [hname hc, hword]
  | and _ _ ihl ihr | or _ _ ihl ihr => simp [ihl, ihr, hword]
  | not _ ih => simp [ih, hword]

theorem text_ne_nil (hs : s.Named) (h : c.Fills s qualify f) : f.text ≠ [] := by
  cases h with
  | isTrue hc =>
    rw [text_plain]
    exact Clause.nameOf_ne_nil hs (Schema.mem_of_resolve? hc)
  | _ => simp [Text.ofString]

end Condition.Fills

namespace Column

/-- The clause that a column holds a value, which is encoded as the column stores it. -/
inductive Finds (c : Column) : Value → Filled → Prop where
  | null : Finds c .none (plain (c.name ++ " IS NULL"))
  | value {v encoded : Value} (hv : v ≠ .none) (hencoded : c.kind.encode v c.ordinal none = .ok encoded) :
      Finds c v (plain (c.name ++ " = ") ++ [.parameter encoded])

variable {c : Column} {v w : Value} {f g : Filled}

theorem exists_finds {parameters : List Value} (h : Session.lookupParameters c v = .ok parameters) :
    ∃ f, c.Finds v f ∧ f.text = Sql.valueCondition c.name v ∧ f.parameters = parameters := by
  cases hv : v.isNone with
  | true =>
    cases Value.isNone_iff.mp hv
    cases h
    exact ⟨_,.null,text_plain _,parameters_plain _⟩
  | false =>
    rw [Session.lookupParameters, hv, if_neg Bool.false_ne_true] at h
    obtain ⟨encoded,hencoded,rfl⟩ := map_eq_ok.mp h
    have hne : v ≠ .none := fun h => by rw [h] at hv; cases hv
    refine ⟨_,.value hne hencoded,?_,?_⟩
    · rw [Sql.valueCondition, hv, if_neg Bool.false_ne_true, text_append, text_plain, text_parameter,
        List.append_assoc]
      rfl
    · rw [parameters_append, parameters_plain]
      rfl

theorem Finds.text_eq (hf : c.Finds v f) (hg : c.Finds w g) (h : v.isNone = w.isNone) : f.text = g.text := by
  cases hf with
  | null =>
    cases hg with
    | null => rfl
    | value hw => exact absurd (Value.isNone_iff.mp h.symm) hw
  | value hv =>
    cases hg with
    | null => exact absurd (Value.isNone_iff.mp h) hv
    | value => simp only [text_append, text_parameter]

theorem Finds.unmarked (hc : mark ∉ c.name) (h : c.Finds v f) : f.Unmarked := by
  have hword : ∀ t ∈ ([" IS NULL", " = "] : List Text), mark ∉ t := by decide
  simp only [List.forall_mem_cons] at hword
  cases h with
  | null => simp [hc, hword]
  | value => simp [hc, hword]

theorem Finds.text_ne_nil (h : c.Finds v f) : f.text ≠ [] := by
  cases h <;> simp [Text.ofString]

end Column
end SealedRows
