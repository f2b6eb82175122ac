import SealedRows.Proofs.Outcome
import SealedRows.Proofs.Sql.ReadClause

/-! # The meaning of conditions

A condition on the fields of a table is true of the same rows as the clause that it becomes, when the
database reads the clause and puts the parameters in the places of the question marks.
-/
namespace SealedRows
open Sql

/-- Whether the names of a table and of its columns need no quotes. -/
def Schema.HasPlainNames (s : Schema) : Prop :=
  IsPlainName s.name ∧ ∀ c ∈ s.columns, IsPlainName c.name

namespace Condition
variable (j : Judgement) (s : Schema) (row : Text → Value)

def nullTest (v : Value) (null : Bool) : Truth := .ofBool (v.isNone == null)

/-- The truth of a comparison with a literal. Null is equal to null, and not ordered; what is not null is
compared in the plain form of the column. -/
def comparisonTruth? (c : Column) (op : Operator) : Value → Option Truth
  | .none =>
    match op with
    | .eq => some (nullTest (row c.name) true)
    | .ne => some (nullTest (row c.name) false)
    | _ => none
  | literal =>
    match c.kind.encodePlain literal with
    | .ok plain => some (j.comparison op (row c.name) plain)
    | .error _ => none

/-- The truth of a condition about the values that a row holds in the columns of a table. -/
def truth? : Condition Value → Option Truth
  | .comparison field op literal =>
    (s.resolve? field).bind fun c => comparisonTruth? j row c op literal
  | .nullCheck field null => (s.resolve? field).map fun c => nullTest (row c.name) null
  | .isTrue field => (s.resolve? field).map fun c => j.truth (row c.name)
  | .and left right => do return (← left.truth?).and (← right.truth?)
  | .or left right => do return (← left.truth?).or (← right.truth?)
  | .not operand => do return (← operand.truth?).not
  | .bare | .misfit _ => none

/-- What is meant by a value that is given as a condition. -/
def ofValue? : Value → Option (Condition Value)
  | .column name => some (.isTrue name)
  | .condition c => some c
  | _ => none

theorem comparisonTruth?_of_ne_none {c : Column} {v plain : Value} (hv : v ≠ .none)
    (hplain : c.kind.encodePlain v = .ok plain) (op : Operator) :
    comparisonTruth? j row c op v = some (j.comparison op (row c.name) plain) := by
  cases v with
  | none => exact absurd rfl hv
  | _ => simp only [comparisonTruth?, hplain]

end Condition

namespace Schema
variable {s : Schema}

theorem mem_of_resolve? {name : Text} {c : Column} (h : s.resolve? name = some c) : c ∈ s.columns := by
  simp only [resolve?, Option.orElse_eq_orElse, Option.orElse_eq_or, Option.or_eq_some_iff] at h
  rcases h with h | ⟨_,h⟩
  · exact List.mem_of_find?_eq_some h
  · exact List.mem_of_find?_eq_some h

theorem resolve_eq_ok {name : Text} {c : Column} : s.resolve name = .ok c ↔ s.resolve? name = some c := by
  unfold resolve
  cases s.resolve? name <;> simp

end Schema

namespace Clause
variable {s : Schema} {qualify : Bool}

def tableName (s : Schema) (qualify : Bool) : Option Text := if qualify then some s.name else none

theorem nameOf_eq (c : Column) : nameOf s qualify c = qualified (tableName s qualify) c.name := by
  cases qualify <;> rfl

theorem resolve?_of_leafColumn {field : Text} {c : Column} (h : leafColumn s field = .ok c) :
    s.resolve? field = some c := by
  obtain ⟨d,hd,h⟩ := bind_eq_ok.mp h
  split at h
  · cases h
  · cases h
    exact Schema.resolve_eq_ok.mp hd

/-- The clause of a comparison is a test for null or compares the column to the plain form of the
literal. -/
theorem ofComparison_eq_ok {field : Text} {op : Operator} {v : Value} {clause : Clause}
    (h : ofComparison s qualify field op v = .ok clause) : ∃ c, s.resolve? field = some c ∧
      ((v = .none ∧ op = .eq ∧ clause = .isNull (nameOf s qualify c)) ∨
        (v = .none ∧ op = .ne ∧ clause = .isNotNull (nameOf s qualify c)) ∨
        ∃ plain, v ≠ .none ∧ c.kind.encodePlain v = .ok plain ∧
          clause = .compare (nameOf s qualify c) op plain) := by
  obtain ⟨c,hc,h⟩ := bind_eq_ok.mp h
  refine ⟨c,resolve?_of_leafColumn hc,?_⟩
  cases v with
  | none =>
    cases op with
    | eq =>
      cases h
      exact .inl ⟨rfl,rfl,rfl⟩
    | ne =>
      cases h
      exact .inr (.inl ⟨rfl,rfl,rfl⟩)
    | _ => cases h
  | _ =>
    obtain ⟨_,_,h⟩ := bind_eq_ok.mp h
    split at h
    case h_1 plain hplain =>
      cases h
      exact .inr (.inr ⟨plain,by simp,hplain,rfl⟩)
    case h_2 => split at h <;> cases h

end Clause

/-- Whether a condition that the database reads has the truth of another one in every row, when its
parameters stand behind a number of others. -/
def Condition.Agrees (s : Schema) (table : Option Text) (first : Nat) (parameters : List Value)
    (c : Condition Value) (d : SearchCondition) : Prop :=
  ∀ (j : Judgement) (columns : Option Text → Text → Value) (before after : List Value),
    before.length = first → ∃ t, d.truth? j columns (before ++ parameters ++ after) = some t ∧
      c.truth? j s (columns table) = some t

namespace Condition.Agrees
variable {s : Schema} {table : Option Text} {first : Nat} {ps qs : List Value}
  {l r : Condition Value} {c d : SearchCondition}

/-- The parameters of the right side stand behind those of the left side. -/
theorem connected {connective : Truth → Truth → Truth} {lr : Condition Value} {cd : SearchCondition}
    (hl : l.Agrees s table first ps c) (hr : r.Agrees s table (first + ps.length) qs d)
    (hlr : ∀ j row, lr.truth? j s row = do return connective (← l.truth? j s row) (← r.truth? j s row))
    (hcd : ∀ j columns parameters, cd.truth? j columns parameters = do
      return connective (← c.truth? j columns parameters) (← d.truth? j columns parameters)) :
    lr.Agrees s table first (ps ++ qs) cd := by
  intro j columns before after hbefore
  obtain ⟨t,hc,hl⟩ := hl j columns before (qs ++ after) hbefore
  obtain ⟨u,hd,hr⟩ := hr j columns (before ++ ps) after (by simp [hbefore])
  simp only [List.append_assoc] at hc hd ⊢
  refine ⟨connective t u,?_,?_⟩
  · rw [hcd, hc, hd]
    rfl
  · rw [hlr, hl, hr]
    rfl

theorem and (hl : l.Agrees s table first ps c) (hr : r.Agrees s table (first + ps.length) qs d) :
    Agrees s table first (ps ++ qs) (.and l r) (.and c d) :=
  hl.connected hr (fun _ _ => rfl) fun _ _ _ => rfl

theorem or (hl : l.Agrees s table first ps c) (hr : r.Agrees s table (first + ps.length) qs d) :
    Agrees s table first (ps ++ qs) (.or l r) (.or c d) :=
  hl.connected hr (fun _ _ => rfl) fun _ _ _ => rfl

theorem not (hl : l.Agrees s table first ps c) : Agrees s table first ps (.not l) (.not c) := by
  intro j columns before after hbefore
  obtain ⟨t,hc,hl⟩ := hl j columns before after hbefore
  simp only [List.append_assoc] at hc ⊢
  exact ⟨t.not,by simp [SearchCondition.truth?, hc],by simp [truth?, hl]⟩

theorem isNull {name : Text}
    (h : ∀ j row, l.truth? j s row = some (nullTest (row name) true)) :
    l.Agrees s table first [] (.isNull (.column table name)) := by
  intro j columns before after _
  exact ⟨_,rfl,by simp [h, nullTest]⟩

theorem isNotNull {name : Text}
    (h : ∀ j row, l.truth? j s row = some (nullTest (row name) false)) :
    l.Agrees s table first [] (.isNotNull (.column table name)) := by
  intro j columns before after _
  exact ⟨_,rfl,by simp [h, nullTest]⟩

theorem isTrue {name : Text} (h : ∀ j row, l.truth? j s row = some (j.truth (row name))) :
    l.Agrees s table first [] (.truth (.column table name)) := by
  intro j columns before after _
  exact ⟨_,rfl,h j _⟩

/-- The first of the parameters behind the others is the one that is compared. -/
theorem compare {name : Text} {op : Operator} {plain : Value}
    (h : ∀ j row, l.truth? j s row = some (j.comparison op (row name) plain)) :
    l.Agrees s table first [plain] (.compare op (.column table name) (.parameter first)) := by
  intro j columns before after hbefore
  refine ⟨_,?_,h j _⟩
  subst hbefore
  simp [SearchCondition.truth?, Operand.value?]

end Condition.Agrees

/-- An accepted condition becomes a clause that denotes a condition with the same truth in every row. -/
theorem Clause.exists_denoted {s : Schema} {qualify : Bool} (hs : s.HasPlainNames)
    {c : Condition Value} {clause : Clause} (h : ofCondition s qualify c = .ok clause) (first : Nat) :
    ∃ d, clause.Denotes (tableName s qualify) first d ∧
      c.Agrees s (tableName s qualify) first clause.parameters d := by
  induction c generalizing clause first with
  | bare => cases h
  | misfit v => cases h
  | and l r ihl ihr =>
    obtain ⟨lc,hl,h⟩ := bind_eq_ok.mp h
    obtain ⟨rc,hr,h⟩ := bind_eq_ok.mp h
    cases h
    obtain ⟨c,hc,hlc⟩ := ihl hl first
    obtain ⟨d,hd,hrd⟩ := ihr hr (first + lc.parameters.length)
    exact ⟨.and c d,.and hc hd,hlc.and hrd⟩
  | or l r ihl ihr =>
    obtain ⟨lc,hl,h⟩ := bind_eq_ok.mp h
    obtain ⟨rc,hr,h⟩ := bind_eq_ok.mp h
    cases h
    obtain ⟨c,hc,hlc⟩ := ihl hl first
    obtain ⟨d,hd,hrd⟩ := ihr hr (first + lc.parameters.length)
    exact ⟨.or c d,.or hc hd,hlc.or hrd⟩
  | not l ih =>
    obtain ⟨lc,hl,h⟩ := bind_eq_ok.mp h
    cases h
    obtain ⟨c,hc,hlc⟩ := ih hl first
    exact ⟨.not c,.not hc,hlc.not⟩
  | nullCheck field null =>
    obtain ⟨c,hc,h⟩ := bind_eq_ok.mp h
    have hc := resolve?_of_leafColumn hc
    have hname := hs.2 c (Schema.mem_of_resolve? hc)
    cases null with
    | true =>
      cases h
      rw [nameOf_eq]
      exact ⟨_,.isNull hname,.isNull fun j row => by simp [Condition.truth?, hc]⟩
    | false =>
      cases h
      rw [nameOf_eq]
      exact ⟨_,.isNotNull hname,.isNotNull fun j row => by simp [Condition.truth?, hc]⟩
  | isTrue field =>
    obtain ⟨c,hc,h⟩ := bind_eq_ok.mp h
    obtain ⟨_,_,h⟩ := bind_eq_ok.mp h
    have hc := resolve?_of_leafColumn hc
    have hname := hs.2 c (Schema.mem_of_resolve? hc)
    split at h
    · cases h
      rw [nameOf_eq]
      exact ⟨_,.isTrue hname,.isTrue fun j row => by simp [Condition.truth?, hc]⟩
    · cases h
  | comparison field op v =>
    obtain ⟨c,hc,h⟩ := ofComparison_eq_ok h
    have hname := hs.2 c (Schema.mem_of_resolve? hc)
    rw [nameOf_eq] at h
    rcases h with ⟨rfl,rfl,rfl⟩ | ⟨rfl,rfl,rfl⟩ | ⟨plain,hv,hplain,rfl⟩
    · refine ⟨_,.isNull hname,.isNull fun j row => ?_⟩
      simp [Condition.truth?, Condition.comparisonTruth?, hc]
    · refine ⟨_,.isNotNull hname,.isNotNull fun j row => ?_⟩
      simp [Condition.truth?, Condition.comparisonTruth?, hc]
    · refine ⟨_,.compare hname,.compare fun j row => ?_⟩
      simp [Condition.truth?, hc, Condition.comparisonTruth?_of_ne_none j row hv hplain]

/-- The text of an accepted condition is read as a condition with the same truth in every row, and it has
a question mark for each of its parameters. -/
theorem Clause.truth_read_toSql {s : Schema} {qualify : Bool} {v : Value} {clause : Clause}
    (hs : s.HasPlainNames) (h : ofValue s qualify v = .ok clause) :
    clause.toSql.count ('?' : CodePoint) = clause.parameters.length ∧
      ∃ c d, Condition.ofValue? v = some c ∧ Sql.read clause.toSql = some d ∧
        ∀ (j : Judgement) (columns : Option Text → Text → Value), ∃ t,
          d.truth? j columns clause.parameters = some t ∧
            c.truth? j s (columns (if qualify then some s.name else none)) = some t := by
  have ht : ∀ t ∈ tableName s qualify, IsPlainName t := by
    intro t ht
    cases qualify with
    | false => cases ht
    | true =>
      cases ht
      exact hs.1
  obtain ⟨c,hc,hclause⟩ : ∃ c, Condition.ofValue? v = some c ∧ ofCondition s qualify c = .ok clause := by
    cases v with
    | column name => exact ⟨_,rfl,h⟩
    | condition c => exact ⟨_,rfl,h⟩
    | _ => cases h
  obtain ⟨d,hd,hagrees⟩ := exists_denoted hs hclause 0
  refine ⟨hd.count_toSql ht,c,d,hc,hd.read_toSql ht,fun j columns => ?_⟩
  have hrow := hagrees j columns [] [] rfl
  rw [List.nil_append, List.append_nil] at hrow
  exact hrow

namespace Person

def schema : Schema :=
  .ofColumns "People"
    [{ name := "age", fieldName := "age", kind := .integer ⟨true,.four⟩, ordinal := 0 },
      { name := "active", fieldName := "active", kind := .bool, ordinal := 1 },
      { name := "nickname", fieldName := "nick", kind := .string, ordinal := 2 }]

def wanted : Condition Value :=
  .or (.and (.isTrue "active") (.not (.comparison "age" .lt (.int 18))))
    (.comparison "nick" .ne (.text "Al"))

set_option maxRecDepth 4000 in
theorem truth_read_wanted : ∃ clause, schema.HasPlainNames ∧
    Clause.ofValue schema true (.condition wanted) = .ok clause ∧
    clause.toSql.count ('?' : CodePoint) = clause.parameters.length ∧
      ∃ c d, Condition.ofValue? (.condition wanted) = some c ∧ Sql.read clause.toSql = some d ∧
        ∀ (j : Judgement) (columns : Option Text → Text → Value), ∃ t,
          d.truth? j columns clause.parameters = some t ∧
            c.truth? j schema (columns (some schema.name)) = some t := by
  have hplain : schema.HasPlainNames := by
    unfold Schema.HasPlainNames
    decide
  obtain ⟨clause,hclause⟩ : ∃ clause, Clause.ofValue schema true (.condition wanted) = .ok clause :=
    ⟨_,rfl⟩
  exact ⟨clause,hplain,hclause,Clause.truth_read_toSql hplain hclause⟩

end Person
end SealedRows
