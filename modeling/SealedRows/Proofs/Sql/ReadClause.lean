import SealedRows.Proofs.Sql.SearchCondition
import SealedRows.Sql.Clause

/-! # Clauses read back

The text of a clause is read as the condition that the clause was written for, however its connectives
are nested, and its parameters are numbered in the order of the list of parameters.
-/
namespace SealedRows
open Sql

def Sql.qualified (table : Option Text) (name : Text) : Text :=
  match table with
  | none => name
  | some t => t ++ "." ++ name

/-- What a clause asks of the columns of a table. The parameters are numbered from a first one. -/
inductive Clause.Denotes (table : Option Text) : Nat → Clause → SearchCondition → Prop
  | isNull {first : Nat} {name : Text} (h : IsPlainName name) :
    Denotes table first (.isNull (qualified table name)) (.isNull (.column table name))
  | isNotNull {first : Nat} {name : Text} (h : IsPlainName name) :
    Denotes table first (.isNotNull (qualified table name)) (.isNotNull (.column table name))
  | compare {first : Nat} {name : Text} {op : Operator} {v : Value} (h : IsPlainName name) :
    Denotes table first (.compare (qualified table name) op v)
      (.compare op (.column table name) (.parameter first))
  | isTrue {first : Nat} {name : Text} (h : IsPlainName name) :
    Denotes table first (.isTrue (qualified table name)) (.truth (.column table name))
  | and {first : Nat} {l r : Clause} {c d : SearchCondition} (hl : Denotes table first l c)
    (hr : Denotes table (first + l.parameters.length) r d) :
    Denotes table first (.and l r) (.and c d)
  | or {first : Nat} {l r : Clause} {c d : SearchCondition} (hl : Denotes table first l c)
    (hr : Denotes table (first + l.parameters.length) r d) :
    Denotes table first (.or l r) (.or c d)
  | not {first : Nat} {l : Clause} {c : SearchCondition} (hl : Denotes table first l c) :
    Denotes table first (.not l) (.not c)

namespace Sql

def Operand.tokens : Operand → List Token
  | column none name => [.name name]
  | column (some table) name => [.name table,.dot,.name name]
  | parameter _ => [.mark]

/-- The tokens of a condition that is written with all its parentheses. -/
def SearchCondition.tokens : SearchCondition → List Token
  | truth o => o.tokens
  | isNull o => [.opening] ++ (o.tokens ++ [.is,.null,.closing])
  | isNotNull o => [.opening] ++ (o.tokens ++ [.is,.not,.null,.closing])
  | compare op left right =>
    [.opening] ++ (left.tokens ++ ([.comparison op] ++ (right.tokens ++ [.closing])))
  | and left right => [.opening] ++ (left.tokens ++ ([.and] ++ (right.tokens ++ [.closing])))
  | or left right => [.opening] ++ (left.tokens ++ ([.or] ++ (right.tokens ++ [.closing])))
  | not operand => [.opening,.not] ++ (operand.tokens ++ [.closing])

variable {table : Option Text} (ht : ∀ t ∈ table, IsPlainName t) {name : Text}
  (hname : IsPlainName name)

section
include ht hname

theorem tokens?_qualified : tokens? (qualified table name) = some (Operand.column table name).tokens := by
  cases table with
  | none => exact tokens?_name hname
  | some t =>
    have hdot : tokens? (t ++ ".") = some [.name t,.dot] :=
      tokens?_append (tokens?_name (ht t rfl)) rfl (apart_of_head_single rfl)
    exact tokens?_append hdot (tokens?_name hname)
      (apart_of_last_single (lastClass_append t (by decide)))

theorem headClass_qualified : headClass (qualified table name) = some .name := by
  cases table with
  | none => exact hname.headClass_eq
  | some t =>
    simp only [qualified, List.append_assoc]
    rw [headClass_append (ht t rfl).ne_nil]
    exact (ht t rfl).headClass_eq

theorem qualified_ne_nil : qualified table name ≠ [] := by
  intro h
  have hhead := headClass_qualified ht hname
  rw [h] at hhead
  cases hhead

omit ht in
theorem lastClass_qualified : lastClass (qualified table name) = some .name := by
  cases table with
  | none => exact hname.lastClass_eq
  | some t =>
    simp only [qualified]
    rw [lastClass_append _ hname.ne_nil]
    exact hname.lastClass_eq

theorem count_qualified : (qualified table name).count ('?' : CodePoint) = 0 := by
  cases table with
  | none => exact List.count_eq_zero_of_not_mem hname.mark_not_mem
  | some t =>
    simp only [qualified, List.count_append, List.count_eq_zero_of_not_mem (ht t rfl).mark_not_mem,
      List.count_eq_zero_of_not_mem hname.mark_not_mem]
    rfl

/-- A column with a test behind it, in parentheses. -/
theorem tokens?_tested {test : Text} {ts : List Token} (htest : tokens? test = some ts)
    (hbefore : headClass test = some .blank) :
    tokens? ("(" ++ qualified table name ++ test) =
      some ([.opening] ++ ((Operand.column table name).tokens ++ ts)) := by
  have hlast : lastClass (qualified table name) ≠ some .blank := by
    rw [lastClass_qualified hname]
    decide
  have hbody := tokens?_append (tokens?_qualified ht hname) htest (apart_of_head_blank hlast hbefore)
  rw [List.append_assoc]
  exact tokens?_append rfl hbody (apart_of_last_single rfl)

end

/-- Two texts with a word between them, in parentheses. -/
theorem tokens?_joined {l word r : Text} {ls rs : List Token} {t : Token}
    (hl : tokens? l = some ls) (hlast : lastClass l ≠ some .blank)
    (hword : tokens? word = some [t]) (hbefore : headClass word = some .blank)
    (hafter : lastClass word = some .blank) (hne : word ≠ [])
    (hr : tokens? r = some rs) (hhead : headClass (r ++ ")") ≠ some .blank) :
    tokens? ("(" ++ l ++ word ++ r ++ ")") =
      some ([.opening] ++ (ls ++ ([t] ++ (rs ++ [.closing])))) := by
  have hend : tokens? (r ++ ")") = some (rs ++ [.closing]) :=
    tokens?_append hr rfl (apart_of_head_single rfl)
  have hright : tokens? (word ++ (r ++ ")")) = some ([t] ++ (rs ++ [.closing])) :=
    tokens?_append hword hend (apart_of_last_blank hafter hhead)
  have hbody : tokens? (l ++ (word ++ (r ++ ")"))) = some (ls ++ ([t] ++ (rs ++ [.closing]))) := by
    refine tokens?_append hl hright (apart_of_head_blank hlast ?_)
    rw [headClass_append hne, hbefore]
  simp only [List.append_assoc]
  exact tokens?_append rfl hbody (apart_of_last_single rfl)

/-- The sign of a comparison between blanks. -/
theorem tokens?_symbol (op : Operator) :
    tokens? (" " ++ op.symbol ++ " ") = some [.comparison op] := by
  cases op <;> decide

end Sql

namespace Clause.Denotes
variable {table : Option Text} {first : Nat} {clause : Clause} {c : SearchCondition}
  (ht : ∀ t ∈ table, IsPlainName t) (h : clause.Denotes table first c)
include ht h

/-- Whatever is written behind a clause, it doesn't begin with a blank. -/
theorem headClass_ne_blank (t : Text) : headClass (clause.toSql ++ t) ≠ some .blank := by
  cases h with
  | isTrue hname =>
    rw [Clause.toSql, headClass_append (qualified_ne_nil ht hname), headClass_qualified ht hname]
    decide
  | _ =>
    simp only [Clause.toSql, List.append_assoc]
    exact (by decide : some PointClass.single ≠ some .blank)

omit ht in
theorem lastClass_ne_blank : lastClass clause.toSql ≠ some .blank := by
  cases h with
  | isTrue hname =>
    rw [Clause.toSql, lastClass_qualified hname]
    decide
  | _ =>
    rw [Clause.toSql, lastClass_append _ (by decide)]
    decide

/-- The text of a clause has the tokens of the condition that it denotes. -/
theorem tokens?_toSql : tokens? clause.toSql = some c.tokens := by
  induction h with
  | isTrue hname => exact tokens?_qualified ht hname
  | isNull hname | isNotNull hname => exact tokens?_tested ht hname rfl rfl
  | @compare first name op v hname =>
    have htext : (Clause.compare (qualified table name) op v).toSql =
        "(" ++ qualified table name ++ (" " ++ op.symbol ++ " ") ++ "?" ++ ")" := by
      simp only [Clause.toSql, List.append_assoc]
      rfl
    rw [htext]
    refine tokens?_joined (tokens?_qualified ht hname) ?_ (tokens?_symbol op) rfl ?_ ?_ rfl ?_
    · rw [lastClass_qualified hname]
      decide
    · exact lastClass_append _ (by decide)
    · exact List.cons_ne_nil _ _
    · decide
  | and hl hr ihl ihr | or hl hr ihl ihr =>
    exact tokens?_joined ihl hl.lastClass_ne_blank rfl rfl rfl (by decide) ihr
      (hr.headClass_ne_blank ht _)
  | not hl ih =>
    have hend := tokens?_append ih (rfl : tokens? ")" = some [.closing]) (apart_of_head_single rfl)
    simp only [Clause.toSql, List.append_assoc]
    exact tokens?_append rfl hend (apart_of_last_blank rfl (hl.headClass_ne_blank ht _))

omit ht in
/-- Reading the tokens of a denoted condition gives that condition, whatever waits for its end. -/
theorem run_tokens (stack : List Frame) : ∃ focus, focus.condition? = some c ∧
    Reader.run c.tokens ⟨stack,.expected none,first⟩ =
      some ⟨stack,focus,first + clause.parameters.length⟩ := by
  induction h generalizing stack with
  | @isTrue first name hname =>
    refine ⟨.operand none (.column table name),rfl,?_⟩
    cases table <;> rfl
  | @isNull first name hname =>
    refine ⟨.read (.isNull (.column table name)),rfl,?_⟩
    cases table <;> rfl
  | @isNotNull first name hname =>
    refine ⟨.read (.isNotNull (.column table name)),rfl,?_⟩
    cases table <;> rfl
  | @compare first name op v hname =>
    refine ⟨.read (.compare op (.column table name) (.parameter first)),rfl,?_⟩
    cases table <;> rfl
  | @and first l r c d hl hr ihl ihr =>
    obtain ⟨f,hf,hleft⟩ := ihl (.opening :: stack)
    obtain ⟨g,hg,hright⟩ := ihr (.and c :: .opening :: stack)
    refine ⟨.read (.and c d),rfl,?_⟩
    rw [Clause.parameters, List.length_append, ← Nat.add_assoc]
    exact Reader.run_joined hleft (Reader.run_and hf stack _) hright hg (by simp [Frame.rank])
  | @or first l r c d hl hr ihl ihr =>
    obtain ⟨f,hf,hleft⟩ := ihl (.opening :: stack)
    obtain ⟨g,hg,hright⟩ := ihr (.or c :: .opening :: stack)
    refine ⟨.read (.or c d),rfl,?_⟩
    rw [Clause.parameters, List.length_append, ← Nat.add_assoc]
    exact Reader.run_joined hleft (Reader.run_or hf stack _) hright hg (by simp [Frame.rank])
  | @not first l c hl ih =>
    obtain ⟨f,hf,hoperand⟩ := ih (.not :: .opening :: stack)
    refine ⟨.read (.not c),rfl,?_⟩
    refine Reader.run_append rfl (Reader.run_append hoperand ?_)
    exact Reader.run_closing hf stack _ (by simp [Frame.rank])

/-- There is a question mark for each parameter. -/
theorem count_toSql : clause.toSql.count ('?' : CodePoint) = clause.parameters.length := by
  induction h with
  | isNull hname | isNotNull hname =>
    simp only [Clause.toSql, List.count_append, count_qualified ht hname]
    rfl
  | isTrue hname => exact count_qualified ht hname
  | @compare first name op v hname =>
    simp only [Clause.toSql, List.count_append, count_qualified ht hname]
    cases op <;> rfl
  | @and first l r c d hl hr ihl ihr | @or first l r c d hl hr ihl ihr =>
    simp only [Clause.toSql, List.count_append, ihl, ihr, Clause.parameters, List.length_append]
    change 0 + l.parameters.length + 0 + r.parameters.length + 0 = _
    omega
  | not hl ih =>
    simp only [Clause.toSql, List.count_append, ih, Clause.parameters]
    exact Nat.zero_add _

end Clause.Denotes

theorem Clause.Denotes.read_toSql {table : Option Text} {clause : Clause} {c : SearchCondition}
    (ht : ∀ t ∈ table, IsPlainName t) (h : clause.Denotes table 0 c) :
    Sql.read clause.toSql = some c := by
  obtain ⟨focus,hfocus,hrun⟩ := h.run_tokens []
  simp only [Sql.read, h.tokens?_toSql ht, hrun, Option.bind_eq_bind, Option.bind_some, Reader.finish,
    hfocus, Frame.close]

end SealedRows
