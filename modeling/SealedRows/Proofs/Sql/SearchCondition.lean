import SealedRows.Proofs.Sql.Token
import SealedRows.Value

/-! # Search conditions

How a database reads a condition on columns and parameters, and when it takes it for true. A comparison
binds closer than `NOT`, `NOT` closer than `AND` and `AND` closer than `OR`; the parameters are numbered
from left to right. What is compared with null is neither true nor false.
-/
namespace SealedRows.Sql

inductive Truth where
  | holds | fails | unknown
  deriving DecidableEq

namespace Truth

def ofBool (b : Bool) : Truth := if b then holds else fails

def and : Truth → Truth → Truth
  | fails, _ | _, fails => fails
  | holds, holds => holds
  | _, _ => unknown

def or : Truth → Truth → Truth
  | holds, _ | _, holds => holds
  | fails, fails => fails
  | _, _ => unknown

def not : Truth → Truth
  | holds => fails
  | fails => holds
  | unknown => unknown

end Truth

/-- How a database compares values, and which of them it takes for true. It is not asked about null. -/
structure Judgement where
  compares : Operator → Value → Value → Bool
  isTrue : Value → Bool

namespace Judgement
variable (j : Judgement)

def comparison (op : Operator) (l r : Value) : Truth :=
  if l.isNone || r.isNone then .unknown else .ofBool (j.compares op l r)

def truth (v : Value) : Truth := if v.isNone then .unknown else .ofBool (j.isTrue v)

end Judgement

inductive Operand where
  /-- A column, with the name of its table if that is given. -/
  | column (table : Option Text) (name : Text)
  | parameter (place : Nat)
  deriving DecidableEq

inductive SearchCondition where
  | truth (o : Operand)
  | isNull (o : Operand)
  | isNotNull (o : Operand)
  | compare (op : Operator) (left right : Operand)
  | and (left right : SearchCondition)
  | or (left right : SearchCondition)
  | not (operand : SearchCondition)
  deriving DecidableEq

section
variable (j : Judgement) (columns : Option Text → Text → Value) (parameters : List Value)

def Operand.value? : Operand → Option Value
  | column table name => some (columns table name)
  | parameter place => parameters[place]?

/-- The truth of a condition, if all its parameters were given. -/
def SearchCondition.truth? : SearchCondition → Option Truth
  | truth o => (o.value? columns parameters).map j.truth
  | isNull o => (o.value? columns parameters).map fun v => .ofBool v.isNone
  | isNotNull o => (o.value? columns parameters).map fun v => .ofBool !v.isNone
  | compare op left right => do
    return j.comparison op (← left.value? columns parameters) (← right.value? columns parameters)
  | and left right => do return (← left.truth?).and (← right.truth?)
  | or left right => do return (← left.truth?).or (← right.truth?)
  | not operand => do return (← operand.truth?).not

end

inductive Frame where
  | opening
  | or (left : SearchCondition)
  | and (left : SearchCondition)
  | not

namespace Frame

def rank : Frame → Nat
  | opening => 0
  | or _ => 1
  | and _ => 2
  | not => 3

def around : Frame → SearchCondition → SearchCondition
  | opening, c => c
  | or left, c => .or left c
  | and left, c => .and left c
  | not, c => .not c

/-- Ends all frames on top that bind at least as close as a rank. -/
def close (rank : Nat) : List Frame → SearchCondition → List Frame × SearchCondition
  | f :: stack, c => if rank ≤ f.rank then close rank stack (f.around c) else (f :: stack,c)
  | [], c => ([],c)

end Frame

/-- What was read since the last frame began. In front of an operand there may be another one that it is
compared with. -/
inductive Focus where
  | expected (pending : Option (Operand × Operator))
  /-- The name of a table and a dot. -/
  | qualified (pending : Option (Operand × Operator)) (table : Text)
  | operand (pending : Option (Operand × Operator)) (o : Operand)
  | is (o : Operand)
  | isNot (o : Operand)
  | read (c : SearchCondition)

def Focus.condition? : Focus → Option SearchCondition
  | operand none o => some (.truth o)
  | operand (some (left,op)) o => some (.compare op left o)
  | read c => some c
  | _ => none

/-- A reader in the middle of a condition, with the number of parameters that it met. -/
structure Reader where
  stack : List Frame
  focus : Focus
  marks : Nat

namespace Reader

def step (r : Reader) (t : Token) : Option Reader :=
  match r.focus, t with
  | .expected none, .opening => some ⟨.opening :: r.stack,.expected none,r.marks⟩
  | .expected none, .not => some ⟨.not :: r.stack,.expected none,r.marks⟩
  | .expected pending, .name n => some ⟨r.stack,.operand pending (.column none n),r.marks⟩
  | .expected pending, .mark => some ⟨r.stack,.operand pending (.parameter r.marks),r.marks + 1⟩
  | .operand pending (.column none table), .dot => some ⟨r.stack,.qualified pending table,r.marks⟩
  | .qualified pending table, .name n =>
    some ⟨r.stack,.operand pending (.column (some table) n),r.marks⟩
  | .operand none o, .comparison op => some ⟨r.stack,.expected (some (o,op)),r.marks⟩
  | .operand none o, .is => some ⟨r.stack,.is o,r.marks⟩
  | .is o, .not => some ⟨r.stack,.isNot o,r.marks⟩
  | .is o, .null => some ⟨r.stack,.read (.isNull o),r.marks⟩
  | .isNot o, .null => some ⟨r.stack,.read (.isNotNull o),r.marks⟩
  | focus, .and => focus.condition?.map fun c =>
    let (stack,c) := Frame.close 2 r.stack c
    ⟨.and c :: stack,.expected none,r.marks⟩
  | focus, .or => focus.condition?.map fun c =>
    let (stack,c) := Frame.close 1 r.stack c
    ⟨.or c :: stack,.expected none,r.marks⟩
  | focus, .closing => focus.condition?.bind fun c =>
    match Frame.close 1 r.stack c with
    | (.opening :: stack,c) => some ⟨stack,.read c,r.marks⟩
    | _ => none
  | _, _ => none

def run (ts : List Token) (r : Reader) : Option Reader := ts.foldlM step r

def finish (r : Reader) : Option SearchCondition :=
  r.focus.condition?.bind fun c =>
    match Frame.close 1 r.stack c with
    | ([],c) => some c
    | _ => none

/-- Reading goes on where it stopped. -/
theorem run_append {ts us : List Token} {r s : Reader} {o : Option Reader} (h : run ts r = some s)
    (h' : run us s = o) : run (ts ++ us) r = o := by
  unfold run at *
  rw [List.foldlM_append, h]
  exact h'

section
variable {focus : Focus} {c : SearchCondition} (h : focus.condition? = some c)
  (stack : List Frame) (marks : Nat)
include h

/-- Behind a parenthesis a whole condition becomes the left side of a connective. -/
theorem run_and : run [.and] ⟨.opening :: stack,focus,marks⟩ =
    some ⟨.and c :: .opening :: stack,.expected none,marks⟩ := by
  cases focus <;> simp_all [run, step, Frame.close, Frame.rank]

theorem run_or : run [.or] ⟨.opening :: stack,focus,marks⟩ =
    some ⟨.or c :: .opening :: stack,.expected none,marks⟩ := by
  cases focus <;> simp_all [run, step, Frame.close, Frame.rank]

/-- A parenthesis ends the one frame above the parenthesis that it closes. -/
theorem run_closing {f : Frame} (hf : 0 < f.rank) :
    run [.closing] ⟨f :: .opening :: stack,focus,marks⟩ =
      some ⟨stack,.read (f.around c),marks⟩ := by
  have hclose : Frame.close 1 (f :: .opening :: stack) c = (.opening :: stack,f.around c) := by
    cases f with
    | opening => cases hf
    | _ => rfl
  cases focus <;> simp_all [run, step]

end

/-- Two conditions with a connective between them, in parentheses. -/
theorem run_joined {ts us : List Token} {t : Token} {frame : Frame} {stack : List Frame}
    {left right : Focus} {d : SearchCondition} {first second last : Nat}
    (hleft : run ts ⟨.opening :: stack,.expected none,first⟩ =
      some ⟨.opening :: stack,left,second⟩)
    (hframe : run [t] ⟨.opening :: stack,left,second⟩ =
      some ⟨frame :: .opening :: stack,.expected none,second⟩)
    (hright : run us ⟨frame :: .opening :: stack,.expected none,second⟩ =
      some ⟨frame :: .opening :: stack,right,last⟩)
    (hd : right.condition? = some d) (hrank : 0 < frame.rank) :
    run ([.opening] ++ (ts ++ ([t] ++ (us ++ [.closing])))) ⟨stack,.expected none,first⟩ =
      some ⟨stack,.read (frame.around d),last⟩ := by
  refine run_append rfl (run_append hleft ?_)
  exact run_append hframe (run_append hright (run_closing hd stack last hrank))

end Reader

/-- The condition that a text is read as. -/
def read (t : Text) : Option SearchCondition := do
  (← Reader.run (← tokens? t) ⟨[],.expected none,0⟩).finish

example : read "a AND NOT t.b IS NULL OR c < ?" = some (.or
    (.and (.truth (.column none "a")) (.not (.isNull (.column (some "t") "b"))))
    (.compare .lt (.column none "c") (.parameter 0))) := by
  decide

end SealedRows.Sql
