import SealedRows.Value.Conversion
import SealedRows.Value.Order

/-! # Building conditions

A condition is built by comparing columns with values and by joining what came out. Whichever side a
column stands on, the condition names the column first; a column that is joined is meant to be true.
Comparing two values that are no columns answers at once.
-/
namespace SealedRows

inductive Expression where
  | column (name : Text)
  | value (v : Value)
  | compare (op : Operator) (left right : Expression)
  | isNull (operand : Expression)
  | isNotNull (operand : Expression)
  | isTrue (operand : Expression)
  | and (left right : Expression)
  | or (left right : Expression)
  | not (operand : Expression)
  /-- Whether the operand is true. -/
  | truth (operand : Expression)
  /-- Whether the operand can be a key. -/
  | hash (operand : Expression)
  /-- The operand as messages show it. -/
  | shown (operand : Expression)
  /-- The operand as a condition. -/
  | condition (operand : Expression)

namespace Value

def asCondition : Value → Except ValueFault (Condition Value)
  | condition c => .ok c
  | column name => .ok (.isTrue name)
  | v => .error (.expected "a condition" v.typeName)

def isConditional : Value → Bool
  | condition _ | column _ => true
  | _ => false

def comparedColumn (name : Text) (op : Operator) : Value → Except ValueFault Value
  | column _ => .error .columnComparison
  | none =>
    match op with
    | .eq => .ok (condition (.nullCheck name true))
    | .ne => .ok (condition (.nullCheck name false))
    | _ => .ok (condition (.comparison name op none))
  | v => .ok (condition (.comparison name op v))

def compared (op : Operator) : Value → Value → Except ValueFault Value
  | column name, w => comparedColumn name op w
  | v, column name => comparedColumn name op.swapped v
  | v, w => (op.holds v w).map bool

def joined (connective : Condition Value → Condition Value → Condition Value)
    (both : Bool → Bool → Bool) (v w : Value) : Except ValueFault Value :=
  if v.isConditional || w.isConditional then do
    let left ← v.asCondition
    let right ← w.asCondition
    return condition (connective left right)
  else
    match v, w with
    | bool a, bool b => .ok (bool (both a b))
    | _, _ => .error (.general .wrongType)

def negated (v : Value) : Except ValueFault Value :=
  if v.isConditional then v.asCondition.map fun c => condition (.not c)
  else
    match v.integer? with
    | some n => .ok (int (-n - 1))
    | Option.none => .error (.general .wrongType)

def ofColumn (leaf : Text → Condition Value) : Value → Except ValueFault Value
  | column name => .ok (condition (leaf name))
  | _ => .error (.general .absentMember)

end Value

def Expression.eval : Expression → Except ValueFault Value
  | column name => .ok (.column name)
  | value v => .ok v
  | compare op left right => do Value.compared op (← left.eval) (← right.eval)
  | isNull operand => operand.eval >>= Value.ofColumn (.nullCheck · true)
  | isNotNull operand => operand.eval >>= Value.ofColumn (.nullCheck · false)
  | isTrue operand => operand.eval >>= Value.ofColumn .isTrue
  | and left right => do Value.joined .and Bool.and (← left.eval) (← right.eval)
  | or left right => do Value.joined .or Bool.or (← left.eval) (← right.eval)
  | not operand => operand.eval >>= Value.negated
  | truth operand => do return .bool (← (← operand.eval).truth)
  | hash operand => do
    if (← operand.eval).isHashable then return .bool true else .error (.general .wrongType)
  | shown operand => do
    let v ← operand.eval
    if v.isShowable then return .text v.shown else .error (.general .wrongValue)
  | condition operand => do return .condition (← (← operand.eval).asCondition)

end SealedRows
