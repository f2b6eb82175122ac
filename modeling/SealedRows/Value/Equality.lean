import SealedRows.Value.Fault

/-! # Equality of values

Numbers of all types are compared as numbers, byte strings as bytes, and the others only with values
of their own type. A missing number equals nothing, and a signaling one can't be compared with
numbers. A comparison with a column would make a condition, which is neither true nor false.
-/
namespace SealedRows

/-- An integer without the zeros at its end, with the power of ten that they stood for. -/
def withoutTens (c : Nat) (exponent : Int) : Nat × Int :=
  if h : c = 0 then (0, 0)
  else if c % 10 = 0 then withoutTens (c / 10) (exponent + 1) else (c, exponent)
termination_by c
decreasing_by omega

def Decimal.sameAs : Decimal → Decimal → Bool
  | finite n c e, finite n' c' e' => withoutTens c e == withoutTens c' e' && (c == 0 || n == n')
  | infinite n, infinite n' => n == n'
  | _, _ => false

def Decimal.isSignaling : Decimal → Bool
  | nan _ signaling _ => signaling
  | _ => false

namespace Value

def number? : Value → Option Decimal
  | bool b => some (Decimal.ofInt (if b then 1 else 0))
  | int n => some (Decimal.ofInt n)
  | float x => some (Decimal.ofDouble x)
  | decimal d => some d
  | _ => Option.none

def bytes? : Value → Option Bytes
  | bytes bs | buffer bs => some bs
  | _ => Option.none

def sameLeaf (v w : Value) : Except ValueFault Bool :=
  match v.number?, w.number? with
  | some a, some b =>
    if a.isSignaling || b.isSignaling then .error (.general .invalidDecimal) else .ok (a.sameAs b)
  | _, _ =>
    match v.bytes?, w.bytes? with
    | some a, some b => .ok (a == b)
    | _, _ =>
      match v, w with
      | none, none => .ok true
      | text a, text b => .ok (a == b)
      | moment a, moment b => .ok (a.sameAs b)
      | object a a', object b b' => .ok (a == b && a' == b')
      | column _, column _ => .error .columnComparison
      | column _, _ | _, column _ => .error .conditionTruth
      | _, _ => .ok false

mutual

def equals : Value → Value → Except ValueFault Bool
  | list vs, list ws => if vs.length = ws.length then equalsEach vs ws else .ok false
  | tuple vs, tuple ws => equalsEach vs ws
  | condition c, condition d => equalsCondition c d
  | v, w => sameLeaf v w

def equalsEach : List Value → List Value → Except ValueFault Bool
  | [], [] => .ok true
  | v :: vs, w :: ws => do if ← equals v w then equalsEach vs ws else .ok false
  | _, _ => .ok false

/-- Whether two conditions are built alike. A bare condition is equal to no other. -/
def equalsCondition : Condition Value → Condition Value → Except ValueFault Bool
  | .comparison field op v, .comparison field' op' w =>
    if field = field' ∧ op = op' then equals v w else .ok false
  | .nullCheck field isNull, .nullCheck field' isNull' => .ok (field = field' ∧ isNull = isNull')
  | .isTrue field, .isTrue field' => .ok (field = field')
  | .and left right, .and left' right' | .or left right, .or left' right' => do
    if ← equalsCondition left left' then equalsCondition right right' else .ok false
  | .not operand, .not operand' => equalsCondition operand operand'
  | .misfit v, .misfit w => equals v w
  | .misfit v, _ => sameLeaf v (.condition .bare)
  | _, .misfit w => sameLeaf (.condition .bare) w
  | _, _ => .ok false

end

mutual

/-- Whether a value can be a key: it can't be changed, and it can be compared. -/
def isHashable : Value → Bool
  | buffer _ | list _ | column _ | object .. => false
  | decimal d => !d.isSignaling
  | tuple vs => areHashable vs
  | condition c => isHashableCondition c
  | _ => true

def areHashable : List Value → Bool
  | [] => true
  | v :: vs => isHashable v && areHashable vs

def isHashableCondition : Condition Value → Bool
  | .comparison _ _ v | .misfit v => isHashable v
  | .and left right | .or left right => isHashableCondition left && isHashableCondition right
  | .not operand => isHashableCondition operand
  | _ => true

end

def isSameKey (v w : Value) : Bool :=
  match equals v w with
  | .ok b => b
  | .error _ => false

end Value
end SealedRows
