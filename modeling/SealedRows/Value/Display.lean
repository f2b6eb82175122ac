import SealedRows.Double.Shortest
import SealedRows.Text.Quoted
import SealedRows.Value

/-! # How values are shown

A value has two texts: the one that messages show, from which its type can be told, and the plain
one that is stored.
-/
namespace SealedRows.Value

def inTuple : List Text → Text
  | [part] => "(" ++ part ++ ",)"
  | parts => "(" ++ Text.joined ", " parts ++ ")"

def shownOperator (op : Operator) : Text :=
  "<Operator." ++ op.name ++ ": " ++ Text.quoted op.symbol ++ ">"

def shownBool (b : Bool) : Text := if b then "True" else "False"

mutual

def shown : Value → Text
  | none => "None"
  | bool b => shownBool b
  | int n => Text.ofInt n
  | float x => x.toText
  | text t => Text.quoted t
  | bytes bs => Bytes.quoted bs
  | buffer bs => Bytes.quotedBuffer bs
  | decimal d => "Decimal('" ++ d.toText ++ "')"
  | moment m => m.shown
  | list vs => "[" ++ Text.joined ", " (shownEach vs) ++ "]"
  | tuple vs => inTuple (shownEach vs)
  | condition c => shownCondition c
  | column name => "col(" ++ Text.quoted name ++ ")"
  | object _ shown => shown

def shownEach : List Value → List Text
  | [] => []
  | v :: vs => shown v :: shownEach vs

def shownCondition : Condition Value → Text
  | .comparison field op value =>
    "Comparison(field=" ++ Text.quoted field ++ ", operator=" ++ shownOperator op ++ ", value="
      ++ shown value ++ ")"
  | .nullCheck field isNull =>
    "NullCheck(field=" ++ Text.quoted field ++ ", is_null=" ++ shownBool isNull ++ ")"
  | .isTrue field => "IsTrue(field=" ++ Text.quoted field ++ ")"
  | .and left right => "And(left=" ++ shownCondition left ++ ", right=" ++ shownCondition right ++ ")"
  | .or left right => "Or(left=" ++ shownCondition left ++ ", right=" ++ shownCondition right ++ ")"
  | .not operand => "Not(operand=" ++ shownCondition operand ++ ")"
  | .bare => "<Node>"
  | .misfit value => shown value

end

mutual

/-- Whether a value can be shown. Integers of too many digits are not written out. -/
def isShowable : Value → Bool
  | int n => (Text.digits n.natAbs).length ≤ Numeral.maxIntegerDigits
  | list vs | tuple vs => areShowable vs
  | condition c => isShowableCondition c
  | _ => true

def areShowable : List Value → Bool
  | [] => true
  | v :: vs => isShowable v && areShowable vs

def isShowableCondition : Condition Value → Bool
  | .comparison _ _ value | .misfit value => isShowable value
  | .and left right | .or left right => isShowableCondition left && isShowableCondition right
  | .not operand => isShowableCondition operand
  | _ => true

end

/-- A value as plain text: texts, decimals and moments are not marked as such. -/
def written : Value → Text
  | text t => t
  | decimal d => d.toText
  | moment m => m.toText
  | v => v.shown

end SealedRows.Value
