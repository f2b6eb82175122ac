import SealedRows.Text

/-! # Conditions

A condition on the fields of a record is a tree: comparisons with literals, checks for null and
boolean fields at the leaves, joined by `and`, `or` and `not`. The literals are a parameter, for a
literal may itself hold a condition that somebody put there by mistake.
-/
namespace SealedRows

inductive Operator where
  | eq | ne | lt | le | gt | ge
  deriving DecidableEq, Repr

namespace Operator

def all : List Operator := [eq, ne, lt, le, gt, ge]

def symbol : Operator → Text
  | eq => "="
  | ne => "<>"
  | lt => "<"
  | le => "<="
  | gt => ">"
  | ge => ">="

def name : Operator → Text
  | eq => "EQ"
  | ne => "NE"
  | lt => "LT"
  | le => "LE"
  | gt => "GT"
  | ge => "GE"

def ofSymbol? (t : Text) : Option Operator := all.find? (·.symbol = t)

def isOrdering : Operator → Bool
  | eq | ne => false
  | _ => true

/-- The comparison that holds of two values when this one holds of them in the other order. -/
def swapped : Operator → Operator
  | lt => gt
  | le => ge
  | gt => lt
  | ge => le
  | op => op

end Operator

inductive Condition (α : Type) where
  /-- The field compares to the literal. -/
  | comparison (field : Text) (operator : Operator) (value : α)
  /-- The field is null, or is not null. -/
  | nullCheck (field : Text) (isNull : Bool)
  /-- The boolean field is true. -/
  | isTrue (field : Text)
  | and (left right : Condition α)
  | or (left right : Condition α)
  | not (operand : Condition α)
  /-- A condition that says nothing. -/
  | bare
  /-- An operand that is no condition. -/
  | misfit (value : α)
  deriving Repr

end SealedRows
