import SealedRows.Session

/-! # Aggregates

Functions over the values of a column are computed by the database, which can't do so for encrypted
columns nor for those stored in their binary layout. It can count the values of all of them, for it
need not know them.
-/
namespace SealedRows

inductive Aggregate where
  | count | countDistinct | max | min | sum | average
  deriving DecidableEq, Repr

namespace Aggregate

def name : Aggregate → Text
  | count | countDistinct => "COUNT"
  | max => "MAX"
  | min => "MIN"
  | sum => "SUM"
  | average => "AVG"

def needsValues (a : Aggregate) : Bool := a ≠ count

end Aggregate

namespace Session

def aggregateColumn (s : Schema) (a : Aggregate) (field : Text) : Except QueryFault Column := do
  let c ← s.resolve field
  if a.needsValues && c.isEncrypted then .error (.encryptedAggregate a.name c.name s.name)
  else if a.needsValues && c.isBlobStored then .error (.blobAggregate a.name c.kind c.name s.name)
  else return c

/-- Computes a function over a column of the rows that satisfy a condition, or of all rows. Without a
field whole rows are meant. -/
def computed (a : Aggregate) (typeName : Text) (field : Option Text) (predicate : Value) :
    Action Value := do
  let s ← schemaFor typeName
  let column ←
    match field with
    | none => pure ("*" : Text)
    | some field => (·.name) <$> ofExcept .query (aggregateColumn s a field)
  let (clause, parameters) ← optionalClause s false predicate
  let sql := Sql.aggregate a.name s.name column (a = .countDistinct) clause
  onDatabase (Database.queryValue sql parameters)

def counted (v : Value) : Except Fault Int := do
  if ← v.truth.mapError .value then v.toInt.mapError .general else return 0

def count (typeName : Text) (predicate : Value) : Action Int := do
  ofExcept (fun fault => fault) (counted (← computed .count typeName none predicate))

def countColumn (typeName field : Text) (predicate : Value) : Action Int := do
  ofExcept (fun fault => fault) (counted (← computed .count typeName (some field) predicate))

def countDistinct (typeName field : Text) (predicate : Value) : Action Int := do
  ofExcept (fun fault => fault) (counted (← computed .countDistinct typeName (some field) predicate))

def chosen (a : Aggregate) (typeName field : Text) (predicate : Value) : Action Value := do
  let stored ← computed a typeName (some field) predicate
  let s ← schemaFor typeName
  let c ← ofExcept .query (s.resolve field)
  ofExcept (fun fault => fault) (c.decode stored none)

def max (typeName field : Text) (predicate : Value) : Action Value := chosen .max typeName field predicate

def min (typeName field : Text) (predicate : Value) : Action Value := chosen .min typeName field predicate

def sum (typeName field : Text) (predicate : Value) : Action Value :=
  computed .sum typeName (some field) predicate

def average (typeName field : Text) (predicate : Value) : Action Value :=
  computed .average typeName (some field) predicate

end Session
end SealedRows
