import SealedRows.Sql.Statement

/-! # Joins

Two tables are joined where a column of one equals a column of the other; a table is not joined with
itself, and encrypted columns can't be compared. The columns of a row stand table by table.
-/
namespace SealedRows

inductive JoinFault where
  | selfJoin (table : Text)
  | unmappedField (field table : Text)
  | encryptedColumn (column table : Text)
  /-- There is not one condition for each table but the first. -/
  | conditionCount (expected : Int) (got : Nat)
  deriving DecidableEq, Repr

def JoinFault.report : JoinFault → Report
  | selfJoin table => .error .selfJoin ("Table " ++ table ++ " can't be joined with itself.") none
  | unmappedField field table =>
    .error .unmappedField ("Field '" ++ field ++ "' is not a mapped column of table " ++ table ++ ".") none
  | encryptedColumn column table =>
    .error .join
      ("Encrypted column '" ++ column ++ "' of table " ++ table ++ " can't be used in a join condition.")
      none
  | conditionCount expected got =>
    .failure .wrongValue
      ("Expected " ++ Text.ofInt expected ++ " join conditions, got " ++ Text.ofNat got)

namespace Sql

def joinColumn (s : Schema) (field : Text) : Except JoinFault Column :=
  match s.resolve? field with
  | none => .error (.unmappedField field s.name)
  | some c => if c.isEncrypted then .error (.encryptedColumn c.name s.name) else .ok c

def joinClause (leftField rightField : Text) (left right : Schema) : Except JoinFault Text := do
  if left.name = right.name then .error (.selfJoin left.name)
  else
    let l ← joinColumn left leftField
    let r ← joinColumn right rightField
    return left.name ++ "." ++ l.name ++ " = " ++ right.name ++ "." ++ r.name

/-- Reads the rows of joined tables. A left join keeps the rows of the first table that match no
other. -/
def join (schemas : List Schema) (conditions : List Text) (clause : Option Text) (left : Bool) :
    Except JoinFault Text :=
  if conditions.length + 1 ≠ schemas.length then
    .error (.conditionCount ((schemas.length : Int) - 1) conditions.length)
  else
    let first := (schemas.head?.map (·.name)).getD []
    let kind : Text := if left then " LEFT JOIN " else " INNER JOIN "
    let joined := List.zipWith (fun s on => kind ++ s.name ++ " ON " ++ on) (schemas.drop 1) conditions
    .ok ("SELECT " ++ listed (schemas.flatMap qualifiedColumns) ++ " FROM " ++ first ++ joined.flatten
      ++ optional "WHERE" clause)

end Sql
end SealedRows
