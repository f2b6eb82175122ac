import SealedRows.Session

/-! # Reading joined records

Up to three tables are joined with a first one, each by a field of the first and a field of its own. A
condition speaks of the first table. All records of all rows share what they refer to.
-/
namespace SealedRows.Session

/-- The field of the first table and the field of the joined one that are equal. -/
structure JoinFields where
  first : Text
  joined : Text

structure JoinedTable where
  typeName : Text
  fields : Option JoinFields

def joinedTables (second : Text) (on : JoinFields) (third : Option Text) (onThird : Option JoinFields)
    (fourth : Option Text) (onFourth : Option JoinFields) :
    Except QueryFault (List (Text × JoinFields)) := do
  let thirdTable ←
    match third, onThird with
    | none, _ => pure []
    | some _, none => .error .thirdWithoutCondition
    | some typeName, some fields => pure [(typeName, fields)]
  let fourthTable ←
    match fourth, third, onFourth with
    | none, _, _ => pure []
    | some typeName, some _, some fields => pure [(typeName, fields)]
    | _, _, _ => .error .fourthWithoutCondition
  return (second, on) :: (thirdTable ++ fourthTable)

def joinClauses (first : Schema) (joined : List (Schema × JoinFields)) :
    Except JoinFault (List Text) :=
  joined.mapM fun (s, fields) => Sql.joinClause fields.first fields.joined first s

def joinRows (first : Text) (joined : List (Text × JoinFields)) (predicate : Value) (outer : Bool) :
    Action (List (List (Option RecordId))) := do
  let main ← schemaFor first
  let others ← joined.mapM fun (typeName, fields) => do return (← schemaFor typeName, fields)
  let schemas := main :: others.map (·.1)
  let clauses ← ofExcept .join (joinClauses main others)
  let (clause, parameters) ← optionalClause main true predicate
  let sql ← ofExcept .join (Sql.join schemas clauses clause outer)
  let rows ← onDatabase (Database.query sql parameters)
  let records ← build schemas outer rows
  let present (row : List (Option RecordId)) : List (RecordId × Schema) :=
    (List.zip row schemas).filterMap fun (id, s) => id.map fun id => (id, s)
  resolve (records.flatMap present)
  return records

def join (first second : Text) (on : JoinFields) (predicate : Value) (third : Option Text)
    (onThird : Option JoinFields) (fourth : Option Text) (onFourth : Option JoinFields) :
    Action (List (List (Option RecordId))) := do
  let joined ← ofExcept .query (joinedTables second on third onThird fourth onFourth)
  joinRows first joined predicate false

/-- Reads the records of a table, each with those of another one that match it, or with none. -/
def leftJoin (left right : Text) (on : JoinFields) (predicate : Value) :
    Action (List (List (Option RecordId))) :=
  joinRows left [(right, on)] predicate true

end SealedRows.Session
