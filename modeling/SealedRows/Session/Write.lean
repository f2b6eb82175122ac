import SealedRows.Session

/-! # Writing records

A record is written as one row with one statement. The key that the database counts is set in the
record afterwards; nothing else in a record changes.
-/
namespace SealedRows.Session

/-- A salt for a row of a table, which is needed only if it has encrypted columns. -/
def drawSalt (s : Schema) : Action Bytes := fun session =>
  if s.hasEncryptedColumns then
    (.ok (session.salts.headD (List.replicate saltSize 0)), { session with salts := session.salts.tail })
  else (.ok [], session)

def rowOf (s : Schema) (id : RecordId) (includeCounted : Bool) : Action Row := do
  let salt ← drawSalt s
  let session ← get
  ofExcept (fun fault => fault)
    (Row.encode session.ring (entryOf session.registry s) salt includeCounted (session.heap.value id))

/-- Sets the primary key of a record to the number that the database gave to its row. -/
def setCountedKey (s : Schema) (id : RecordId) (lastRow : Option Int) (overwrite : Bool) :
    Action Unit := do
  let key ← ofExcept .schema s.primaryKey
  match lastRow with
  | none => return
  | some n =>
    modify fun session =>
      if key.isAutoIncrement && (overwrite || (session.heap.value id key.fieldName).isNone) then
        { session with heap := session.heap.assign id key.fieldName (.value (.int n)) }
      else session

def insert (id : RecordId) : Action Unit := do
  let s ← schemaOf id
  let row ← rowOf s id false
  let sql := Sql.insert s.name (row.map (·.name)) false
  let (_, lastRow) ← onDatabase (Database.execute sql (row.map (·.value)))
  setCountedKey s id lastRow true

def insertOrReplace (id : RecordId) : Action Unit := do
  let s ← schemaOf id
  let row ← rowOf s id true
  let sql := Sql.insert s.name (row.map (·.name)) true
  let (_, lastRow) ← onDatabase (Database.execute sql (row.map (·.value)))
  setCountedKey s id lastRow false

/-- Overwrites the rows that satisfy a condition with the values of a record, and returns their
number. Without a column to write nothing is sent. -/
def update (id : RecordId) (predicate : Value) : Action Int := do
  let s ← schemaOf id
  let clause ← clauseFor s false predicate
  let row ← rowOf s id false
  if row.isEmpty then return 0
  else
    let sql := Sql.update s.name (row.map (·.name)) clause.toSql
    let (count, _) ← onDatabase (Database.execute sql (row.map (·.value) ++ clause.parameters))
    return count

def delete (typeName : Text) (predicate : Value) : Action Int := do
  let s ← schemaFor typeName
  let clause ← clauseFor s false predicate
  let (count, _) ← onDatabase (Database.execute (Sql.delete s.name clause.toSql) clause.parameters)
  return count

def deleteByValue (typeName field : Text) (v : Value) : Action Int := do
  let s ← schemaFor typeName
  let c ← ofExcept .query (lookupColumn s field)
  let parameters ← ofExcept .value (lookupParameters c v)
  let sql := Sql.delete s.name (Sql.valueCondition c.name v)
  let (count, _) ← onDatabase (Database.execute sql parameters)
  return count

end SealedRows.Session
