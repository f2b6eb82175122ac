import SealedRows.Session

/-! # Reading records

Records are read with one statement, and those that they refer to with one more for each table and
key.
-/
namespace SealedRows.Session

def table (typeName : Text) : Action (List RecordId) := do
  let s ← schemaFor typeName
  read s (Sql.selectRows s.name none) []

/-- What is asked of the records that are found: how many there may be, and their order. -/
structure FindOptions where
  limit : Option Value
  orderBy : Option Text
  order : SortOrder

def FindOptions.plain : FindOptions := ⟨none, none, .ascending⟩

/-- A limit that is written into a statement. Integers of too many digits are not written out. -/
def writtenLimit (v : Value) : Except Fault Int := do
  let n ← (checkedLimit v).mapError .query
  if !(Value.int n).isShowable then .error (.general .wrongValue) else return n

def find (typeName : Text) (predicate : Value) (options : FindOptions) : Action (List RecordId) := do
  let s ← schemaFor typeName
  let clause ← clauseFor s false predicate
  let orderBy ← options.orderBy.mapM fun field => ofExcept .query (s.orderColumn field)
  let limit ← options.limit.mapM fun v => ofExcept id (writtenLimit v)
  read s (Sql.select s.name (some clause.toSql) [] orderBy options.order limit) clause.parameters

def findFirst (typeName : Text) (predicate : Value) : Action (Option RecordId) := do
  return (← find typeName predicate { FindOptions.plain with limit := some (.int 1) }).head?

def findByValue (typeName field : Text) (v : Value) : Action (List RecordId) := do
  let s ← schemaFor typeName
  let c ← ofExcept .query (lookupColumn s field)
  let parameters ← ofExcept .value (lookupParameters c v)
  read s (Sql.selectRows s.name (some (Sql.valueCondition c.name v))) parameters

def selectedColumns (columns : List Column) : List Text :=
  columns.map (·.name) ++ if columns.any (·.isEncrypted) then [saltColumnName] else []

/-- Reads some fields of the records that satisfy a condition; the others keep their defaults. -/
def select (typeName : Text) (predicate : Value) (fields : List Text) : Action (List RecordId) := do
  let s ← schemaFor typeName
  if fields.isEmpty then throw (.query (.noFields s.name))
  else
    let clause ← clauseFor s false predicate
    let columns ← ofExcept .query (fields.mapM s.resolve)
    let sql := Sql.select s.name (some clause.toSql) (selectedColumns columns) none .ascending none
    read s sql clause.parameters

def selectTop (typeName : Text) (count : Value) : Action (List RecordId) := do
  let s ← schemaFor typeName
  let n ← ofExcept .query (checkedLimit count)
  read s (Sql.selectTop s.name) [.int n]

end SealedRows.Session
