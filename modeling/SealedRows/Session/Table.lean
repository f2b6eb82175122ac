import SealedRows.Session

/-! # Tables of a session

Tables are made, emptied and removed, and the table that the database has can be held against the one
that a record type needs.
-/
namespace SealedRows.Session

def createTable (typeName : Text) : Action Unit := do
  let s ← schemaFor typeName
  let sql ← ofExcept .value (Sql.createTable s)
  let _ ← onDatabase (Database.execute sql [])

def deleteTable (typeName : Text) : Action Unit := do
  let s ← schemaFor typeName
  let _ ← onDatabase (Database.execute (Sql.dropTable s.name) [])

def clearTable (typeName : Text) : Action Int := do
  let s ← schemaFor typeName
  let (count, _) ← onDatabase (Database.execute (Sql.clearTable s.name) [])
  return count

def structureEntry (name type : Value) : Value := .tuple [name, type]

def expectedStructure (s : Schema) : Value :=
  .list ((s.columns.map fun c => structureEntry (.text c.name) (.text c.storageClass.name))
    ++ if s.hasEncryptedColumns then
        [structureEntry (.text saltColumnName) (.text StorageClass.blob.name)] else [])

def lastValue? (row : Row) (name : Text) : Option Value :=
  (row.reverse.find? (·.name = name)).map (·.value)

def foundColumn (row : Row) : Except Breakdown Value :=
  match lastValue? row "name", lastValue? row "type" with
  | some name, some type => .ok (structureEntry name (.text (Text.capitals type.written)))
  | _, _ => .error .absentKey

/-- Checks that the table of the database has the columns that a record type needs. -/
def checkStructure (typeName : Text) : Action Unit := do
  let s ← schemaFor typeName
  let rows ← onDatabase (Database.query (Sql.tableInfo s.name) [])
  if rows.isEmpty then throw (.storage (.missingTable s.name))
  else
    let found := Value.list (← ofExcept .general (rows.mapM foundColumn))
    let expected := expectedStructure s
    let same ← ofExcept .value (found.equals expected)
    if same then return
    else throw (.storage (.wrongStructure s.name typeName expected found))

end SealedRows.Session
