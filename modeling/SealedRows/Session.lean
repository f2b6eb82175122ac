import SealedRows.Database
import SealedRows.Reference
import SealedRows.Row.Writing

/-! # Sessions

A session reads and writes records through a database, with the schemas of their types and the keys
of their tables. Every operation first finds out all that can be wrong, and only then sends a
statement. A failing operation leaves what it has done.
-/
namespace SealedRows

structure Session where
  catalog : Catalog
  registry : Registry
  ring : KeyRing
  heap : Heap
  database : Database
  /-- The salts of the rows to be written; when none is left, they are zero. -/
  salts : List Bytes

namespace Session

def new (catalog : Catalog) (algorithm : Algorithm) (database : Database) (salts : List Bytes) :
    Session :=
  ⟨catalog, [], .empty algorithm, [], database, salts⟩

abbrev Action := ExceptT Fault (StateM Session)

def ofExcept {ε α : Type} (wrap : ε → Fault) : Except ε α → Action α
  | .ok a => pure a
  | .error fault => throw (wrap fault)

def onDatabase {α : Type} (action : Database.Action α) : Action α := fun s =>
  let (result, db) := action s.database
  (result.mapError .storage, { s with database := db })

def schemaFor (typeName : Text) : Action Schema := fun s =>
  let (result, registry) := s.registry.schemaFor s.catalog typeName
  (result.mapError .schema, { s with registry := registry })

def schemaOf (id : RecordId) : Action Schema := do
  match (← get).heap[id]? with
  | some r => schemaFor r.type.name
  | none => throw (.general .absentKey)

def entryOf (registry : Registry) (s : Schema) : RegistryEntry :=
  (registry.find? s.record.name).getD ⟨s, none⟩

/-! ## Keys -/

def setKey (key : Value) : Action Unit := do
  let s ← get
  let ring ← ofExcept .key (s.ring.withDefault key)
  set { s with ring := ring }

def setTableKey (typeName : Text) (key : Value) : Action Unit := do
  let _ ← schemaFor typeName
  let s ← get
  let key ← ofExcept .key (s.ring.algorithm.checkedKey key)
  set { s with registry := s.registry.withKey typeName (some key) }

def entryFor (typeName : Text) : Action RegistryEntry := do
  let schema ← schemaFor typeName
  return entryOf (← get).registry schema

def keyOf (typeName : Text) : Action Bytes := do
  let e ← entryFor typeName
  ofExcept .key ((← get).ring.resolve e)

def forgetKeys (typeNames : List Text) : Action Unit :=
  modify fun s =>
    { s with
      ring := s.ring.cleared
      registry := typeNames.foldl (fun registry typeName => registry.withKey typeName none) s.registry }

def close : Action Unit := do
  forgetKeys ((← get).registry.map (·.typeName))
  onDatabase Database.close

/-! ## Conditions -/

def conditionOf : Value → Except PredicateFault Value
  | .text t => (Condition.ofPredicate t).map .condition
  | v => .ok v

def clauseFor (s : Schema) (qualify : Bool) (predicate : Value) : Action Clause := do
  let v ← ofExcept .predicate (conditionOf predicate)
  ofExcept .query (Clause.ofValue s qualify v)

/-- The clause of a condition that may be left out, as SQL and with its parameters. -/
def optionalClause (s : Schema) (qualify : Bool) (predicate : Value) :
    Action (Option Text × List Value) := do
  if predicate.isNone then return (none, [])
  else
    let clause ← clauseFor s qualify predicate
    return (some clause.toSql, clause.parameters)

def lookupColumn (s : Schema) (field : Text) : Except QueryFault Column := do
  let c ← s.resolve field
  if c.isEncrypted then .error (.encryptedSearch c.name s.name) else return c

def lookupParameters (c : Column) (v : Value) : Except ValueFault (List Value) :=
  if v.isNone then .ok [] else (c.kind.encode v c.ordinal none).map ([·])

/-! ## Records -/

def make (typeName : Text) (values : List (Text × Value)) : Action RecordId := do
  let s ← get
  match s.catalog.find? typeName with
  | none => throw (.general .absentKey)
  | some type =>
    let r ← ofExcept .general (Record.ofGiven type values)
    let (id, heap) := s.heap.add r
    set { s with heap := heap }
    return id

def assign (id : RecordId) (values : List (Text × Value)) : Action Unit :=
  modify fun s =>
    { s with heap := values.foldl (fun heap (field, v) => heap.assign id field (.value v)) s.heap }

def referenceQuery (s : Schema) (c : Column) (key : Value) : Text :=
  Sql.select s.name (some (Sql.valueCondition c.name key)) [] none .ascending (some 1)

def fetchReferenced (ring : KeyRing) (s : Schema) (column : Text) (key : Value) (registry : Registry)
    (heap : Heap) (db : Database) : Except Fault (Option RecordId) × Heap × Database :=
  match s.column? column with
  | none => (.error (.general .absentKey), heap, db)
  | some c =>
    match lookupParameters c key with
    | .error fault => (.error (.value fault), heap, db)
    | .ok parameters =>
      match Database.query (referenceQuery s c key) parameters db with
      | (.error fault, db) => (.error (.storage fault), heap, db)
      | (.ok [], db) => (.ok none, heap, db)
      | (.ok rows, db) =>
        match heap.addRows ring [entryOf registry s] false rows with
        | (.error fault, heap) => (.error fault, heap, db)
        | (.ok ids, heap) => (.ok (ids.flatten.head?.join), heap, db)

/-- The database as a source of records. Every record takes a reply of the database. -/
def source (ring : KeyRing) : Source Database where
  fetch := fetchReferenced ring
  depth db := db.replies.length

/-- Resolves the references of records, of which those of one table and one key are the same. -/
def resolve (records : List (RecordId × Schema)) : Action Unit := fun s =>
  let (result, t) :=
    Traversal.resolveAll s.catalog (source s.ring) records ⟨s.registry, s.heap, [], s.database⟩
  (result, { s with registry := t.registry, heap := t.heap, database := t.source })

def build (schemas : List Schema) (outer : Bool) (rows : List Row) :
    Action (List (List (Option RecordId))) := fun s =>
  let (result, heap) := s.heap.addRows s.ring (schemas.map (entryOf s.registry)) outer rows
  (result, { s with heap := heap })

def recordsOf (s : Schema) (rows : List Row) : Action (List RecordId) := do
  let ids := (← build [s] false rows).flatten.filterMap id
  resolve (ids.map fun id => (id, s))
  return ids

def read (s : Schema) (sql : Text) (parameters : List Value) : Action (List RecordId) := do
  recordsOf s (← onDatabase (Database.query sql parameters))

end Session
end SealedRows
