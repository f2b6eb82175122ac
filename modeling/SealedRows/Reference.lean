import SealedRows.Row

/-! # References

A foreign key that is to be resolved receives the record that it refers to in its navigation field. The
records are fetched one by one, and those that they refer to in turn. A record is known by its table
and its key: one that was met before is taken again, so that circles of references come to an end
and two referrers share one record.
-/
namespace SealedRows

/-- The records that were met, by table and key, in the order in which they were met. -/
abbrev Visited := List ((Text × Value) × RecordId)

namespace Visited

def find? (visited : Visited) (table : Text) (key : Value) : Option RecordId :=
  (List.find? (fun e => e.1.1 = table && e.1.2.isSameKey key) visited).map (·.2)

/-- Notes a record, unless one of its table and its key was noted before. -/
def note (visited : Visited) (table : Text) (key : Value) (id : RecordId) : Visited :=
  if (visited.find? table key).isSome then visited else visited ++ [((table, key), id)]

end Visited

structure Source (σ : Type) where
  /-- Makes the record of a schema whose column of the given name holds a value. -/
  fetch : Schema → Text → Value → Registry → Heap → σ → Except Fault (Option RecordId) × Heap × σ
  /-- The most records that may be fetched one through another. -/
  depth : σ → Nat

structure Traversal (σ : Type) where
  registry : Registry
  heap : Heap
  visited : Visited
  source : σ

namespace Traversal

variable {σ : Type}

/-- A step of the resolution of references; what a failing step has done remains. -/
abbrev Step (σ α : Type) := ExceptT Fault (StateM (Traversal σ)) α

def schemaFor (catalog : Catalog) (typeName : Text) : Step σ Schema := fun t =>
  let (result, registry) := t.registry.schemaFor catalog typeName
  (result.mapError .schema, { t with registry := registry })

def fetch (source : Source σ) (s : Schema) (column : Text) (key : Value) :
    Step σ (Option RecordId) := fun t =>
  let (result, heap, rest) := source.fetch s column key t.registry t.heap t.source
  (result, { t with heap := heap, source := rest })

def navigate (id : RecordId) (field : Text) (found : Option RecordId) : Step σ Unit :=
  modify fun t =>
    { t with heap := t.heap.assign id field ((found.map .record).getD (.value .none)) }

def note (table : Text) (key : Value) (id : RecordId) : Step σ Unit :=
  if key.isHashable then modify fun t => { t with visited := t.visited.note table key id }
  else throw (.general .wrongType)

def enter (id : RecordId) (s : Schema) : Step σ Unit := do
  match s.primaryKey with
  | .error fault => throw (.schema fault)
  | .ok c =>
    let key := (← get).heap.value id c.fieldName
    if key.isNone then return else note s.name key id

def load (catalog : Catalog) (source : Source σ) (visit : RecordId → Schema → Step σ Unit)
    (id : RecordId) (k : ForeignKey) (key : Value) : Step σ Unit := do
  if !key.isHashable then throw (.general .wrongType)
  match (← get).visited.find? k.referencedTable key with
  -- What was met is known by its table and its key, not by its type.
  | some found => navigate id k.navigationField (some found)
  | none =>
    let s ← schemaFor catalog k.referencedType
    let found ← fetch source s k.referencedColumn key
    navigate id k.navigationField found
    match found with
    | none => return
    | some found =>
      -- It is noted before its own references are followed, so circles end.
      note k.referencedTable key found
      visit found s

def follow (catalog : Catalog) (source : Source σ) (visit : RecordId → Schema → Step σ Unit)
    (id : RecordId) : List ForeignKey → Step σ Unit
  | [] => return
  | k :: rest => do
    let key := (← get).heap.value id k.fieldName
    if k.autoResolve && !key.isNone then load catalog source visit id k key
    follow catalog source visit id rest

/-- Resolves the references of a record and of those fetched through it, up to a depth. -/
def visit (catalog : Catalog) (source : Source σ) : Nat → RecordId → Schema → Step σ Unit
  | 0, _, _ => return
  | depth + 1, id, s => do
    enter id s
    follow catalog source (visit catalog source depth) id s.foreignKeys

def resolve (catalog : Catalog) (source : Source σ) (id : RecordId) (s : Schema) : Step σ Unit := do
  visit catalog source (source.depth (← get).source + 1) id s

def resolveAll (catalog : Catalog) (source : Source σ) : List (RecordId × Schema) → Step σ Unit
  | [] => return
  | (id, s) :: rest => do
    resolve catalog source id s
    resolveAll catalog source rest

end Traversal
end SealedRows
