import SealedRows.Codec.Column
import SealedRows.Heap
import SealedRows.KeyRing

/-! # Rows

A row is a list of named values. The row of a join holds the columns of its tables one after the
other, the salt of each table behind its columns, so it is divided by counting. Within the part of
one table, columns are found by their names.
-/
namespace SealedRows

/-- The storage class of a value that the database returns; null has none. -/
def StorageClass.of? : Value → Option StorageClass
  | .none => none
  | .bytes _ | .buffer _ => some .blob
  | .text _ => some .text
  | .float _ => some .real
  | _ => some .integer

structure Cell where
  name : Text
  value : Value

def Cell.isAbsent (c : Cell) : Bool := (StorageClass.of? c.value).isNone

abbrev Row := List Cell

namespace Row

def ofValues (names : List Text) (values : List Value) : Except StorageFault Row :=
  if names.length ≠ values.length then .error (.rowWidth values.length names.length)
  else .ok (List.zipWith Cell.mk names values)

def cut : List Nat → Row → List Row
  | [], _ => []
  | count :: counts, row => row.take count :: cut counts (row.drop count)

/-- The parts of a row for each of its tables. The row of a single table is a part as it is. -/
def split (schemas : List Schema) (row : Row) : Except StorageFault (List Row) :=
  match schemas with
  | [_] => .ok [row]
  | _ =>
    let counts := schemas.map (·.columnCount)
    if row.length ≠ counts.sum then
      .error (.joinWidth row.length counts.sum (schemas.map (·.name)))
    else .ok (cut counts row)

def salt (row : Row) : Value := ((List.find? (fun c => c.name = saltColumnName) row).map (·.value)).getD .none

/-- Puts a value under a name, where the name first stood if it was there before. -/
def withEntry (values : List (Text × Value)) (name : Text) (v : Value) : List (Text × Value) :=
  if values.any (·.1 = name) then values.map fun e => if e.1 = name then (name, v) else e
  else values ++ [(name, v)]

def cipher (ring : KeyRing) (e : RegistryEntry) (row : Row) : Except Fault CipherContext :=
  match row.salt with
  | .none => .error (.storage (.missingSalt e.schema.name))
  | salt =>
    match salt.toBytes with
    | .error b => .error (.general b)
    | .ok bs => (ring.contextFor e bs).mapError fun fault => .value (.cipher fault)

/-- Decodes cells one after the other. The cipher is made for the first encrypted value. -/
def decodeCells (ring : KeyRing) (e : RegistryEntry) (row : Row) :
    Option CipherContext → List (Text × Value) → List Cell → Except Fault (List (Text × Value))
  | _, values, [] => .ok values
  | context, values, cell :: rest =>
    match e.schema.column? cell.name with
    | none => decodeCells ring e row context values rest
    | some c => do
      let context ←
        if c.isEncrypted && !cell.value.isNone && context.isNone then some <$> cipher ring e row
        else pure context
      let v ← c.decode cell.value context
      decodeCells ring e row context (withEntry values c.fieldName v) rest

/-- The values of the fields of a table by the names of its columns. Columns that a row does not hold
are left out. -/
def decode (ring : KeyRing) (e : RegistryEntry) (row : Row) : Except Fault (List (Text × Value)) :=
  decodeCells ring e row none [] row

/-- The values of the parts of a row. In an outer join a table but the first whose cells are all null
has no row. -/
def decodeParts (ring : KeyRing) (outer : Bool) :
    Nat → List RegistryEntry → List Row → Except Fault (List (Option (List (Text × Value))))
  | index, e :: entries, part :: parts => do
    let values ←
      if outer && 0 < index && part.all Cell.isAbsent then pure none
      else some <$> part.decode ring e
    return values :: (← decodeParts ring outer (index + 1) entries parts)
  | _, _, _ => .ok []

def assemble (ring : KeyRing) (outer : Bool) (entries : List RegistryEntry) (row : Row) :
    Except Fault (List (Option (List (Text × Value)))) := do
  let parts ← (row.split (entries.map (·.schema))).mapError .storage
  decodeParts ring outer 0 entries parts

end Row

def Heap.addDecoded (h : Heap) (entries : List RegistryEntry)
    (rows : List (List (Option (List (Text × Value))))) :
    Except Fault (List (List (Option RecordId))) × Heap :=
  let one (h : Heap) (e : RegistryEntry) (values : Option (List (Text × Value))) :
      Except Fault (Option RecordId × Heap) :=
    match values with
    | none => .ok (none, h)
    | some values =>
      match Record.ofValues e.schema.record values with
      | .error b => .error (.general b)
      | .ok r =>
        let (id, h) := h.add r
        .ok (some id, h)
  let rec row (h : Heap) : List RegistryEntry → List (Option (List (Text × Value))) →
      Except Fault (List (Option RecordId) × Heap)
    | e :: entries, values :: rest => do
      let (id, h) ← one h e values
      let (ids, h) ← row h entries rest
      return (id :: ids, h)
    | _, _ => .ok ([], h)
  let rec all (h : Heap) : List (List (Option (List (Text × Value)))) →
      Except Fault (List (List (Option RecordId)) × Heap)
    | [] => .ok ([], h)
    | values :: rest => do
      let (ids, h) ← row h entries values
      let (more, h) ← all h rest
      return (ids :: more, h)
  -- Of rows with a bad one among them no record is kept.
  match all h rows with
  | .ok (ids, made) => (.ok ids, made)
  | .error fault => (.error fault, h)

def Heap.addRows (h : Heap) (ring : KeyRing) (entries : List RegistryEntry) (outer : Bool)
    (rows : List Row) : Except Fault (List (List (Option RecordId))) × Heap :=
  match rows.mapM (Row.assemble ring outer entries) with
  | .error fault => (.error fault, h)
  | .ok decoded => h.addDecoded entries decoded

end SealedRows
