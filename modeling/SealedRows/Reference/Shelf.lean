import SealedRows.Reference

/-! # Shelves

A shelf keeps records in memory. Every fetch makes a new record like the first one on the shelf that
fits, and is noted in a list of calls.
-/
namespace SealedRows

structure FetchCall where
  table : Text
  column : Text
  key : Value

abbrev Shelf := List Record

namespace Shelf

def valueOf (r : Record) (field : Text) : Value :=
  match r.content? field with
  | some (.value v) => v
  | _ => .none

def find? (typeName field : Text) (key : Value) : Shelf → Except Fault (Option Record)
  | [] => .ok none
  | r :: rest => do
    if r.type.name = typeName then
      if ← ((valueOf r field).equals key).mapError Fault.value then return some r
    find? typeName field key rest

def fieldOf (s : Schema) (column : Text) : Text :=
  ((s.column? column).map (·.fieldName)).getD column

def source (shelf : Shelf) : Source (List FetchCall) where
  fetch s column key _ heap calls :=
    let calls := calls ++ [⟨s.name, column, key⟩]
    match shelf.find? s.record.name (fieldOf s column) key with
    | .error fault => (.error fault, heap, calls)
    | .ok none => (.ok none, heap, calls)
    | .ok (some r) =>
      let (id, heap) := heap.add r
      (.ok (some id), heap, calls)
  depth _ := shelf.length

end Shelf
end SealedRows
