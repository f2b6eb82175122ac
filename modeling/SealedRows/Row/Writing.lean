import SealedRows.Row

/-! # Rows to write

What is stored of a record. A column that holds null is left to the database when it has a default,
and refused when it may not be null; a key that the database counts is left out unless it is asked for.
All encrypted values of a row share its salt, which is written behind them.
-/
namespace SealedRows.Row

def blamed (table : Text) (c : Column) : Fault → Fault
  | .value fault =>
    if fault.isRefusal then .storage (.refusedValue c.name table fault) else .value fault
  | fault => fault

def encodeCell (table : Text) (cipher : Option CipherContext) (includeCounted : Bool) (c : Column)
    (v : Value) : Except Fault (Option Cell) :=
  if c.isAutoIncrement && !includeCounted then .ok none
  else if v.isNone && !c.defaultValue.isNone then .ok none
  else if v.isNone && c.isNotNull && !c.isAutoIncrement then
    .error (.storage (.nullColumn c.name table))
  else
    match c.encode v cipher with
    | .ok stored => .ok (some ⟨c.name, stored⟩)
    | .error fault => .error (blamed table c fault)

def encodeCells (table : Text) (cipher : Option CipherContext) (includeCounted : Bool)
    (valueOf : Text → Value) : List Column → Except Fault Row
  | [] => .ok []
  | c :: columns => do
    let cell ← encodeCell table cipher includeCounted c (valueOf c.fieldName)
    return cell.toList ++ (← encodeCells table cipher includeCounted valueOf columns)

def sealing (ring : KeyRing) (e : RegistryEntry) (salt : Bytes) : Except Fault (Option CipherContext) :=
  if e.schema.hasEncryptedColumns then
    match ring.contextFor e salt with
    | .ok cipher => .ok (some cipher)
    | .error fault => .error (.value (.cipher fault))
  else .ok none

def saltCell (s : Schema) (salt : Bytes) : Row :=
  if s.hasEncryptedColumns then [⟨saltColumnName, .bytes salt⟩] else []

def encode (ring : KeyRing) (e : RegistryEntry) (salt : Bytes) (includeCounted : Bool)
    (valueOf : Text → Value) : Except Fault Row := do
  let cipher ← sealing ring e salt
  let cells ← encodeCells e.schema.name cipher includeCounted valueOf e.schema.columns
  return cells ++ saltCell e.schema salt

end SealedRows.Row
