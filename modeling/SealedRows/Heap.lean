import SealedRows.RecordType

/-! # Records

Records can be changed and can refer to each other, even in circles, so they are kept in a heap and
known by their places in it. A field holds a value, a record or nothing yet; what it does not hold is
looked for among the values that its type gives to all records.
-/
namespace SealedRows

abbrev RecordId := Nat

inductive Content where
  | value (v : Value)
  | record (id : RecordId)

structure Record where
  type : RecordType
  contents : List (Text × Content)

abbrev Heap := List Record

namespace Record

def withField (r : Record) (field : Text) (content : Content) : Record :=
  { r with contents := (field, content) :: r.contents.filter (·.1 ≠ field) }

/-- What a field holds, or what the type gives to all records. -/
def content? (r : Record) (field : Text) : Option Content :=
  match r.contents.lookup field with
  | some content => some content
  | none => (r.type.shared? field).map .value

def initial (f : Field) : Option (Text × Content) :=
  match f.default with
  | .required => none
  | .value v => if f.init then some (f.name, .value v) else none
  | .made v => some (f.name, .value v)

/-- A new record of a type with the given fields. Every field that takes a value and has no default
must be given, and no other name may be. -/
def make (type : RecordType) (given : List (Text × Content)) : Except Breakdown Record :=
  let isInit (name : Text) : Bool := type.fields.any fun f => f.name = name && f.init
  let isMissing (f : Field) : Bool :=
    match f.default with
    | .required => f.init && (given.lookup f.name).isNone
    | _ => false
  if given.any fun (name, _) => !isInit name then .error .wrongType
  else if type.fields.any isMissing then .error .wrongType
  else
    .ok ⟨type, type.fields.filterMap fun f =>
      match given.lookup f.name with
      | some content => some (f.name, content)
      | none => initial f⟩

def ofGiven (type : RecordType) (values : List (Text × Value)) : Except Breakdown Record :=
  make type (values.map fun (field, v) => (field, .value v))

/-- A new record from decoded values. Fields without a value keep their defaults, or hold null if they
have none; a field that takes no value when the record is made is set afterwards. -/
def ofValues (type : RecordType) (values : List (Text × Value)) : Except Breakdown Record := do
  let given : List (Text × Content) := type.fields.filterMap fun f =>
    if !f.init then none
    else
      match values.lookup f.name, f.default with
      | some v, _ => some (f.name, .value v)
      | none, .required => some (f.name, .value .none)
      | none, _ => none
  let late := type.fields.filterMap fun f =>
    if f.init then none else (values.lookup f.name).map fun v => (f.name, v)
  let r ← make type given
  return late.foldl (fun r (field, v) => r.withField field (.value v)) r

end Record

namespace Heap

def content? (h : Heap) (id : RecordId) (field : Text) : Option Content :=
  (h[id]?).bind (·.content? field)

def assign (h : Heap) (id : RecordId) (field : Text) (content : Content) : Heap :=
  h.modify id (·.withField field content)

def add (h : Heap) (r : Record) : RecordId × Heap := (h.length, h ++ [r])

/-- A record as messages show it: its fields, and dots in the place of a record that is being
shown. -/
def shownRecord (h : Heap) : Nat → List RecordId → RecordId → Text
  | 0, _, _ => "..."
  | fuel + 1, showing, id =>
    match h[id]? with
    | none => "..."
    | some r =>
      if showing.contains id then "..."
      else
        let field (f : Field) : Text :=
          f.name ++ "=" ++
            match r.content? f.name with
            | some (.value v) => v.shown
            | some (.record other) => shownRecord h fuel (id :: showing) other
            | none => []
        r.type.name ++ "(" ++ Text.joined ", " (r.type.fields.map field) ++ ")"

def valueOf (h : Heap) : Content → Value
  | .value v => v
  | .record id =>
    match h[id]? with
    | some r => .object r.type.name (h.shownRecord (h.length + 1) [] id)
    | none => .none

def value (h : Heap) (id : RecordId) (field : Text) : Value :=
  ((h.content? id field).map h.valueOf).getD .none

end Heap
end SealedRows
