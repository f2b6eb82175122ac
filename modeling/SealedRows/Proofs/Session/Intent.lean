import SealedRows.Proofs.Row.Written
import SealedRows.Proofs.Schema.TableKeys
import SealedRows.Proofs.Session.Discreet
import SealedRows.Proofs.Sql.Fills

/-! # What operations mean to send

Every operation on the records of tables means to send one statement: it adds, changes, removes, reads,
counts or joins rows. What the statement is to say follows from the values of the record that is written,
from the rows that are chosen and from the schemas of the declared types.
-/
namespace SealedRows
open Filled

namespace Value

def condition? (predicate : Value) : Option (Condition Value) :=
  match Session.conditionOf predicate with
  | .ok v => Condition.ofValue? v
  | .error _ => .none

end Value

/-- The rows that are chosen: those that satisfy a condition, or those that hold a value. -/
inductive Choice where
  | condition (predicate : Value)
  | value (field : Text) (v : Value)

inductive Choice.Fills (s : Schema) (qualify : Bool) : Choice → Filled → Prop where
  | condition {predicate : Value} {condition : Condition Value} {f : Filled}
      (hcondition : predicate.condition? = some condition) (hf : condition.Fills s qualify f) :
      Fills s qualify (.condition predicate) f
  | value {field : Text} {v : Value} {c : Column} {f : Filled} (hc : s.resolve? field = some c)
      (hf : c.Finds v f) : Fills s qualify (.value field v) f

inductive Value.Narrows (s : Schema) (qualify : Bool) : Value → Option Filled → Prop where
  | nothing : Narrows s qualify .none .none
  | condition {predicate : Value} {f : Filled} (h : (Choice.condition predicate).Fills s qualify f) :
      Narrows s qualify predicate (.some f)

/-- The name that stands for a field in a function, or for whole rows. -/
inductive Schema.Counts (s : Schema) : Option Text → Text → Prop where
  | rows : Counts s none "*"
  | column {field : Text} {c : Column} (hc : s.resolve? field = some c) : Counts s (some field) c.name

/-- What an operation means to send. -/
inductive Intent where
  /-- Adds the row of a record, in the place of the one with its key if asked to. -/
  | insert (id : RecordId) (replace : Bool)
  | update (id : RecordId) (predicate : Value)
  | delete (typeName : Text) (rows : Choice)
  /-- Reads fields of rows, all fields if none is named. -/
  | select (typeName : Text) (rows : Choice) (fields : List Text) (options : Session.FindOptions)
  | top (typeName : Text) (count : Value)
  | aggregate (a : Aggregate) (typeName : Text) (field : Option Text) (predicate : Value)
  | join (first : Text) (joined : List (Text × Session.JoinFields)) (predicate : Value) (outer : Bool)

namespace Session
variable (catalog : Catalog) (session : Session)

/-- The salt for the next row of a table, which is drawn only if the table has encrypted columns. -/
def nextSalt (s : Schema) : Bytes :=
  if s.hasEncryptedColumns then session.salts.headD (List.replicate saltSize 0) else []

/-- Whether a row is what a session writes of a record: the encoded values of the columns that are
written, in the order of the columns, and the salt if the table has one. -/
def IsRowOf (id : RecordId) (includeCounted : Bool) (s : Schema) (row : Row) : Prop :=
  ∃ r cipher cells, session.heap[id]? = some r ∧ catalog.schemaOf r.type.name = .ok s ∧
    Row.sealing session.ring ⟨s,session.registry.tableKey s.record.name⟩ (session.nextSalt s) = .ok cipher ∧
      List.Forall₂ (Row.Holds (session.heap.value id) cipher)
        (s.columns.filter (Row.isWritten includeCounted (session.heap.value id))) cells ∧
      row = cells ++ Row.saltCell s (session.nextSalt s)

end Session

/-- The statement that an intent of a session is to become. -/
inductive Intent.Says (catalog : Catalog) (session : Session) : Intent → Filled → Prop where
  | insert {id : RecordId} {replace : Bool} {s : Schema} {row : Row}
      (hrow : session.IsRowOf catalog id replace s row) :
      Says catalog session (.insert id replace) (Filled.insert s.name row replace)
  | update {id : RecordId} {predicate : Value} {s : Schema} {row : Row} {clause : Filled}
      (hrow : session.IsRowOf catalog id false s row)
      (hclause : (Choice.condition predicate).Fills s false clause) :
      Says catalog session (.update id predicate) (Filled.update s.name row clause)
  | delete {typeName : Text} {rows : Choice} {s : Schema} {clause : Filled}
      (hs : catalog.schemaOf typeName = .ok s) (hclause : rows.Fills s false clause) :
      Says catalog session (.delete typeName rows) (Filled.delete s.name clause)
  | select {typeName : Text} {rows : Choice} {fields : List Text} {options : Session.FindOptions}
      {s : Schema} {clause : Filled} {columns : List Column} {orderBy : Option Text} {limit : Option Int}
      (hs : catalog.schemaOf typeName = .ok s) (hclause : rows.Fills s false clause)
      (hcolumns : fields.mapM s.resolve = .ok columns)
      (horder : options.orderBy.mapM s.orderColumn = .ok orderBy)
      (hlimit : options.limit.mapM checkedLimit = .ok limit) :
      Says catalog session (.select typeName rows fields options)
        (Filled.select s.name (some clause) (Session.selectedColumns columns) orderBy options.order limit)
  | top {typeName : Text} {count : Value} {s : Schema} {n : Int} (hs : catalog.schemaOf typeName = .ok s)
      (hn : checkedLimit count = .ok n) :
      Says catalog session (.top typeName count) (Filled.selectTop s.name (.int n))
  | aggregate {a : Aggregate} {typeName : Text} {field : Option Text} {predicate : Value} {s : Schema}
      {column : Text} {clause : Option Filled} (hs : catalog.schemaOf typeName = .ok s)
      (hcolumn : s.Counts field column) (hclause : predicate.Narrows s false clause) :
      Says catalog session (.aggregate a typeName field predicate)
        (narrowed (Sql.aggregate a.name s.name column (a = .countDistinct) none) clause)
  | join {first : Text} {joined : List (Text × Session.JoinFields)} {predicate : Value} {outer : Bool}
      {s : Schema} {others : List (Schema × Session.JoinFields)} {conditions : List Text}
      {statement : Text} {clause : Option Filled} (hs : catalog.schemaOf first = .ok s)
      (hothers : Session.HasSchemas catalog joined others)
      (hconditions : Session.joinClauses s others = .ok conditions)
      (hclause : predicate.Narrows s true clause)
      (hstatement : Sql.join (s :: others.map (·.1)) conditions none outer = .ok statement) :
      Says catalog session (.join first joined predicate outer) (narrowed statement clause)

/-- Whether an intent needs no statement: a record without a column to write changes no rows. -/
inductive Intent.Idle (catalog : Catalog) (session : Session) : Intent → Prop where
  | update {id : RecordId} {predicate : Value} {s : Schema} (hrow : session.IsRowOf catalog id false s []) :
      Idle catalog session (.update id predicate)

/-- An operation on the records of tables. -/
inductive Operation : Type → Type 1 where
  | call {α : Type} (c : Session.Call α) : Operation α
  | insert (id : RecordId) : Operation Unit
  | insertOrReplace (id : RecordId) : Operation Unit
  | selectTop (typeName : Text) (count : Value) : Operation (List RecordId)

namespace Operation
variable {α : Type}

def run : Operation α → Session.Action α
  | call c => c.run
  | insert id => Session.insert id
  | insertOrReplace id => Session.insertOrReplace id
  | selectTop typeName count => Session.selectTop typeName count

/-- What an operation means to send, unless the tables of a join lack a condition. -/
def intent? : Operation α → Option Intent
  | insert id => some (.insert id false)
  | insertOrReplace id => some (.insert id true)
  | selectTop typeName count => some (.top typeName count)
  | call c =>
    match c with
    | .find typeName predicate options => some (.select typeName (.condition predicate) [] options)
    | .findByValue typeName field v => some (.select typeName (.value field v) [] .plain)
    | .select typeName predicate fields => some (.select typeName (.condition predicate) fields .plain)
    | .update id predicate => some (.update id predicate)
    | .delete typeName predicate => some (.delete typeName (.condition predicate))
    | .deleteByValue typeName field v => some (.delete typeName (.value field v))
    | .join first second on predicate third onThird fourth onFourth =>
      match Session.joinedTables second on third onThird fourth onFourth with
      | .ok joined => some (.join first joined predicate false)
      | .error _ => none
    | .leftJoin left right on predicate => some (.join left [(right,on)] predicate true)
    | .count typeName predicate => some (.aggregate .count typeName none predicate)
    | .countColumn typeName field predicate => some (.aggregate .count typeName (some field) predicate)
    | .countDistinct typeName field predicate =>
      some (.aggregate .countDistinct typeName (some field) predicate)
    | .max typeName field predicate => some (.aggregate .max typeName (some field) predicate)
    | .min typeName field predicate => some (.aggregate .min typeName (some field) predicate)
    | .sum typeName field predicate => some (.aggregate .sum typeName (some field) predicate)
    | .average typeName field predicate => some (.aggregate .average typeName (some field) predicate)

end Operation
end SealedRows
