import SealedRows.Row

/-! # Databases

A database is seen from outside: it is sent statements and answers each of them. What it is going to
answer is a list of replies, and all that it is sent is kept in a log. A statement that writes runs in
a transaction of its own, which ends well or is taken back.
-/
namespace SealedRows

inductive Reply where
  /-- An error with its message. -/
  | failure (message : Text)
  /-- The number of changed rows, the number of the row that was added last, and the rows that were
  asked for with the names of their values. -/
  | success (rowCount : Int) (lastRow : Option Int) (names : List Text) (rows : List (List Value))

def Reply.empty : Reply := .success 0 none [] []

inductive Transaction where
  /-- The statement runs outside of any. -/
  | none
  | commit
  | rollback
  deriving DecidableEq, Repr

inductive Request where
  | opening (path : Text)
  | closing
  | statement (sql : Text) (parameters : List Value)

structure LogEntry where
  request : Request
  transaction : Transaction

structure Database where
  path : Text
  /-- What it is going to answer; when nothing is left, it has nothing to tell. -/
  replies : List Reply
  /-- All that it was sent. -/
  log : List LogEntry

namespace Database

def memory : Text := ":memory:"

abbrev Action := ExceptT StorageFault (StateM Database)

def send (request : Request) (ending : Reply → Transaction) : StateM Database Reply := fun db =>
  let reply := db.replies.headD .empty
  (reply, { db with replies := db.replies.tail, log := db.log ++ [⟨request, ending reply⟩] })

def ending : Reply → Transaction
  | .failure _ => .rollback
  | .success .. => .commit

def ask (request : Request) (fault : Text → StorageFault) :
    Action (List Text × List (List Value)) := do
  match ← send request fun _ => .none with
  | .failure message => throw (fault message)
  | .success _ _ names rows => return (names, rows)

def enforceForeignKeys : Text := "PRAGMA foreign_keys = ON"

def connect (enforce : Bool) : Action Unit := do
  let path := (← get).path
  let _ ← ask (.opening path) (.opening path)
  if enforce then
    let _ ← ask (.statement enforceForeignKeys []) (.opening path)

def close : Action Unit := do
  let _ ← ask .closing (.closing (← get).path)

/-- Runs a statement that writes, and returns the number of changed rows and the number of the row that
was added last. -/
def execute (sql : Text) (parameters : List Value) : Action (Int × Option Int) := do
  match ← send (.statement sql parameters) ending with
  | .failure message => throw (.executing sql message)
  | .success rowCount lastRow _ _ => return (rowCount, lastRow)

def query (sql : Text) (parameters : List Value) : Action (List Row) := do
  let (names, rows) ← ask (.statement sql parameters) (.querying sql)
  ofExcept (rows.mapM (Row.ofValues names))
where
  ofExcept {α : Type} : Except StorageFault α → Action α
    | .ok a => pure a
    | .error fault => throw fault

def queryValue (sql : Text) (parameters : List Value) : Action Value := do
  match ← query sql parameters with
  | (cell :: _) :: _ => return cell.value
  | _ => return .none

end Database
end SealedRows
