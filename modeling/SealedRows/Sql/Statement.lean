import SealedRows.Sql.Clause

/-! # Statements

The statements that are sent to the database. Values are never part of a statement, but for limits
and for the defaults of columns, which are written as literals.
-/
namespace SealedRows

inductive SortOrder where
  | ascending | descending
  deriving DecidableEq, Repr

def SortOrder.name : SortOrder → Text
  | ascending => "ASC"
  | descending => "DESC"

namespace Sql

/-- A stored value as a literal: a quote inside a text is written twice. Integers have at most 64 bits. -/
def literal : Value → Text
  | .none => "NULL"
  | .bytes bs | .buffer bs => "X'" ++ bs.upperHex ++ "'"
  | .text t => "'" ++ Text.replaced 0x27 "''" t ++ "'"
  | v => v.written

def listed (names : List Text) : Text := Text.joined ", " names

def optional (word : Text) (clause : Option Text) : Text :=
  match clause with
  | none | some [] => []
  | some clause => " " ++ word ++ " " ++ clause

def columnDefinition (c : Column) : Except ValueFault Text := do
  let definition := c.name ++ " " ++ c.storageClass.name
  if c.isPrimaryKey && c.isAutoIncrement then return definition ++ " PRIMARY KEY AUTOINCREMENT"
  else if c.isPrimaryKey then return definition ++ " PRIMARY KEY NOT NULL"
  else if c.isNotNull then
    if c.defaultValue.isNone then return definition ++ " NOT NULL"
    else
      let default ← c.kind.encode c.defaultValue c.ordinal none
      return definition ++ " NOT NULL DEFAULT " ++ literal default
  else return definition

def foreignKeyDefinition (k : ForeignKey) : Text :=
  "FOREIGN KEY(" ++ k.columnName ++ ") REFERENCES " ++ k.referencedTable ++ "(" ++ k.referencedColumn
    ++ ")"

def createTable (s : Schema) : Except ValueFault Text := do
  let columns ← s.columns.mapM columnDefinition
  let salt : List Text :=
    if s.hasEncryptedColumns then [saltColumnName ++ " " ++ StorageClass.blob.name] else []
  let body := Text.joined ",\n" (columns ++ salt ++ s.foreignKeys.map foreignKeyDefinition)
  return "CREATE TABLE IF NOT EXISTS " ++ s.name ++ "\n(\n" ++ body ++ "\n)"

def dropTable (table : Text) : Text := "DROP TABLE IF EXISTS \"" ++ table ++ "\""

def clearTable (table : Text) : Text := "DELETE FROM " ++ table

def tableInfo (table : Text) : Text := "PRAGMA TABLE_INFO(\"" ++ table ++ "\")"

def insert (table : Text) (columns : List Text) (replace : Bool) : Text :=
  let verb : Text := if replace then "INSERT OR REPLACE" else "INSERT"
  if columns.isEmpty then verb ++ " INTO " ++ table ++ " DEFAULT VALUES"
  else
    verb ++ " INTO " ++ table ++ " (" ++ listed columns ++ ") VALUES ("
      ++ listed (columns.map fun _ => "?") ++ ")"

def update (table : Text) (columns : List Text) (clause : Text) : Text :=
  "UPDATE " ++ table ++ " SET " ++ listed (columns.map fun c => c ++ " = ?") ++ " WHERE " ++ clause

/-- Reads the rows that satisfy a clause. The limit is one that can be written out. -/
def select (table : Text) (clause : Option Text) (columns : List Text) (orderBy : Option Text)
    (sortOrder : SortOrder) (limit : Option Int) : Text :=
  let selected : Text := if columns.isEmpty then "*" else listed columns
  "SELECT " ++ selected ++ " FROM " ++ table ++ optional "WHERE" clause
    ++ optional "ORDER BY" (orderBy.map fun c => if c.isEmpty then c else c ++ " " ++ sortOrder.name)
    ++ optional "LIMIT" (limit.map Text.ofInt)

def selectRows (table : Text) (clause : Option Text) : Text :=
  select table clause [] none .ascending none

def selectTop (table : Text) : Text := "SELECT * FROM " ++ table ++ " LIMIT ?"

/-- The clause that a column holds a value; null is not equal to itself. -/
def valueCondition (column : Text) (value : Value) : Text :=
  if value.isNone then column ++ " IS NULL" else column ++ " = ?"

def delete (table clause : Text) : Text := "DELETE FROM " ++ table ++ " WHERE " ++ clause

def aggregate (function table column : Text) (distinct : Bool) (clause : Option Text) : Text :=
  "SELECT " ++ function ++ "(" ++ (if distinct then "DISTINCT " else [] : Text) ++ column ++ ") FROM "
    ++ table ++ optional "WHERE" clause

def qualifiedColumns (s : Schema) : List Text :=
  s.storageColumnNames.map fun name => s.name ++ "." ++ name

end Sql
end SealedRows
