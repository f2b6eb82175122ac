import SealedRows.Condition.Parser
import SealedRows.Sql.Join
import SealedRows.Text.Capital

/-! # Failures

All that can go wrong when records are written and read, each with its cause.
-/
namespace SealedRows

inductive StorageFault where
  /-- A row has not one value for each name. -/
  | rowWidth (values names : Nat)
  /-- A row of a join has not one value for each column of its tables. -/
  | joinWidth (got expected : Nat) (tables : List Text)
  /-- A row holds encrypted values and no salt. -/
  | missingSalt (table : Text)
  /-- A record holds null for a column that may not be null. -/
  | nullColumn (column table : Text)
  /-- A record holds a value that can't be encoded for its column. -/
  | refusedValue (column table : Text) (fault : ValueFault)
  | missingTable (table : Text)
  /-- The columns of a table are not those of its records; both are given as names and types. -/
  | wrongStructure (table typeName : Text) (expected found : Value)
  /-- The database reports an error while it is opened, closed, given a statement or asked. -/
  | opening (path message : Text)
  | closing (path message : Text)
  | executing (sql message : Text)
  | querying (sql message : Text)

namespace StorageFault

def hintFor? (message : Text) : Option Text :=
  let t := message.map Text.lowerLatin
  if Text.isInside "no such table" t then
    some "Table probably does not exist in the database."
  else if Text.isInside "no such column" t || Text.isInside "has no column" t then
    some "Table structure probably doesn't match the record type."
  else if Text.isInside "constraint" t then some "A table constraint rejected the row."
  else none

def report : StorageFault → Report
  | rowWidth values names =>
    .error .storage
      ("Row has " ++ Text.ofNat values ++ " values for " ++ Text.ofNat names ++ " column names.") none
  | joinWidth got expected tables =>
    .error .storage
      ("Join row has " ++ Text.ofNat got ++ " columns, expected " ++ Text.ofNat expected ++ " for tables "
        ++ Text.joined ", " tables ++ ".") none
  | missingSalt table =>
    .error .storage
      ("Row of table " ++ table ++ " holds encrypted values but no " ++ saltColumnName ++ ".")
      (some "The table structure probably doesn't match the record type.")
  | nullColumn column table =>
    .error .storage
      ("Column '" ++ column ++ "' of table " ++ table
        ++ " is NOT NULL and has no default value, but the record holds None.") none
  | refusedValue column table fault =>
    .error .storage
      ("Invalid value for column '" ++ column ++ "' of table " ++ table ++ ": " ++ fault.report.embedded)
      none
  | missingTable table =>
    .error .storage ("Database doesn't contain table with name: " ++ table ++ ".") none
  | wrongStructure table typeName expected found =>
    .error .storage
      ("Table " ++ table ++ " in the database doesn't match the structure of " ++ typeName ++ ".")
      (some ("Expected columns " ++ expected.shown ++ ", found " ++ found.shown ++ "."))
  | opening path message =>
    .error .storage ("Can't open database " ++ path ++ ": " ++ message) none
  | closing path message =>
    .error .storage ("Can't close database " ++ path ++ ": " ++ message) none
  | executing sql message =>
    .error .storage (message ++ " while executing: " ++ sql) (hintFor? message)
  | querying sql message =>
    .error .storage (message ++ " while querying: " ++ sql) (hintFor? message)

end StorageFault

inductive Fault where
  | schema (fault : SchemaFault)
  | key (fault : KeyFault)
  | value (fault : ValueFault)
  | query (fault : QueryFault)
  | predicate (fault : PredicateFault)
  | join (fault : JoinFault)
  | storage (fault : StorageFault)
  | general (b : Breakdown)

def Fault.report : Fault → Report
  | schema fault => fault.report
  | key fault => fault.report
  | value fault => fault.report
  | query fault => fault.report
  | predicate fault => fault.report
  | join fault => fault.report
  | storage fault => fault.report
  | general b => .silent b

end SealedRows
