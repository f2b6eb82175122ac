import SealedRows.RecordType

/-! # Schemas

How the records of a type are stored: one column for each field that can be stored, in the order of
declaration, and behind them the salt of the row if any column is encrypted. The number of a column
goes into its keystream, and the order of the columns divides the rows of joins.
-/
namespace SealedRows

def saltColumnName : Text := "SaltColumn"

/-- A reference from an integer column to the primary key of another table. -/
structure ForeignKey where
  referencedTable : Text
  referencedType : Text
  referencedColumn : Text
  fieldName : Text
  columnName : Text
  /-- The field that receives the record. -/
  navigationField : Text
  autoResolve : Bool

structure Column where
  name : Text
  fieldName : Text
  kind : ValueKind
  ordinal : Int
  nullable : Bool := false
  isPrimaryKey : Bool := false
  isAutoIncrement : Bool := false
  isEncrypted : Bool := false
  isNotNull : Bool := false
  defaultValue : Value := .none
  foreignKey : Option ForeignKey := none

namespace Column

def storageClass (c : Column) : StorageClass := if c.isEncrypted then .blob else c.kind.storageClass

/-- Whether the kind of a column is always stored in its binary layout. -/
def isBlobStored (c : Column) : Bool := c.kind.isBlobStored

end Column

structure Schema where
  name : Text
  record : RecordType
  columns : List Column
  hasEncryptedColumns : Bool

namespace Schema

/-- Puts a column in the place of the one of its name, or behind all others. -/
def withColumn (columns : List Column) (c : Column) : List Column :=
  if columns.any (·.name = c.name) then columns.map fun d => if d.name = c.name then c else d
  else columns ++ [c]

/-- A schema that is put together by hand, for a table of records without fields. Of two columns of one
name the later counts. -/
def ofColumns (name : Text) (columns : List Column) : Schema :=
  let columns := columns.foldl withColumn []
  ⟨name, ⟨name, some name, true, [], [], []⟩, columns, columns.any (·.isEncrypted)⟩

end Schema

/-- What is wrong with a record type. The table is the one of the type. -/
inductive SchemaFault where
  | missingDeclaration (typeName : Text)
  | emptyTableName (typeName : Text)
  | notRecord (typeName table : Text)
  | unresolvedHints (table : Text)
  | unsupportedType (field table : Text) (hint : Text)
  | reservedColumn (table : Text)
  | encryptedPrimaryKey (column table : Text)
  | encryptedAutoIncrement (column table : Text)
  | encryptedDefault (column table : Text)
  | autoIncrementNotKey (column table : Text)
  | foreignPrimaryKey (column table : Text)
  | foreignEncrypted (column table : Text)
  | foreignAutoIncrement (column table : Text)
  | foreignDefault (column table : Text)
  | foreignKind (column table : Text) (kind : ValueKind)
  | emptyNavigation (field table : Text)
  | missingNavigation (navigation field table : Text)
  | navigationNotRecord (navigation table : Text)
  | referencedWithoutKey (table : Text)
  | referencedKeyKind (field table column referenced : Text)
  | noPrimaryKey (table : Text)
  | severalPrimaryKeys (table : Text)
  | duplicateColumn (column table : Text)
  /-- A schema that was put together by hand has no primary key. -/
  | withoutPrimaryKey (table : Text)
  | general (b : Breakdown)
  deriving DecidableEq, Repr

namespace SchemaFault

def isSchemaError : SchemaFault → Bool
  | general _ => false
  | _ => true

def report : SchemaFault → Report
  | missingDeclaration typeName =>
    .error .missingDeclaration ("Type " ++ typeName ++ " doesn't have a @table declaration.") none
  | emptyTableName typeName => .error .schema ("Table name of " ++ typeName ++ " can't be empty.") none
  | notRecord typeName table =>
    .error .schema ("Record type " ++ typeName ++ " for table " ++ table ++ " must be a dataclass.") none
  | unresolvedHints table =>
    .error .schema
      ("Can't resolve field annotations of table " ++ table ++ ": " ++ (Report.silent .absentKey).embedded)
      none
  | unsupportedType field table hint =>
    .error .schema
      ("Field '" ++ field ++ "' in table " ++ table ++ " has unsupported type " ++ hint
        ++ "; pass an explicit kind.") none
  | reservedColumn table =>
    .error .reservedColumn
      ("Table " ++ table ++ " can't contain column with name: " ++ saltColumnName ++ ".")
      (some "This name is reserved for the per-row salt.")
  | encryptedPrimaryKey column table =>
    .error .encryptedColumn
      ("Primary key column '" ++ column ++ "' in table " ++ table ++ " can't be encrypted.") none
  | encryptedAutoIncrement column table =>
    .error .encryptedColumn
      ("Auto-increment column '" ++ column ++ "' in table " ++ table ++ " can't be encrypted.") none
  | encryptedDefault column table =>
    .error .encryptedColumn
      ("Encrypted column '" ++ column ++ "' in table " ++ table ++ " can't have a default value.")
      (some "Encrypted columns can be not null, but without default.")
  | autoIncrementNotKey column table =>
    .error .schema
      ("Auto-increment column '" ++ column ++ "' in table " ++ table ++ " must be an integer primary key.")
      none
  | foreignPrimaryKey column table =>
    .error .foreignKey
      ("Column '" ++ column ++ "' in table " ++ table ++ " can't be primary and foreign key.") none
  | foreignEncrypted column table =>
    .error .foreignKey
      ("Foreign key column '" ++ column ++ "' in table " ++ table ++ " can't be encrypted.") none
  | foreignAutoIncrement column table =>
    .error .foreignKey
      ("Foreign key column '" ++ column ++ "' in table " ++ table ++ " can't be auto-increment.") none
  | foreignDefault column table =>
    .error .foreignKey
      ("Foreign key column '" ++ column ++ "' in table " ++ table ++ " can't have a default value.") none
  | foreignKind column table kind =>
    .error .foreignKey
      ("Foreign key column '" ++ column ++ "' in table " ++ table
        ++ " must be a 16 or 32 bit integer, not " ++ kind.name ++ ".") none
  | emptyNavigation field table =>
    .error .foreignKey
      ("Foreign key on '" ++ field ++ "' in table " ++ table ++ " has an empty navigation field name.") none
  | missingNavigation navigation field table =>
    .error .foreignKey
      ("Can't find navigation field '" ++ navigation ++ "' for foreign key '" ++ field ++ "' in table "
        ++ table ++ ".") none
  | navigationNotRecord navigation table =>
    .error .foreignKey
      ("Navigation field '" ++ navigation ++ "' in table " ++ table ++ " must be typed as a mapped record.")
      none
  | referencedWithoutKey table =>
    .error .foreignKey ("Table " ++ table ++ " doesn't contain a primary key column.") none
  | referencedKeyKind field table column referenced =>
    .error .foreignKey
      ("Foreign key '" ++ field ++ "' in table " ++ table ++ " references primary key '" ++ column
        ++ "' of table " ++ referenced ++ ", which is not an integer column.") none
  | noPrimaryKey table =>
    .error .primaryKey ("Table " ++ table ++ " must contain a primary key column.") none
  | severalPrimaryKeys table =>
    .error .primaryKey ("Table " ++ table ++ " can't contain more than one primary key column.") none
  | duplicateColumn column table =>
    .error .duplicateColumn ("Table " ++ table ++ " contains columns with same names " ++ column ++ ".")
      (some "Table can't contain two columns with same names.")
  | withoutPrimaryKey table => .error .primaryKey ("Table " ++ table ++ " has no primary key.") none
  | general b => .silent b

end SchemaFault

namespace Schema

variable (s : Schema)

def primaryKey : Except SchemaFault Column :=
  match s.columns.find? (·.isPrimaryKey) with
  | some c => .ok c
  | none => .error (.withoutPrimaryKey s.name)

def foreignKeys : List ForeignKey := s.columns.filterMap (·.foreignKey)

/-- The names of what is stored, in the order of the table; the salt comes last. -/
def storageColumnNames : List Text :=
  s.columns.map (·.name) ++ if s.hasEncryptedColumns then [saltColumnName] else []

def columnCount : Nat := s.columns.length + if s.hasEncryptedColumns then 1 else 0

theorem length_storageColumnNames : s.storageColumnNames.length = s.columnCount := by
  unfold storageColumnNames columnCount
  split <;> simp

def column? (name : Text) : Option Column := s.columns.find? (·.name = name)

def columnForField? (field : Text) : Option Column := s.columns.find? (·.fieldName = field)

/-- The column of a field, or else of a storage name. -/
def resolve? (name : Text) : Option Column := s.columnForField? name <|> s.column? name

def shown : Text :=
  "TableSchema(" ++ Text.quoted s.name ++ ", columns="
    ++ Value.shown (.list (s.columns.map fun c => .text c.name)) ++ ")"

end Schema
end SealedRows
