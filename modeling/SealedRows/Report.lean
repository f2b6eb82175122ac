import SealedRows.Text

/-! # Reports

What a caller is told about a failure: what kind of failure it is, a message and at times a hint at
the reason. The errors of this library form a tree of classes, so that a caller may ask for a whole
branch; the general kinds of failure stand outside of it.
-/
namespace SealedRows

inductive ErrorClass where
  /-- Any error of this library. -/
  | any
  /-- A record type is badly declared. -/
  | schema
  | missingDeclaration | reservedColumn | primaryKey | duplicateColumn | encryptedColumn | foreignKey
  /-- A key is missing or does not fit. -/
  | crypto
  | noKey | invalidKey
  /-- A condition, an order or a limit is misused. -/
  | translate
  | nullPredicate | encryptedColumnInPredicate | blobTypeInComparison | encryptedOrderBy
  | invalidLimit | unknownField | predicateSyntax
  /-- A join is badly formed. -/
  | join
  | selfJoin | unmappedField
  /-- The database reported an error, or a row was refused. -/
  | storage
  deriving DecidableEq, Repr

namespace ErrorClass

def name : ErrorClass → Text
  | any => "Error"
  | schema => "SchemaError"
  | missingDeclaration => "MissingDeclarationError"
  | reservedColumn => "ReservedColumnError"
  | primaryKey => "PrimaryKeyError"
  | duplicateColumn => "DuplicateColumnError"
  | encryptedColumn => "EncryptedColumnError"
  | foreignKey => "ForeignKeyError"
  | crypto => "CryptoError"
  | noKey => "NoKeyError"
  | invalidKey => "InvalidKeyError"
  | translate => "TranslateError"
  | nullPredicate => "NullPredicateError"
  | encryptedColumnInPredicate => "EncryptedColumnInPredicateError"
  | blobTypeInComparison => "BlobTypeInComparisonError"
  | encryptedOrderBy => "EncryptedOrderByError"
  | invalidLimit => "InvalidLimitError"
  | unknownField => "UnknownFieldError"
  | predicateSyntax => "PredicateSyntaxError"
  | join => "JoinError"
  | selfJoin => "SelfJoinError"
  | unmappedField => "UnmappedFieldError"
  | storage => "StorageError"

def parent? : ErrorClass → Option ErrorClass
  | any => none
  | schema | crypto | translate | join | storage => some any
  | missingDeclaration | reservedColumn | primaryKey | duplicateColumn | encryptedColumn
  | foreignKey => some schema
  | noKey | invalidKey => some crypto
  | nullPredicate | encryptedColumnInPredicate | blobTypeInComparison | encryptedOrderBy
  | invalidLimit | unknownField | predicateSyntax => some translate
  | selfJoin | unmappedField => some join

def lineage (c : ErrorClass) : List ErrorClass :=
  match c.parent? with
  | none => [c]
  | some .any => [c, .any]
  | some p => [c, p, .any]

def isBelow (c above : ErrorClass) : Bool := c.lineage.contains above

def all : List ErrorClass :=
  [any, schema, missingDeclaration, reservedColumn, primaryKey, duplicateColumn, encryptedColumn,
    foreignKey, crypto, noKey, invalidKey, translate, nullPredicate, encryptedColumnInPredicate,
    blobTypeInComparison, encryptedOrderBy, invalidLimit, unknownField, predicateSyntax, join,
    selfJoin, unmappedField, storage]

end ErrorClass

inductive Breakdown where
  /-- A value of a type that an operation does not take. -/
  | wrongType
  /-- A value that an operation refuses although its type is right. -/
  | wrongValue
  /-- A number out of the range of an operation. -/
  | overflow
  /-- Bytes or escapes that stand for no text. -/
  | undecodable
  /-- A decimal that can't be formed or compared. -/
  | invalidDecimal
  /-- A byte string of the wrong length for a layout. -/
  | wrongSize
  /-- A key that a table does not hold. -/
  | absentKey
  /-- A member that an object does not have. -/
  | absentMember
  /-- A text that does not follow a grammar. -/
  | malformedText
  deriving DecidableEq, Repr

/-- Whether a failure comes from the value that was given, and not from an operation on it. -/
def Breakdown.isRefusal : Breakdown → Bool
  | wrongType | wrongValue | undecodable => true
  | _ => false

inductive Category where
  | library (c : ErrorClass)
  | general (b : Breakdown)
  deriving DecidableEq, Repr

structure Report where
  category : Category
  message : Option Text
  hint : Option Text
  deriving DecidableEq, Repr

namespace Report

def error (c : ErrorClass) (message : Text) (hint : Option Text) : Report :=
  ⟨.library c, some message, hint⟩

def failure (b : Breakdown) (message : Text) : Report := ⟨.general b, some message, none⟩

def silent (b : Breakdown) : Report := ⟨.general b, none, none⟩

def text? (r : Report) : Option Text :=
  r.message.map fun message =>
    match r.hint with
    | none => message
    | some [] => message
    | some hint => message ++ " " ++ hint

def embedded (r : Report) : Text := r.text?.getD "<runtime>"

end Report
end SealedRows
