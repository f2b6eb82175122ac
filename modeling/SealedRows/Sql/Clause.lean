import SealedRows.Codec
import SealedRows.Schema

/-! # Where clauses

A condition on records becomes a clause on the stored columns of a table. Literals don't appear in the
clause: each becomes a parameter, the encoded form in which its column is stored. What can't be
compared in the database is refused: encrypted columns altogether, and columns stored in their binary
layout except for checks for null.
-/
namespace SealedRows

/-- Why a condition, an order or a limit is refused. The table is the one it is meant for. -/
inductive QueryFault where
  /-- There is no condition. -/
  | nullPredicate (table : Text)
  | unknownField (name table : Text)
  | encryptedInPredicate (column table : Text)
  | blobComparison (column table : Text) (kind : ValueKind)
  | notBoolean (column table : Text)
  /-- A column is ordered against null. -/
  | nullOrdering (column : Text) (op : Operator)
  /-- A literal can't be encoded for its column. -/
  | invalidValue (value : Value) (column : Text) (fault : ValueFault)
  | unsupportedNode (typeName : Text)
  | encryptedOrder (column table : Text)
  | invalidLimit (limit : Value)
  /-- A lookup names an encrypted column. -/
  | encryptedSearch (column table : Text)
  | encryptedAggregate (function column table : Text)
  | blobAggregate (function : Text) (kind : ValueKind) (column table : Text)
  | noFields (table : Text)
  | thirdWithoutCondition
  | fourthWithoutCondition
  /-- A literal failed in a way that is not told as its fault. -/
  | value (fault : ValueFault)

def QueryFault.report : QueryFault → Report
  | nullPredicate table =>
    .error .nullPredicate ("Predicate for table " ++ table ++ " can't be None.")
      (some "Use table() to read every row.")
  | unknownField name table =>
    .error .unknownField ("Table " ++ table ++ " has no column mapped to '" ++ name ++ "'.") none
  | encryptedInPredicate column table =>
    .error .encryptedColumnInPredicate
      ("Encrypted column '" ++ column ++ "' of table " ++ table ++ " can't be used in a predicate.")
      (some "Encrypted values can't be compared by the database.")
  | blobComparison column table kind =>
    .error .blobTypeInComparison
      ("Column '" ++ column ++ "' of table " ++ table ++ " is stored as " ++ kind.name
        ++ " blob and can only be checked for null.") none
  | notBoolean column table =>
    .error .translate
      ("Column '" ++ column ++ "' in table " ++ table
        ++ " is not boolean and can't be used as a condition.") none
  | nullOrdering column op =>
    .error .translate
      ("Column '" ++ column ++ "' can't be compared with None using " ++ op.symbol ++ ".") none
  | invalidValue v column fault =>
    v.told (.error .translate
      ("Invalid value " ++ v.shown ++ " for column '" ++ column ++ "': " ++ fault.report.embedded)
      none)
  | unsupportedNode typeName =>
    .error .translate ("Unsupported condition node: " ++ typeName) none
  | encryptedOrder column table =>
    .error .encryptedOrderBy
      ("Can't order by encrypted column '" ++ column ++ "' of table " ++ table ++ ".") none
  | invalidLimit limit =>
    limit.told (.error .invalidLimit ("Limit number can't be less or equal to 0: " ++ limit.shown) none)
  | encryptedSearch column table =>
    .error .encryptedColumnInPredicate
      ("Can't search by encrypted column '" ++ column ++ "' of table " ++ table ++ ".") none
  | encryptedAggregate function column table =>
    .error .encryptedColumnInPredicate
      ("Can't compute " ++ function ++ " of encrypted column '" ++ column ++ "' of table " ++ table ++ ".")
      none
  | blobAggregate function kind column table =>
    .error .blobTypeInComparison
      ("Can't compute " ++ function ++ " of " ++ kind.name ++ " column '" ++ column ++ "' of table "
        ++ table ++ ".") none
  | noFields table => .error .translate ("No fields selected from table " ++ table ++ ".") none
  | thirdWithoutCondition => .error .translate "Joining a third table requires on_third." none
  | fourthWithoutCondition =>
    .error .translate "Joining a fourth table requires third and on_fourth." none
  | value fault => fault.report

namespace Schema

def resolve (s : Schema) (name : Text) : Except QueryFault Column :=
  match s.resolve? name with
  | some c => .ok c
  | none => .error (.unknownField name s.name)

end Schema

inductive Clause where
  | isNull (column : Text)
  | isNotNull (column : Text)
  /-- A column compares to a parameter. -/
  | compare (column : Text) (op : Operator) (parameter : Value)
  | isTrue (column : Text)
  | and (left right : Clause)
  | or (left right : Clause)
  | not (operand : Clause)

namespace Clause

/-- A clause as SQL, with a question mark for each parameter. All but boolean columns stand in
parentheses. -/
def toSql : Clause → Text
  | isNull column => "(" ++ column ++ " IS NULL)"
  | isNotNull column => "(" ++ column ++ " IS NOT NULL)"
  | compare column op _ => "(" ++ column ++ " " ++ op.symbol ++ " ?)"
  | isTrue column => column
  | and left right => "(" ++ left.toSql ++ " AND " ++ right.toSql ++ ")"
  | or left right => "(" ++ left.toSql ++ " OR " ++ right.toSql ++ ")"
  | not operand => "(NOT " ++ operand.toSql ++ ")"

def parameters : Clause → List Value
  | isNull _ | isNotNull _ | isTrue _ => []
  | compare _ _ parameter => [parameter]
  | and left right | or left right => left.parameters ++ right.parameters
  | not operand => operand.parameters

def columns : Clause → List Text
  | isNull column | isNotNull column | compare column _ _ | isTrue column => [column]
  | and left right | or left right => left.columns ++ right.columns
  | not operand => operand.columns

def leafColumn (s : Schema) (field : Text) : Except QueryFault Column := do
  let c ← s.resolve field
  if c.isEncrypted then .error (.encryptedInPredicate c.name s.name) else return c

def checkComparable (s : Schema) (c : Column) : Except QueryFault Unit :=
  if c.isBlobStored then .error (.blobComparison c.name s.name c.kind) else .ok ()

def nameOf (s : Schema) (qualify : Bool) (c : Column) : Text :=
  if qualify then s.name ++ "." ++ c.name else c.name

def ofComparison (s : Schema) (qualify : Bool) (field : Text) (op : Operator) (value : Value) :
    Except QueryFault Clause := do
  let c ← leafColumn s field
  match value with
  | .none =>
    match op with
    | .eq => return isNull (nameOf s qualify c)
    | .ne => return isNotNull (nameOf s qualify c)
    | _ => .error (.nullOrdering c.name op)
  | value =>
    checkComparable s c
    match c.kind.encode value c.ordinal none with
    | .ok parameter => return compare (nameOf s qualify c) op parameter
    | .error fault =>
      if fault.isRefusal then .error (.invalidValue value c.name fault) else .error (.value fault)

def ofCondition (s : Schema) (qualify : Bool) : Condition Value → Except QueryFault Clause
  | .and left right => do return and (← ofCondition s qualify left) (← ofCondition s qualify right)
  | .or left right => do return or (← ofCondition s qualify left) (← ofCondition s qualify right)
  | .not operand => do return not (← ofCondition s qualify operand)
  | .nullCheck field null => do
    let c ← leafColumn s field
    return if null then isNull (nameOf s qualify c) else isNotNull (nameOf s qualify c)
  | .comparison field op value => ofComparison s qualify field op value
  | .isTrue field => do
    let c ← leafColumn s field
    checkComparable s c
    if c.kind = .bool then return isTrue (nameOf s qualify c)
    else .error (.notBoolean c.name s.name)
  | .bare => .error (.unsupportedNode (Value.conditionTypeName .bare))
  | .misfit value => .error (.unsupportedNode value.typeName)

/-- The clause of what was given as a condition: a bare column is meant to be true. -/
def ofValue (s : Schema) (qualify : Bool) : Value → Except QueryFault Clause
  | .none => .error (.nullPredicate s.name)
  | .column name => ofCondition s qualify (.isTrue name)
  | .condition c => ofCondition s qualify c
  | v => .error (.unsupportedNode v.typeName)

end Clause

def Schema.orderColumn (s : Schema) (field : Text) : Except QueryFault Text := do
  let c ← s.resolve field
  if c.isEncrypted then .error (.encryptedOrder c.name s.name) else return c.name

def checkedLimit : Value → Except QueryFault Int
  | .int n => if 0 < n then .ok n else .error (.invalidLimit (.int n))
  | v => .error (.invalidLimit v)

end SealedRows
