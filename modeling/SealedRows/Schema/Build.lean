import SealedRows.Schema

/-! # From record types to schemas

A record type is scanned field by field. Fields that are ignored and fields of types that can't be
stored make no columns and don't count; every rule is checked for a column before the next field is
looked at, and the rules on all columns come last.
-/
namespace SealedRows

namespace RecordType

def isMapped (r : RecordType) : Bool := r.isRecord && r.table.isSome

def tableName (r : RecordType) : Text := r.table.getD []

end RecordType

namespace Schema

def hintsOf (catalog : Catalog) (r : RecordType) : Except SchemaFault (List (Text × Hint)) :=
  match catalog.hints r with
  | .ok hints => .ok hints
  | .error (.unknownName _) => .error (.unresolvedHints r.tableName)
  | .error .noType => .error (.general .wrongType)

def kindOf? (hints : List (Text × Hint)) (f : Field) : Option ValueKind :=
  f.options.kind <|> (Catalog.hintOf? hints f.name).bind (·.unwrapped.1.kind?)

def storageName (f : Field) : Text := f.options.name.getD f.name

/-- The storage name and the kind of the primary key of a type, without the rest of its schema. -/
def primaryKeyOf (catalog : Catalog) (r : RecordType) :
    Except SchemaFault (Option (Text × Option ValueKind)) :=
  match r.fields.find? fun f => f.options.primaryKey && !f.options.ignored with
  | none => .ok none
  | some f =>
    match f.options.kind with
    | some kind => .ok (some (storageName f, some kind))
    | none => do
      let hints ← hintsOf catalog r
      return some (storageName f, kindOf? hints f)

def foreignKeyOf (catalog : Catalog) (r : RecordType) (hints : List (Text × Hint)) (f : Field)
    (kind : ValueKind) (option : ForeignKeyOption) : Except SchemaFault ForeignKey := do
  let table := r.tableName
  if !kind.canRefer then .error (.foreignKind (storageName f) table kind)
  else if option.navigation.isEmpty then .error (.emptyNavigation f.name table)
  else
    match Catalog.hintOf? hints option.navigation with
    | none => .error (.missingNavigation option.navigation f.name table)
    | some hint =>
      match hint.unwrapped.1 with
      | .one (.record name) =>
        match catalog.find? name with
        | none => .error (.navigationNotRecord option.navigation table)
        | some referenced =>
          if !referenced.isMapped then .error (.navigationNotRecord option.navigation table)
          else
            match ← primaryKeyOf catalog referenced with
            | none => .error (.referencedWithoutKey referenced.tableName)
            | some (column, keyKind) =>
              if !keyKind.any (·.canBeReferred) then
                .error (.referencedKeyKind f.name table column referenced.tableName)
              else
                return { referencedTable := referenced.tableName
                         referencedType := referenced.name
                         referencedColumn := column
                         fieldName := f.name
                         columnName := storageName f
                         navigationField := option.navigation
                         autoResolve := option.autoResolve }
      | _ => .error (.navigationNotRecord option.navigation table)

def checkOptions (table : Text) (f : Field) (kind : ValueKind) : Except SchemaFault Unit :=
  let o := f.options
  let column := storageName f
  if column = saltColumnName then .error (.reservedColumn table)
  else if o.encrypted && o.primaryKey then .error (.encryptedPrimaryKey column table)
  else if o.encrypted && o.autoIncrement then .error (.encryptedAutoIncrement column table)
  else if o.encrypted && !o.defaultValue.isNone then .error (.encryptedDefault column table)
  else if o.autoIncrement && !(o.primaryKey && kind.canBeReferred) then
    .error (.autoIncrementNotKey column table)
  else .ok ()

def checkForeign (table : Text) (f : Field) : Except SchemaFault Unit :=
  let o := f.options
  let column := storageName f
  if o.primaryKey then .error (.foreignPrimaryKey column table)
  else if o.encrypted then .error (.foreignEncrypted column table)
  else if o.autoIncrement then .error (.foreignAutoIncrement column table)
  else if !o.defaultValue.isNone then .error (.foreignDefault column table)
  else .ok ()

def columnOf (catalog : Catalog) (r : RecordType) (hints : List (Text × Hint)) (ordinal : Nat)
    (f : Field) : Except SchemaFault (Option Column) := do
  let o := f.options
  if o.ignored then return none
  else
    let hint := (Catalog.hintOf? hints f.name).map (·.unwrapped)
    match kindOf? hints f with
    | none =>
      if o.foreignKey.isSome || o.primaryKey || o.encrypted then
        .error (.unsupportedType f.name r.tableName ((hint.map (·.1.shown)).getD (Value.shown .none)))
      else return none
    | some kind =>
      checkOptions r.tableName f kind
      let foreignKey ←
        match o.foreignKey with
        | none => pure none
        | some option => do
          checkForeign r.tableName f
          some <$> foreignKeyOf catalog r hints f kind option
      return some
        { name := storageName f
          fieldName := f.name
          kind := kind
          ordinal := ordinal
          nullable := (hint.map (·.2)).getD false
          isPrimaryKey := o.primaryKey
          isAutoIncrement := o.autoIncrement
          isEncrypted := o.encrypted
          isNotNull := o.isNotNull
          defaultValue := o.defaultValue
          foreignKey := foreignKey }

def columnsFrom (catalog : Catalog) (r : RecordType) (hints : List (Text × Hint)) :
    Nat → List Field → Except SchemaFault (List Column)
  | _, [] => .ok []
  | ordinal, f :: rest => do
    match ← columnOf catalog r hints ordinal f with
    | none => columnsFrom catalog r hints ordinal rest
    | some c => return c :: (← columnsFrom catalog r hints (ordinal + 1) rest)

def firstRepeated? : List Text → List Text → Option Text
  | _, [] => none
  | seen, name :: rest => if seen.contains name then some name else firstRepeated? (name :: seen) rest

def checkColumns (table : Text) (columns : List Column) : Except SchemaFault Unit :=
  match columns.filter (·.isPrimaryKey) with
  | [] => .error (.noPrimaryKey table)
  | [_] =>
    match firstRepeated? [] (columns.map (·.name)) with
    | some name => .error (.duplicateColumn name table)
    | none => .ok ()
  | _ => .error (.severalPrimaryKeys table)

def ofRecordType (catalog : Catalog) (r : RecordType) : Except SchemaFault Schema := do
  match r.table with
  | none => .error (.missingDeclaration r.name)
  | some table =>
    if table.isEmpty then .error (.emptyTableName r.name)
    else if !r.isRecord then .error (.notRecord r.name table)
    else
      let hints ← hintsOf catalog r
      let columns ← columnsFrom catalog r hints 0 r.fields
      checkColumns table columns
      return ⟨table, r, columns, columns.any (·.isEncrypted)⟩

end Schema
end SealedRows
