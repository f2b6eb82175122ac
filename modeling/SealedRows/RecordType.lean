import SealedRows.RecordType.WrittenType
import SealedRows.Value.Fault
import SealedRows.Value.Equality

/-! # Record types

A type of records has fields in the order of their declaration; those of the type that it extends
come first, and a field that is declared again keeps its place. A field may carry options for its
column. What a type gives as the value of a field is seen through every record that does not hold a
value of its own.
-/
namespace SealedRows

/-- The declaration that an integer column refers to a record of another table. -/
structure ForeignKeyOption where
  navigation : Text
  autoResolve : Bool

structure ColumnOptions where
  kind : Option ValueKind
  name : Option Text
  primaryKey : Bool
  autoIncrement : Bool
  encrypted : Bool
  notNull : Bool
  /-- The value that the database gives to a column that is left out, null if there is none. -/
  defaultValue : Value
  foreignKey : Option ForeignKeyOption
  /-- The field is not stored. -/
  ignored : Bool

/-- Whether a column may not hold null. A column with a default never does. -/
def ColumnOptions.isNotNull (o : ColumnOptions) : Bool := o.notNull || !o.defaultValue.isNone

def ColumnOptions.plain : ColumnOptions :=
  ⟨none, none, false, false, false, false, .none, none, false⟩

/-- What a field holds when a record is made without a value for it. -/
inductive FieldDefault where
  /-- Nothing: a value must be given. -/
  | required
  | value (v : Value)
  /-- A value that is made anew for each record. -/
  | made (v : Value)

abbrev FieldDefault.emptyList : FieldDefault := .made (.list [])

structure Field where
  name : Text
  options : ColumnOptions
  default : FieldDefault
  /-- Whether a value may be given when a record is made. -/
  init : Bool

structure FieldDeclaration where
  name : Text
  writtenType : WrittenType
  /-- The options, if it is declared as a column. -/
  column : Option ColumnOptions
  default : FieldDefault
  init : Bool

structure TypeDeclaration where
  name : Text
  table : Option Text
  /-- The type that it extends. -/
  base : Option Text
  /-- Whether the fields are those of a record; otherwise they are types alone. -/
  isRecord : Bool
  fields : List FieldDeclaration

structure RecordType where
  name : Text
  /-- The name of its table, its own or that of the type it extends. -/
  table : Option Text
  isRecord : Bool
  fields : List Field
  /-- The types of all fields as they are written; of two for one name the later counts. -/
  writtenTypes : List (Text × WrittenType)
  /-- The values seen through records that hold none; of two for one name the earlier counts. -/
  shared : List (Text × Value)

namespace RecordType

def shared? (r : RecordType) (field : Text) : Option Value := r.shared.lookup field

def field? (r : RecordType) (name : Text) : Option Field := r.fields.find? (·.name = name)

/-- Puts a field in the place of the one of its name, or behind all others. -/
def withField (fields : List Field) (f : Field) : List Field :=
  if fields.any (·.name = f.name) then fields.map fun g => if g.name = f.name then f else g
  else fields ++ [f]

end RecordType

inductive DeclarationFault where
  /-- A column has an empty name. -/
  | emptyColumnName
  /-- The default of a field may change. -/
  | changeableDefault (field : Text)
  /-- The type to extend is not declared. -/
  | unknownBase (name : Text)
  deriving DecidableEq, Repr

def DeclarationFault.report : DeclarationFault → Report
  | emptyColumnName => .failure .wrongValue "Column name can't be empty"
  | changeableDefault _ => .silent .wrongValue
  | unknownBase _ => .silent .absentKey

abbrev Catalog := List RecordType

namespace Catalog

def find? (catalog : Catalog) (name : Text) : Option RecordType :=
  List.find? (fun r => r.name = name) catalog

/-- The field of a declaration. One without a default takes over the value that the type it extends
gives to its name. -/
def fieldOf (base : Option RecordType) (d : FieldDeclaration) : Field :=
  let inherited := base.bind (·.shared? d.name)
  let default :=
    match d.default, inherited with
    | .required, some v => .value v
    | default, _ => default
  ⟨d.name, d.column.getD .plain, default, d.init⟩

def sharedBy (d : FieldDeclaration) : Option (Text × Value) :=
  match d.default with
  | .value v => some (d.name, v)
  | _ => none

def hasChangeableDefault (d : FieldDeclaration) : Bool :=
  match d.default with
  | .value (.list _) | .value (.buffer _) | .value (.column _) | .value (.object ..) => true
  | _ => false

def typeOf (base : Option RecordType) (d : TypeDeclaration) : RecordType :=
  let inherited := (base.map (·.fields)).getD []
  { name := d.name
    table := d.table <|> base.bind (·.table)
    isRecord := d.isRecord || (base.map (·.isRecord)).getD false
    fields :=
      if d.isRecord then (d.fields.map (fieldOf base)).foldl RecordType.withField inherited
      else inherited
    writtenTypes :=
      (base.map (·.writtenTypes)).getD [] ++ d.fields.map fun f => (f.name, f.writtenType)
    shared :=
      (if d.isRecord then d.fields.filterMap sharedBy else []) ++ (base.map (·.shared)).getD [] }

def declare (catalog : Catalog) (d : TypeDeclaration) : Except DeclarationFault Catalog := do
  let base ←
    match d.base with
    | none => pure none
    | some name =>
      match catalog.find? name with
      | some r => pure (some r)
      | none => .error (.unknownBase name)
  if d.isRecord then
    if d.fields.any fun f => f.column.any fun c => c.name = some [] then .error .emptyColumnName
    else
      match d.fields.find? hasChangeableDefault with
      | some f => .error (.changeableDefault f.name)
      | none => return catalog ++ [typeOf base d]
  else return catalog ++ [typeOf base d]

def ofDeclarations (ds : List TypeDeclaration) : Except DeclarationFault Catalog :=
  ds.foldlM declare []

def hints (catalog : Catalog) (r : RecordType) : Except HintFault (List (Text × Hint)) :=
  r.writtenTypes.mapM fun (name, written) => do
    return (name, ← Hint.ofWritten (catalog.map (·.name)) written)

/-- The types of a field, of two for one name the later. -/
def hintOf? (hints : List (Text × Hint)) (field : Text) : Option Hint := hints.reverse.lookup field

end Catalog
end SealedRows
