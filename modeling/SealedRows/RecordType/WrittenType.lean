import SealedRows.Kind
import SealedRows.Report
import SealedRows.Text.Blank

/-! # Written types

The type of a field is written as a name, as several types with bars between them, or as a name with
types between square brackets: `Optional[..]`, `Union[..]` and the containers, such as `list[..]`. What
stands between quotes is a type as well. A union names each of its types once; a union of one type is
that type. Names are looked up only when the types of a record are asked for, so a record may name types
that are declared later.
-/
namespace SealedRows

inductive FieldType where
  | int | float | str | bool | bytes | bytearray | list | dict | object | none | datetime | decimal
  /-- A name that stands for no type of its own, or for any type. -/
  | special (name : Text)
  /-- A class of the language whose values can't be stored. -/
  | plain (name : Text)
  /-- A type that is no class, such as that of the lists of integers. -/
  | form (shown : Text)
  /-- A declared type of records. -/
  | record (name : Text)
  deriving DecidableEq, Repr

namespace FieldType

def builtin : List FieldType :=
  [int, float, str, bool, bytes, bytearray, list, dict, object, none, datetime, decimal,
    special "Any", special "Optional", special "Union", plain "tuple", plain "set", plain "frozenset",
    plain "type", plain "complex", plain "range", plain "slice", plain "memoryview"]

def name : FieldType → Text
  | int => "int"
  | float => "float"
  | str => "str"
  | bool => "bool"
  | bytes => "bytes"
  | bytearray => "bytearray"
  | list => "list"
  | dict => "dict"
  | object => "object"
  | none => "None"
  | datetime => "datetime"
  | decimal => "Decimal"
  | special name => name
  | plain name => name
  | form shown => shown
  | record name => name

def ofName? (t : Text) : Option FieldType := builtin.find? (·.name = t)

def fullName : FieldType → Text
  | none => "NoneType"
  | datetime => "datetime.datetime"
  | decimal => "decimal.Decimal"
  | special name => "typing." ++ name
  | record name => "records." ++ name
  | t => t.name

def shown : FieldType → Text
  | special name => (special name).fullName
  | form shown => shown
  | t => "<class '" ++ t.fullName ++ "'>"

def kind? : FieldType → Option ValueKind
  | bool => some .bool
  | int => some (.integer ⟨true, .four⟩)
  | float => some .float64
  | str => some .string
  | bytes | bytearray => some .bytes
  | datetime => some .timestamp
  | decimal => some .decimal
  | _ => Option.none

end FieldType

inductive WrittenType where
  | named (name : Text)
  | quoted (inner : WrittenType)
  | either (left right : WrittenType)
  /-- A name with types between square brackets. -/
  | applied (head : Text) (arguments : List WrittenType)
  /-- A type of any other form, which is no class, with the names in it and the way it is shown. -/
  | other (names : List Text) (shown : Text)

namespace WrittenType

def isNone : WrittenType → Bool
  | named name => name = "None"
  | _ => false

def isQuoted : WrittenType → Bool
  | quoted _ => true
  | _ => false

def isNamePart (c : CodePoint) : Bool :=
  (65 ≤ c.val && c.val ≤ 90) || (97 ≤ c.val && c.val ≤ 122) || Text.isLatinDigit c || c = '_'

def after? (sign : CodePoint) (t : Text) : Option Text :=
  match t.dropWhile CodePoint.isLatinBlank with
  | [] => none
  | c :: rest => if c = sign then some rest else none

mutual

def readUnion? : Nat → Text → Option (WrittenType × Text)
  | 0, _ => none
  | fuel + 1, t =>
    match readTerm? fuel t with
    | none => none
    | some (a, rest) => readMore? fuel a rest

def readMore? : Nat → WrittenType → Text → Option (WrittenType × Text)
  | 0, _, _ => none
  | fuel + 1, a, t =>
    match after? '|' t with
    | none => some (a, t)
    | some rest =>
      match readTerm? fuel rest with
      | none => none
      | some (b, rest) => readMore? fuel (either a b) rest

/-- Reads a name, one that is followed by types between square brackets, or a type between quotes. -/
def readTerm? : Nat → Text → Option (WrittenType × Text)
  | 0, _ => none
  | fuel + 1, t =>
    let t := t.dropWhile CodePoint.isLatinBlank
    let name := t.takeWhile isNamePart
    let rest := t.dropWhile isNamePart
    if name.isEmpty then
      match t with
      | [] => none
      | c :: rest =>
        if c = '"' || c.val = 0x27 then
          match readUnion? fuel rest with
          | none => none
          | some (a, rest) => (after? c rest).map fun rest => (quoted a, rest)
        else none
    else
      match after? '[' rest with
      | none => some (named name, rest)
      | some inner => (readList? fuel inner).map fun (arguments, rest) => (applied name arguments, rest)

def readList? : Nat → Text → Option (List WrittenType × Text)
  | 0, _ => none
  | fuel + 1, t =>
    match readUnion? fuel t with
    | none => none
    | some (a, rest) =>
      match after? ']' rest with
      | some rest => some ([a], rest)
      | none =>
        match after? ',' rest with
        | none => none
        | some rest =>
          match readList? fuel rest with
          | none => none
          | some (members, rest) => some (a :: members, rest)

end

/-- The type that a text writes. A text that writes none is taken for a name. -/
def ofText (t : Text) : WrittenType :=
  match readUnion? (4 * t.length + 4) t with
  | some (a, rest) => if rest.all CodePoint.isLatinBlank then a else named t
  | none => named t

instance : Coe Text WrittenType := ⟨ofText⟩

example : ofText "list[\"Book\"] | None" =
    either (applied "list" [quoted (named "Book")]) (named "None") := by cbv

end WrittenType

inductive UnionStyle where
  | bars
  | brackets
  deriving DecidableEq, Repr

inductive Hint where
  | one (t : FieldType)
  | union (style : UnionStyle) (members : List FieldType)
  deriving DecidableEq, Repr

inductive HintFault where
  | unknownName (name : Text)
  /-- The names are known, but what is made of them is no type. -/
  | noType
  deriving DecidableEq, Repr

namespace Hint

def members : Hint → List FieldType
  | one t => [t]
  | union _ ts => ts

def ofMembers (style : UnionStyle) (ts : List FieldType) : Hint :=
  match ts.eraseDups with
  | [t] => one t
  | ts => union style ts

def isBracketed : Hint → Bool
  | union .brackets _ => true
  | _ => false

/-- Whether a hint stands for a type only with others between square brackets. -/
def isIncomplete (h : Hint) : Bool := h = one (.special "Optional") || h = one (.special "Union")

def shownWithin : Hint → Text
  | one t => t.fullName
  | union .bars ts => Text.joined " | " (ts.map fun t => if t = .none then t.name else t.fullName)
  | union .brackets ts =>
    match ts.filter (· ≠ .none), ts.length with
    | [t], 2 => "typing.Optional[" ++ t.fullName ++ "]"
    | _, _ => "typing.Union[" ++ Text.joined ", " (ts.map FieldType.fullName) ++ "]"

def ofName (declared : Text → Bool) (name : Text) : Except HintFault Hint :=
  if declared name then .ok (one (.record name))
  else
    match FieldType.ofName? name with
    | some t => .ok (one t)
    | none => .error (.unknownName name)

def isContainer (name : Text) : Bool :=
  name = "list" || name = "dict" || name = "tuple" || name = "set" || name = "frozenset" || name = "type"

/-- What a bar makes of two types. A quoted type has no bar of its own: that of the other side counts. -/
def ofBar (a b : WrittenType) (left right : Hint) : Except HintFault Hint :=
  let isUnion := (left.isBracketed && !a.isQuoted) || (right.isBracketed && !b.isQuoted)
  if left.isIncomplete || right.isIncomplete then .error .noType
  else if (a.isNone && b.isNone) || ((a.isQuoted || b.isQuoted) && !isUnion) then .error .noType
  else .ok (ofMembers (if isUnion then .brackets else .bars) (left.members ++ right.members))

/-- What a name makes of the types between square brackets behind it. -/
def ofApplied (head : Text) (arguments : List WrittenType) (hints : List Hint) : Except HintFault Hint :=
  if isContainer head then
    let parts := List.zipWith (fun a h => if a.isNone then FieldType.none.name else h.shownWithin)
      arguments hints
    let inner : Text := if parts.isEmpty then Text.ofString "()" else Text.joined ", " parts
    .ok (one (.form (head ++ "[" ++ inner ++ "]")))
  else if hints.any isIncomplete then .error .noType
  else if head = "Optional" then
    match hints with
    | [h] => .ok (ofMembers .brackets (h.members ++ [.none]))
    | _ => .error .noType
  else if head = "Union" && !hints.isEmpty then .ok (ofMembers .brackets (hints.flatMap members))
  else .error .noType

def complete (h : Hint) : Except HintFault Hint := if h.isIncomplete then .error .noType else .ok h

mutual

/-- The types that a written type stands for, when the given names are declared. Unless `strict`, what
stands between quotes may be faulty. -/
def evaluated (strict : Bool) (declared : Text → Bool) : WrittenType → Except HintFault Hint
  | .named name => ofName declared name
  | .quoted a =>
    match evaluated strict declared a >>= complete with
    | .ok h => .ok h
    | .error fault => if strict then .error fault else .ok (one (.special "Any"))
  | .either a b => do
    let left ← evaluated strict declared a
    let right ← evaluated strict declared b
    ofBar a b left right
  | .applied head arguments => do
    let _ ← ofName declared head
    let hints ← evaluatedAll strict declared arguments
    if declared head then .error .noType else ofApplied head arguments hints
  | .other names shown => do
    let _ ← names.mapM (ofName declared)
    return one (.form shown)

def evaluatedAll (strict : Bool) (declared : Text → Bool) :
    List WrittenType → Except HintFault (List Hint)
  | [] => .ok []
  | a :: as => do
    let hint ← evaluated strict declared a
    return hint :: (← evaluatedAll strict declared as)

end

/-- The types that a written type stands for, when the given names are declared. What stands between
quotes is looked at last. -/
def ofWritten (declared : List Text) (written : WrittenType) : Except HintFault Hint := do
  let _ ← evaluated false declared.contains written >>= complete
  evaluated true declared.contains written >>= complete

/-- The one type beside `None`, if there is one, and whether `None` was among the types of a
union. -/
def unwrapped (h : Hint) : Hint × Bool :=
  match h with
  | one t => (one t, false)
  | union style ts =>
    match ts.filter (· ≠ .none) with
    | [t] => (one t, ts.contains .none)
    | _ => (union style ts, ts.contains .none)

def kind? : Hint → Option ValueKind
  | one t => t.kind?
  | union .. => none

def shown : Hint → Text
  | one t => t.shown
  | h => h.shownWithin

end Hint
end SealedRows
