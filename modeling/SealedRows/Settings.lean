import SealedRows.Session
import SealedRows.Settings.Source

/-! # Settings

Which database is opened, how its rows are encrypted, and how much is logged. Every setting is taken
from the first source that says something about it. All settings are read before any of them is
refused, so that a caller is told of all bad ones together.
-/
namespace SealedRows

inductive Setting where
  | algorithm | database | enforceForeignKeys | keyHex | logLevel
  deriving DecidableEq, Repr

def Setting.name : Setting → Text
  | algorithm => "algorithm"
  | database => "database"
  | enforceForeignKeys => "enforce_foreign_keys"
  | keyHex => "key_hex"
  | logLevel => "log_level"

inductive SettingFault where
  /-- It is not among the names that are allowed. -/
  | unknownName
  /-- It is not a text. -/
  | notText
  /-- It is neither true nor false. -/
  | notTruth
  /-- It is a text or a number that means neither true nor false. -/
  | unclearTruth
  /-- It is a text that can't be read. -/
  | unreadable
  deriving DecidableEq, Repr

structure HexKey where
  written : Text
  bytes : Bytes
  read_eq : Bytes.ofHex? written = some bytes

namespace HexKey

def ofText? (t : Text) : Option HexKey :=
  match h : Bytes.ofHex? t with
  | some bs => some ⟨t, bs, h⟩
  | none => none

def hiddenLength : Nat := 10

/-- The stars that are shown in the place of a key; an empty key has nothing to hide. -/
def hidden (k : HexKey) : Text :=
  if k.written.isEmpty then [] else List.replicate hiddenLength (CodePoint.ofChar '*')

end HexKey

structure Settings where
  database : Text
  algorithm : Algorithm
  key : Option HexKey
  enforceForeignKeys : Bool
  logLevel : Text

namespace Settings

def trueWords : List Text := ["1", "true", "t", "yes", "y", "on"]

def falseWords : List Text := ["0", "false", "f", "no", "n", "off"]

/-- A truth value. The numbers one and zero and some words in any case stand for one. -/
def readTruth : Value → Except SettingFault Bool
  | .bool b => .ok b
  | .text t =>
    let word := t.map Text.lowerLatin
    if trueWords.contains word then .ok true
    else if falseWords.contains word then .ok false
    else .error .unclearTruth
  | .int n => if n = 1 then .ok true else if n = 0 then .ok false else .error .unclearTruth
  | .float x =>
    match x.truncated? with
    | none => .error .notTruth
    | some n =>
      if !Value.isSameKey (.float x) (.int n) then .error .notTruth
      else if n = 1 then .ok true
      else if n = 0 then .ok false
      else .error .unclearTruth
  | _ => .error .notTruth

def readText : Value → Except SettingFault Text
  | .text t => .ok t
  | _ => .error .notText

def readAlgorithm : Value → Except SettingFault Algorithm
  | .text t =>
    match Algorithm.ofName? t with
    | some a => .ok a
    | none => .error .unknownName
  | _ => .error .unknownName

def readKey : Value → Except SettingFault (Option HexKey)
  | .none => .ok none
  | .text t =>
    match HexKey.ofText? t with
    | some k => .ok (some k)
    | none => .error .unreadable
  | _ => .error .notText

def valueOf? (sources : List SettingSource) (s : Setting) : Option Value :=
  sources.findSome? (·.find? s.name)

def setting {α : Type} (sources : List SettingSource) (s : Setting) (read : Value → Except SettingFault α)
    (default : α) : Except SettingFault α :=
  match valueOf? sources s with
  | none => .ok default
  | some v => read v

def problemOf {α : Type} (s : Setting) : Except SettingFault α → List (Setting × SettingFault)
  | .ok _ => []
  | .error fault => [(s, fault)]

/-- The settings of an application from sources, of which the earlier count more. -/
def ofSources (application : Text) (sources : List SettingSource) :
    Except (List (Setting × SettingFault)) Settings :=
  let algorithm := setting sources .algorithm readAlgorithm .aes256
  let database := setting sources .database readText (application ++ ".db")
  let enforce := setting sources .enforceForeignKeys readTruth false
  let key := setting sources .keyHex readKey none
  let logLevel := setting sources .logLevel readText "WARNING"
  match algorithm, database, enforce, key, logLevel with
  | .ok algorithm, .ok database, .ok enforce, .ok key, .ok logLevel =>
    .ok ⟨database, algorithm, key, enforce, logLevel⟩
  | _, _, _, _, _ =>
    .error (problemOf .algorithm algorithm ++ problemOf .database database
      ++ problemOf .enforceForeignKeys enforce ++ problemOf .keyHex key ++ problemOf .logLevel logLevel)

def levels : List (Text × Nat) :=
  [("CRITICAL", 50), ("FATAL", 50), ("ERROR", 40), ("WARNING", 30), ("WARN", 30), ("INFO", 20),
    ("DEBUG", 10), ("NOTSET", 0)]

def levelOf? (name : Text) : Option Nat := levels.lookup name.capitals

/-- A session with the database and the cipher of the settings, not yet connected. -/
def session (s : Settings) (catalog : Catalog) (replies : List Reply) (salts : List Bytes) : Session :=
  .new catalog s.algorithm ⟨s.database, replies, []⟩ salts

/-- Opens the database of the settings and takes their key. Returns the level of the log. -/
def connect (s : Settings) : Session.Action Nat := do
  match levelOf? s.logLevel with
  | none => throw (.general .wrongValue)
  | some level =>
    Session.onDatabase (Database.connect s.enforceForeignKeys)
    match s.key with
    | some key => Session.setKey (.bytes key.bytes)
    | none => pure ()
    return level

end Settings
end SealedRows
