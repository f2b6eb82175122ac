import SealedRows.Text.Blank
import SealedRows.Value

/-! # Sources of settings

A setting may be given by the caller, by a variable of the environment or by a line of a file. The
names of variables begin with that of the application and are read without regard to case; of two for
one setting the later counts.
-/
namespace SealedRows

abbrev SettingSource := List (Text × Value)

namespace SettingSource

def find? (source : SettingSource) (name : Text) : Option Value := List.lookup name source.reverse

def settingOf? (application given : Text) : Option Text :=
  let lead := application ++ "_"
  let name := given.map Text.lowerLatin
  if lead.isPrefixOf name then some (name.drop lead.length) else none

def ofVariables (application : Text) (pairs : List (Text × Text)) : SettingSource :=
  pairs.filterMap fun (name, t) => (settingOf? application name).map fun s => (s, .text t)

def isLineEnd (c : CodePoint) : Bool := c.val == 0x0A || c.val == 0x0D

def lines (t : Text) : List Text := t.splitOnP isLineEnd

/-- A value without a remark, which begins with a hash mark behind a blank. -/
def withoutRemark : Text → Text
  | [] => []
  | c :: t =>
    if c.isBlank && (t.dropWhile CodePoint.isBlank).head?.map (·.val) == some 0x23 then []
    else c :: withoutRemark t

/-- The variable of a line. A line that begins with a hash mark holds none, nor does one without an
equals sign. -/
def variableOf? (line : Text) : Option (Text × Text) :=
  let line := Text.trimmed CodePoint.isBlank line
  let name := Text.trimmed CodePoint.isBlank (line.takeWhile (·.val != 0x3D))
  match line.dropWhile (·.val != 0x3D) with
  | [] => none
  | _ :: t =>
    if name.isEmpty || name.any (fun c => c.isBlank || c.val == 0x23) then none
    else some (name, Text.trimmed CodePoint.isBlank (withoutRemark (t.dropWhile CodePoint.isBlank)))

def ofFile (application : Text) (content : Text) : SettingSource :=
  ofVariables application ((lines content).filterMap variableOf?)

end SettingSource
end SealedRows
