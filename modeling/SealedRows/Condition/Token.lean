import SealedRows.Numeral
import SealedRows.Report
import SealedRows.Text.Escape
import SealedRows.Value.Display

/-! # Words of a condition

A condition is written with names, numbers, literals between double quotes, keywords and signs. Every
word is the longest one that begins at its place; blanks between words are left out. Words are found
one after the other, so an offending character counts only after all words in front of it.
-/
namespace SealedRows

inductive Sign where
  | leftParen | rightParen | equal | doubleEqual | bangEqual | angles | less | lessEqual | greater
  | greaterEqual | minus
  deriving DecidableEq, Repr

inductive Keyword where
  | and | or | not | is | null | true | false
  deriving DecidableEq, Repr

inductive Word where
  | identifier (name : Text)
  | integer (n : Int)
  | float (x : Double)
  | string (t : Text)
  | sign (s : Sign)
  | keyword (k : Keyword) (spelling : Text)
  deriving DecidableEq, Repr

structure Token where
  word : Word
  position : Nat
  deriving DecidableEq, Repr

namespace Sign

def all : List Sign :=
  [bangEqual, angles, leftParen, rightParen, doubleEqual, lessEqual, greaterEqual, equal, less, greater,
    minus]

def spelling : Sign → Text
  | leftParen => "("
  | rightParen => ")"
  | equal => "="
  | doubleEqual => "=="
  | bangEqual => "!="
  | angles => "<>"
  | less => "<"
  | lessEqual => "<="
  | greater => ">"
  | greaterEqual => ">="
  | minus => "-"

/-- The longest sign at the beginning of a text. -/
def first? (t : Text) : Option Sign := all.find? fun s => s.spelling.isPrefixOf t

end Sign

namespace Keyword

def all : List Keyword := [and, or, not, is, null, true, false]

def spelling : Keyword → Text
  | and => "and"
  | or => "or"
  | not => "not"
  | is => "is"
  | null => "null"
  | true => "true"
  | false => "false"

def ofName? (name : Text) : Option Keyword :=
  all.find? fun k => k.spelling = name.map Text.lowerLatin

end Keyword

namespace Word

def kindName : Word → Text
  | identifier _ => "IDENTIFIER"
  | integer _ => "INTEGER"
  | float _ => "FLOAT"
  | string _ => "STRING"
  | sign .leftParen => "LPAREN"
  | sign .rightParen => "RPAREN"
  | sign .equal => "EQ"
  | sign .doubleEqual => "EQEQ"
  | sign .bangEqual | sign .angles => "NEQ"
  | sign .less => "LT"
  | sign .lessEqual => "LTE"
  | sign .greater => "GT"
  | sign .greaterEqual => "GTE"
  | sign .minus => "MINUS"
  | keyword k _ => k.spelling.map Text.upperLatin

def value : Word → Value
  | identifier name => .text name
  | integer n => .int n
  | float x => .float x
  | string t => .text t
  | sign s => .text s.spelling
  | keyword _ spelling => .text spelling

end Word

inductive SyntaxFault where
  /-- No word begins at a place. -/
  | illegal (c : CodePoint) (position : Nat)
  /-- A word can't stand at its place. -/
  | unexpected (token : Token)
  /-- The text ends too early. -/
  | unexpectedEnd
  /-- The contents of a literal or a number can't be converted. -/
  | unreadable (b : Breakdown)
  deriving DecidableEq, Repr

def SyntaxFault.report : SyntaxFault → Report
  | illegal c position =>
    .failure .malformedText
      ("Illegal character '" ++ ([c] : Text) ++ "' at position " ++ Text.ofNat position)
  | unexpected token =>
    .failure .malformedText
      ("Syntax error at '" ++ token.word.value.written ++ "' (position " ++ Text.ofNat token.position
        ++ ")")
  | unexpectedEnd => .failure .malformedText "Syntax error at end of input"
  | unreadable b => .silent b

inductive Shape where
  | float | integer | string | name
  | sign (s : Sign)
  deriving DecidableEq, Repr

namespace Shape

def isGap (c : CodePoint) : Bool := c = ' ' || c = '\t' || c = '\r' || c = '\n'

def isNameStart (c : CodePoint) : Bool :=
  (65 ≤ c.val && c.val ≤ 90) || (97 ≤ c.val && c.val ≤ 122) || c = '_'

def isNamePart (c : CodePoint) : Bool := isNameStart c || Text.isLatinDigit c

def digits (t : Text) : Nat := (t.takeWhile CodePoint.isDigit).length

/-- The length of the power of ten at the beginning of a text, zero if there is none. -/
def power (t : Text) : Nat :=
  match t with
  | [] => 0
  | c :: rest =>
    if c = 'e' || c = 'E' then
      let sign := match rest with
        | [] => 0
        | s :: _ => if s = '+' || s = '-' then 1 else 0
      let n := digits (rest.drop sign)
      if n = 0 then 0 else 1 + sign + n
    else 0

/-- The length of the point and the digits after it at the beginning of a text, zero if there are
none. -/
def fraction (t : Text) : Nat :=
  match t with
  | [] => 0
  | c :: rest => if c = '.' ∧ 0 < digits rest then 1 + digits rest else 0

/-- The length of the contents of a literal up to the quote that ends it. No line break may follow a
backslash. -/
def contents? : Text → Option Nat
  | [] => none
  | [c] => if c = '"' then some 0 else none
  | c :: d :: rest =>
    if c = '"' then some 0
    else if c = '\\' then
      if d = '\n' then none else (contents? rest).map (· + 2)
    else (contents? (d :: rest)).map (· + 1)

/-- The word at the beginning of a text, as its shape and its length after the first code point. -/
def first? (c : CodePoint) (rest : Text) : Option (Shape × Nat) :=
  if c.isDigit then
    let whole := digits rest
    let places := fraction (rest.drop whole)
    if places = 0 then some (integer, whole)
    else some (float, whole + places + power (rest.drop (whole + places)))
  else if c = '"' then (contents? rest).map fun n => (string, n + 1)
  else if isNameStart c then some (name, (rest.takeWhile isNamePart).length)
  else (Sign.first? (c :: rest)).map fun s => (sign s, s.spelling.length - 1)

def convert (shape : Shape) (spelling : Text) : Except Breakdown Word :=
  match shape with
  | float =>
    match Double.ofText? spelling with
    | some x => .ok (.float x)
    | none => .error .wrongValue
  | integer =>
    match intOfText? spelling with
    | some n => .ok (.integer n)
    | none => .error .wrongValue
  | string =>
    match Text.ofLiteral? ((spelling.drop 1).dropLast) with
    | some t => .ok (.string t)
    | none => .error .undecodable
  | name =>
    match Keyword.ofName? spelling with
    | some k => .ok (.keyword k spelling)
    | none => .ok (.identifier spelling)
  | sign s => .ok (.sign s)

end Shape

namespace Token

/-- The words of a text that begins at a position, up to its end or to the first fault. -/
def scanFrom (position : Nat) : Text → List Token × Option SyntaxFault
  | [] => ([], none)
  | c :: rest =>
    if Shape.isGap c then scanFrom (position + 1) rest
    else
      match Shape.first? c rest with
      | none => ([], some (.illegal c position))
      | some (shape, n) =>
        match shape.convert (c :: rest.take n) with
        | .error b => ([], some (.unreadable b))
        | .ok word =>
          let (tokens, fault) := scanFrom (position + 1 + n) (rest.drop n)
          (⟨word, position⟩ :: tokens, fault)
termination_by t => t.length
decreasing_by all_goals (simp only [List.length_cons, List.length_drop]; omega)

def scan (t : Text) : List Token × Option SyntaxFault := scanFrom 0 t

end Token
end SealedRows
