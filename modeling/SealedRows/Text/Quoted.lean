import SealedRows.Bytes
import SealedRows.Text.Printable

/-! # Quoted forms

How a text or a byte string is shown inside a message: between single quotes, or between double
quotes if it holds a single quote and no double quote. The quote in use and the backslash are
preceded by a backslash, and what can't be shown is written by its number.
-/
namespace SealedRows

def quoteMark (contents : Text) : CodePoint :=
  if contents.contains 0x27 && !contents.contains ('"' : CodePoint) then '"' else 0x27

namespace CodePoint

def controlLetter? (c : CodePoint) : Option CodePoint :=
  if c = 9 then some 't' else if c = 10 then some 'n' else if c = 13 then some 'r' else none

def quoted (mark c : CodePoint) : Text :=
  if c = mark || c = '\\' then ['\\', c]
  else
    match c.controlLetter? with
    | some letter => ['\\', letter]
    | none =>
      if c.isPrintable then [c]
      else if c.val < 0x100 then "\\x" ++ Text.hex 2 c.val
      else if c.val < 0x10000 then "\\u" ++ Text.hex 4 c.val
      else "\\U" ++ Text.hex 8 c.val

end CodePoint

def Text.quoted (t : Text) : Text :=
  let mark := quoteMark t
  [mark] ++ t.flatMap (CodePoint.quoted mark) ++ [mark]

/-- A byte as it is shown between the given marks: as the ASCII character it stands for, if that can
be shown. -/
def quotedByte (mark : CodePoint) (b : UInt8) : Text :=
  let c := CodePoint.ofNat b.toNat
  if c.val < 0x7F then CodePoint.quoted mark c else "\\x" ++ Text.hex 2 c.val

def Bytes.quoteMark (bs : Bytes) : CodePoint :=
  SealedRows.quoteMark (bs.map fun b => CodePoint.ofNat b.toNat)

def Bytes.quoted (bs : Bytes) : Text :=
  let mark := bs.quoteMark
  "b" ++ ([mark] ++ bs.flatMap (quotedByte mark) ++ [mark])

/-- The quoted form of a byte string that may change. A single quote is preceded by a backslash
whichever mark stands around. -/
def Bytes.quotedBuffer (bs : Bytes) : Text :=
  "bytearray(b" ++ ([bs.quoteMark] ++ bs.flatMap (quotedByte 0x27) ++ [bs.quoteMark]) ++ ")"

end SealedRows
