/-! # Text

A text is a list of code points. Lone surrogates are code points too, so a text can hold what a
column returns after it was decrypted under a wrong key; a string literal is read as a text where
one is expected.
-/
namespace SealedRows

/-- A code point: every number below 0x110000, lone surrogates included. -/
abbrev CodePoint := Fin 0x110000

abbrev Text := List CodePoint

-- Numbers and tests for equality are those of the core library, whatever else is imported.
attribute [scoped instance (high)] instPowNat instLawfulBEq Zero.ofOfNat0

instance CodePoint.neZero : NeZero 0x110000 := ⟨nofun⟩

def CodePoint.ofChar (c : Char) : CodePoint :=
  ⟨c.toNat, by
    have h := c.valid
    simp only [UInt32.isValidChar, Nat.isValidChar] at h
    change c.val.toNat < 0x110000
    omega⟩

def CodePoint.ofNat (n : Nat) : CodePoint :=
  if h : n < 0x110000 then ⟨n, h⟩ else ⟨0xFFFD, by decide⟩

def CodePoint.isHighSurrogate (c : CodePoint) : Bool := 0xD800 ≤ c.val && c.val ≤ 0xDBFF

def CodePoint.isLowSurrogate (c : CodePoint) : Bool := 0xDC00 ≤ c.val && c.val ≤ 0xDFFF

def CodePoint.isSurrogate (c : CodePoint) : Bool := 0xD800 ≤ c.val && c.val ≤ 0xDFFF

def CodePoint.toChar? (c : CodePoint) : Option Char :=
  if c.isSurrogate then none else some (Char.ofNat c.val)

def Text.ofString (s : String) : Text := s.toList.map CodePoint.ofChar

instance : Coe Char CodePoint := ⟨CodePoint.ofChar⟩
instance : Coe String Text := ⟨Text.ofString⟩

namespace Text

def toString? (t : Text) : Option String := (t.mapM CodePoint.toChar?).map String.ofList

/-- The decimal digits of a number, most significant first, in front of those given. -/
def digitsOnto (n : Nat) (rest : List Nat) : List Nat :=
  if n < 10 then n :: rest else digitsOnto (n / 10) (n % 10 :: rest)
termination_by n
decreasing_by omega

/-- The decimal digits of a number, most significant first; zero has one digit. -/
def digits (n : Nat) : List Nat := digitsOnto n []

def digitPoint (d : Nat) : CodePoint := CodePoint.ofNat (if d < 10 then 48 + d else 87 + d)

def ofNat (n : Nat) : Text := (digits n).map digitPoint

def ofInt : Int → Text
  | .ofNat n => ofNat n
  | .negSucc n => '-' :: ofNat (n + 1)

def ofNatPadded : Nat → Nat → Text
  | 0, _ => []
  | width + 1, n => ofNatPadded width (n / 10) ++ [digitPoint (n % 10)]

/-- A number in exactly the given count of lower case hexadecimal digits, its last ones. -/
def hex : Nat → Nat → Text
  | 0, _ => []
  | width + 1, n => hex width (n / 16) ++ [digitPoint (n % 16)]

def lowerLatin (c : CodePoint) : CodePoint :=
  if 65 ≤ c.val ∧ c.val ≤ 90 then CodePoint.ofNat (c.val + 32) else c

def upperLatin (c : CodePoint) : CodePoint :=
  if 97 ≤ c.val ∧ c.val ≤ 122 then CodePoint.ofNat (c.val - 32) else c

def joined (separator : Text) (parts : List Text) : Text := List.intercalate separator parts

def trimmed (p : CodePoint → Bool) (t : Text) : Text :=
  ((t.dropWhile p).reverse.dropWhile p).reverse

def isInside (part : Text) : Text → Bool
  | [] => part.isEmpty
  | c :: t => part.isPrefixOf (c :: t) || isInside part t

def replaced (c : CodePoint) (written : Text) (t : Text) : Text :=
  t.flatMap fun d => if d = c then written else [d]

def hexValue? (c : CodePoint) : Option Nat :=
  if 48 ≤ c.val ∧ c.val ≤ 57 then some (c.val - 48)
  else if 97 ≤ c.val ∧ c.val ≤ 102 then some (c.val - 87)
  else if 65 ≤ c.val ∧ c.val ≤ 70 then some (c.val - 55)
  else none

def hexNumber? (digits : Text) : Option Nat :=
  (digits.mapM hexValue?).map fun ds => ds.foldl (fun n d => 16 * n + d) 0

def isLatinDigit (c : CodePoint) : Bool := 48 ≤ c.val && c.val ≤ 57

end Text
end SealedRows
