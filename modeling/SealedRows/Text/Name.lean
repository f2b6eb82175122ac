import SealedRows.Text.NameTable
import SealedRows.Text

/-! # Code points by name

The name of a code point stands in a table, whose letters may be of either case. A Hangul syllable is
named after its sounds and a unified ideograph after its number, in capital letters only.
-/
namespace SealedRows.CodePoint

def firstWords : Nat → Text → Text
  | 0, _ => []
  | _, [] => []
  | n + 1, c :: t => c :: firstWords (if c = ' ' ∨ c = '-' then n else n + 1) t

/-- The number of an entry of the table and its name, where the name before it is given and the number
that it has if it does not say so. -/
def ofEntry (next : Nat) (previous entry : Text) : Nat × Text :=
  let isColon (c : CodePoint) : Bool := c = ':'
  let (n, rest) := match entry.span (!isColon ·) with
    | (digits, _ :: rest) => ((Text.hexNumber? digits).getD next, rest)
    | (rest, []) => (next, rest)
  match rest with
  | [] => (n, [])
  | count :: rest => (n, firstWords (count.val - 48) previous ++ rest)

def ofEntries? (name : Text) (next : Nat) (previous : Text) : List Text → Option CodePoint
  | [] => none
  | entry :: entries =>
    let (n, given) := ofEntry next previous entry
    if given = name then some (ofNat n) else ofEntries? name (n + 1) given entries

def ofTable? (name : Text) : Option CodePoint :=
  ofEntries? name 0 [] ((Text.ofString nameTable).splitOnP fun c => c = ',' ∨ c = '\n')

def leadingSounds : List Text :=
  ["G", "GG", "N", "D", "DD", "R", "M", "B", "BB", "S", "SS", "", "J", "JJ", "C", "K", "T", "P", "H"]

def vowels : List Text :=
  ["A", "AE", "YA", "YAE", "EO", "E", "YEO", "YE", "O", "WA", "WAE", "OE", "YO", "U", "WEO", "WE", "WI",
    "YU", "EU", "YI", "I"]

def trailingSounds : List Text :=
  ["", "G", "GG", "GS", "N", "NJ", "NH", "D", "L", "LG", "LM", "LB", "LS", "LT", "LP", "LH", "M", "B",
    "BS", "S", "SS", "NG", "J", "C", "K", "T", "P", "H"]

def ofSounds? (sounds : Text) : Option CodePoint :=
  let isVowel (c : CodePoint) : Bool := List.contains (Text.ofString "AEIOUWY") c
  let (lead, rest) := sounds.span (!isVowel ·)
  let (vowel, trail) := rest.span isVowel
  match leadingSounds.idxOf? lead, vowels.idxOf? vowel, trailingSounds.idxOf? trail with
  | some l, some v, some t => some (ofNat (0xAC00 + (21 * l + v) * 28 + t))
  | _, _, _ => none

def ideographRanges : List (Nat × Nat) :=
  [(0x3400, 0x4DBF), (0x4E00, 0x9FFF), (0x20000, 0x2A6DF), (0x2A700, 0x2B738), (0x2B740, 0x2B81D),
    (0x2B820, 0x2CEA1), (0x2CEB0, 0x2EBE0), (0x30000, 0x3134A)]

/-- The unified ideograph with the number given, in four or five digits. -/
def ofIdeograph? (digits : Text) : Option CodePoint :=
  if digits.map Text.upperLatin = digits ∧ (digits.length = 4 ∨ digits.length = 5) then
    match Text.hexNumber? digits with
    | some n => if ideographRanges.any fun r => r.1 ≤ n && n ≤ r.2 then some (ofNat n) else none
    | none => none
  else none

def ofName? (name : Text) : Option CodePoint :=
  let syllable : Text := "HANGUL SYLLABLE "
  let ideograph : Text := "CJK UNIFIED IDEOGRAPH-"
  if syllable.isPrefixOf name then ofSounds? (name.drop syllable.length)
  else if ideograph.isPrefixOf name then ofIdeograph? (name.drop ideograph.length)
  else ofTable? (name.map Text.upperLatin)

end SealedRows.CodePoint
