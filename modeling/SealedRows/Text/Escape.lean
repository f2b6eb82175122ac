import SealedRows.Text.Name

/-! # Escapes

The contents of a literal. A backslash begins an escape: a control, a code point given by its number
in octal or hexadecimal digits or by its name, or a character that would end the literal; before a line
break it joins two lines, and before anything else it stands for itself. Code points beyond U+00FF are
first written as escapes of their own, so a backslash in front of one is a backslash before a backslash.
-/
namespace SealedRows.Text

inductive Escape where
  | nothing
  | point (c : CodePoint)
  /-- The first of up to three octal digits. -/
  | octal (digit : Nat)
  /-- A code point with the given count of hexadecimal digits. -/
  | hex (digits : Nat)
  /-- A code point with its name in braces. -/
  | named
  /-- No escape: the backslash stands for itself. -/
  | none

def Escape.ofPoint (c : CodePoint) : Escape :=
  if c = '\n' then nothing
  else if c = '\\' || c.val = 0x27 || c = '"' then point c
  else if c = 'a' then point 7
  else if c = 'b' then point 8
  else if c = 't' then point 9
  else if c = 'n' then point 10
  else if c = 'v' then point 11
  else if c = 'f' then point 12
  else if c = 'r' then point 13
  else if 48 ≤ c.val ∧ c.val ≤ 55 then octal (c.val - 48)
  else if c = 'x' then hex 2
  else if c = 'u' then hex 4
  else if c = 'U' then hex 8
  else if c = 'N' then named
  else none

def isOctal (c : CodePoint) : Bool := 48 ≤ c.val && c.val ≤ 55

def hexPoint? (digits : Nat) (t : Text) : Option CodePoint :=
  match hexNumber? (t.take digits) with
  | some n => if h : digits ≤ t.length ∧ n < 0x110000 then some ⟨n, h.2⟩ else Option.none
  | Option.none => Option.none

/-- The code point whose name stands in braces at the front of a text, and the length of both. -/
def namedPoint? (t : Text) : Option (CodePoint × Nat) :=
  let name := (t.drop 1).takeWhile fun c => c != CodePoint.ofChar '}'
  if t.head? = some '{' ∧ name.length + 1 < t.length then
    (CodePoint.ofName? name).map fun p => (p, name.length + 2)
  else Option.none

/-- The text that escapes stand for, unless one is cut off or gives no code point. -/
def unescaped? : Text → Option Text
  | [] => some []
  | [c] => if c = '\\' then Option.none else some [c]
  | c :: d :: rest =>
    if c ≠ '\\' then (unescaped? (d :: rest)).map (c :: ·)
    else
      match Escape.ofPoint d with
      | .nothing => unescaped? rest
      | .point p => (unescaped? rest).map (p :: ·)
      | .octal digit =>
        let more := (rest.take 2).takeWhile isOctal
        let n := more.foldl (fun n c => 8 * n + (c.val - 48)) digit
        (unescaped? (rest.drop more.length)).map (CodePoint.ofNat n :: ·)
      | .hex digits =>
        match hexPoint? digits rest with
        | some p => (unescaped? (rest.drop digits)).map (p :: ·)
        | Option.none => Option.none
      | .named =>
        match namedPoint? rest with
        | some (p, length) => (unescaped? (rest.drop length)).map (p :: ·)
        | Option.none => Option.none
      | .none => (unescaped? rest).map fun t => c :: d :: t
termination_by t => t.length
decreasing_by all_goals (simp only [List.length_cons, List.length_drop]; omega)

def inLatin (t : Text) : Text :=
  t.flatMap fun c =>
    if c.val < 0x100 then [c]
    else if c.val < 0x10000 then "\\u" ++ hex 4 c.val
    else "\\U" ++ hex 8 c.val

def ofLiteral? (contents : Text) : Option Text := unescaped? (inLatin contents)

end SealedRows.Text
