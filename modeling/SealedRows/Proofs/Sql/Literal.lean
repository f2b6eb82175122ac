import SealedRows.Proofs.Double.Written
import SealedRows.Proofs.Text.Literal
import SealedRows.Sql.Statement

/-! # Literals of SQL

How a database reads a literal: a text between quotes, in which two quotes stand for one, bytes as pairs of
hexadecimal digits, and a number as the longest run of what stands in numerals. A number without a point
and without a power of ten is an integer, any other the nearest double. A statement ends at the first NUL, so
there is none in a literal. Every value that has a literal is read from it again, and no other value is read
from what stands in its place.
-/
namespace SealedRows.Sql

/-- The quote around texts and bytes. -/
def quote : CodePoint := 0x27

def readQuoted? : Text → Option (Text × Text)
  | [] => none
  | c :: rest =>
    if c = 0 then none
    else if c = quote then
      match rest with
      | [] => some ([],[])
      | d :: rest =>
        if d = quote then (readQuoted? rest).map fun (t,after) => (quote :: t,after) else some ([],d :: rest)
    else (readQuoted? rest).map fun (t,after) => (c :: t,after)

def bytesOfHex? : Text → Option Bytes
  | [] => some []
  | [_] => none
  | c :: d :: rest =>
    match Text.hexValue? c, Text.hexValue? d with
    | some hi, some lo => (bytesOfHex? rest).map (UInt8.ofNat (16 * hi + lo) :: ·)
    | _, _ => none

def numberOf? (t : Text) : Option Value :=
  let (negative,rest) := Numeral.takeSign t
  if !rest.isEmpty && rest.all Text.isLatinDigit then
    some (Value.int (if negative then -(Numeral.natOf rest : ℤ) else Numeral.natOf rest))
  else (Numeral.ofText? t).map fun n => Value.float n.toDouble

/-- The value of the literal at the beginning of a text, and what follows the literal. -/
def readLiteral? : Text → Option (Value × Text)
  | [] => none
  | c :: rest =>
    if c = quote then (readQuoted? rest).map fun (t,after) => (Value.text t,after)
    else if (c = 'X' ∨ c = 'x') ∧ rest.head? = some quote then
      let digits := (rest.drop 1).takeWhile (· ≠ quote)
      match (rest.drop 1).dropWhile (· ≠ quote) with
      | [] => none
      | _ :: after => (bytesOfHex? digits).map fun bs => (Value.bytes bs,after)
    else (numberOf? ((c :: rest).takeWhile Numeral.isPoint)).map fun v =>
      (v,(c :: rest).dropWhile Numeral.isPoint)

/-! ## Texts -/

theorem quote_ne_nul : quote ≠ 0 := by decide

theorem readQuoted?_nul (rest : Text) : readQuoted? (0 :: rest) = none := by simp [readQuoted?.eq_def]

theorem readQuoted?_quotes (rest : Text) :
    readQuoted? (quote :: quote :: rest) = (readQuoted? rest).map fun (t,after) => (quote :: t,after) := by
  simp [readQuoted?, quote_ne_nul]

theorem readQuoted?_quote {rest : Text} (h : rest.head? ≠ some quote) :
    readQuoted? (quote :: rest) = some ([],rest) := by
  cases rest with
  | nil => rfl
  | cons d rest =>
    have hd : d ≠ quote := by simpa using h
    simp [readQuoted?, quote_ne_nul, hd]

theorem readQuoted?_cons {c : CodePoint} (hc : c ≠ 0) (h : c ≠ quote) (rest : Text) :
    readQuoted? (c :: rest) = (readQuoted? rest).map fun (t,after) => (c :: t,after) := by
  simp [readQuoted?.eq_def (c :: rest), hc, h]

def inQuotes (t rest : Text) : Text := Text.replaced quote "''" t ++ quote :: rest

theorem inQuotes_cons (c : CodePoint) (t rest : Text) :
    inQuotes (c :: t) rest = if c = quote then quote :: quote :: inQuotes t rest else c :: inQuotes t rest := by
  have htwo : Text.ofString "''" = [quote,quote] := rfl
  rw [inQuotes, Text.replaced, List.flatMap_cons, htwo]
  split
  · rfl
  · rfl

theorem inQuotes_of_not_mem {t : Text} (ht : quote ∉ t) (rest : Text) :
    inQuotes t rest = t ++ quote :: rest := by
  induction t with
  | nil => rfl
  | cons c t ih =>
    obtain ⟨hc,ht⟩ : quote ≠ c ∧ quote ∉ t := by simpa using ht
    rw [inQuotes_cons, if_neg hc.symm, ih ht, List.cons_append]

/-- A text without NUL is read from its literal, if no further quote follows. -/
theorem readQuoted?_inQuotes {t rest : Text} (ht : 0 ∉ t) (hrest : rest.head? ≠ some quote) :
    readQuoted? (inQuotes t rest) = some (t,rest) := by
  induction t with
  | nil => exact readQuoted?_quote hrest
  | cons c t ih =>
    obtain ⟨hc,ht⟩ : 0 ≠ c ∧ 0 ∉ t := by simpa using ht
    rw [inQuotes_cons]
    split
    · next h => rw [readQuoted?_quotes, ih ht, Option.map_some, h]
    · next h => rw [readQuoted?_cons hc.symm h, ih ht, Option.map_some]

example : readQuoted? "it''s', x" = some (Text.ofString "it's",Text.ofString ", x") := by decide +kernel

/-- No text is read from the literal of a text with NUL. -/
theorem readQuoted?_of_nul {t : Text} (ht : 0 ∈ t) (rest : Text) : readQuoted? (inQuotes t rest) = none := by
  induction t with
  | nil => cases ht
  | cons c t ih =>
    rw [inQuotes_cons]
    split
    · next h =>
      have ht : 0 ∈ t := (List.mem_cons.mp ht).resolve_left fun h0 => quote_ne_nul (h0.trans h).symm
      rw [readQuoted?_quotes, ih ht, Option.map_none]
    · next h =>
      by_cases hc : c = 0
      · rw [hc, readQuoted?_nul]
      · have ht : 0 ∈ t := (List.mem_cons.mp ht).resolve_left fun h0 => hc h0.symm
        rw [readQuoted?_cons hc h, ih ht, Option.map_none]

/-! ## Bytes -/

theorem hexValue?_upperLatin {d : ℕ} (h : d < 16) :
    Text.hexValue? (Text.upperLatin (Text.digitPoint d)) = some d := by
  have hvalue : ∀ d < 16, Text.hexValue? (Text.upperLatin (Text.digitPoint d)) = some d := by decide
  exact hvalue d h

theorem upperHex_cons (b : UInt8) (bs : Bytes) : Bytes.upperHex (b :: bs) =
    Text.upperLatin (Text.digitPoint (b.toNat / 16 % 16)) ::
      Text.upperLatin (Text.digitPoint (b.toNat % 16)) :: Bytes.upperHex bs := by
  simp [Bytes.upperHex, Bytes.hex, Text.hex]

theorem bytesOfHex?_upperHex (bs : Bytes) : bytesOfHex? bs.upperHex = some bs := by
  induction bs with
  | nil => rfl
  | cons b bs ih =>
    have hb := b.toNat_lt
    have hbyte : UInt8.ofNat (16 * (b.toNat / 16 % 16) + b.toNat % 16) = b := by
      apply UInt8.toNat_inj.mp
      rw [UInt8.toNat_ofNat']
      omega
    rw [upperHex_cons, bytesOfHex?, hexValue?_upperLatin (Nat.mod_lt _ (by decide)),
      hexValue?_upperLatin (Nat.mod_lt _ (by decide))]
    simp [ih, hbyte]

theorem ne_quote_of_mem_upperHex {bs : Bytes} {c : CodePoint} (h : c ∈ bs.upperHex) : c ≠ quote := by
  have hdigit : ∀ d < 16, Text.upperLatin (Text.digitPoint d) ≠ quote := by decide
  induction bs with
  | nil => cases h
  | cons b bs ih =>
    rw [upperHex_cons] at h
    simp only [List.mem_cons] at h
    rcases h with rfl | rfl | h
    · exact hdigit _ (Nat.mod_lt _ (by decide))
    · exact hdigit _ (Nat.mod_lt _ (by decide))
    · exact ih h

/-! ## Numbers -/

theorem numberOf?_ofInt (n : ℤ) : numberOf? (Text.ofInt n) = some (.int n) := by
  have hread (negative : Bool) (k : ℕ) (t : Text) (h : Numeral.takeSign t = (negative,Text.ofNat k)) :
      numberOf? t = some (.int (if negative then -(k : ℤ) else k)) := by
    have hall : (Text.ofNat k).all Text.isLatinDigit :=
      List.all_eq_true.mpr fun _ => Text.isLatinDigit_of_mem_ofNat
    simp [numberOf?, h, Text.ofNat_ne_nil, hall]
  cases n with
  | ofNat k =>
    have hsign := Numeral.takeSign_of_digits (Text.ofNat_ne_nil k) (fun _ => Text.isLatinDigit_of_mem_ofNat) []
    rw [List.append_nil] at hsign
    exact hread false k _ hsign
  | negSucc k => exact hread true (k + 1) (Text.ofInt (.negSucc k)) rfl

theorem numberOf?_toText {x : Double} (hx : x.isFinite) : numberOf? x.toText = some (.float x) := by
  have hfloat := Numeral.ofText?_toText hx
  obtain ⟨body,c,e,hbody,hshows,-⟩ := Double.exists_shows_toText hx
  have hsign : Numeral.takeSign x.toText = (x.isNegative,body) := by
    rw [hbody]
    cases x.isNegative with
    | false => exact hshows.unsigned
    | true => rfl
  have hmark : body.all Text.isLatinDigit = false := by simpa using hshows.marked
  obtain ⟨n,hn,hdouble⟩ := Option.map_eq_some_iff.mp hfloat
  simp [numberOf?, hsign, hmark, hn, hdouble]

theorem isPoint_of_mem_ofInt {n : ℤ} {c : CodePoint} (h : c ∈ Text.ofInt n) : Numeral.isPoint c := by
  cases n with
  | ofNat k => exact Numeral.isPoint_of_isLatinDigit (Text.isLatinDigit_of_mem_ofNat h)
  | negSucc k =>
    rcases List.mem_cons.mp h with rfl | h
    · decide
    · exact Numeral.isPoint_of_isLatinDigit (Text.isLatinDigit_of_mem_ofNat h)

theorem isPoint_of_mem_toText {x : Double} (hx : x.isFinite) {c : CodePoint} (h : c ∈ x.toText) :
    Numeral.isPoint c := by
  obtain ⟨body,_,_,hbody,hshows,-⟩ := Double.exists_shows_toText hx
  rw [hbody] at h
  split at h
  · rcases List.mem_cons.mp h with rfl | h
    · decide
    · exact hshows.points c h
  · exact hshows.points c h

/-! ## Literals -/

/-- Whether a text does not go on with what would belong to a literal in front of it. -/
def Ends (rest : Text) : Prop := ∀ c ∈ rest.head?, c ≠ quote ∧ Numeral.isPoint c = false

theorem literal_text_append (t rest : Text) : literal (.text t) ++ rest = quote :: inQuotes t rest := by
  have hone : Text.ofString "'" = [quote] := rfl
  simp [literal, inQuotes, hone, quote]

theorem literal_text (t : Text) : literal (.text t) = quote :: inQuotes t [] := by
  simpa using literal_text_append t []

theorem literal_bytes_append (bs : Bytes) (rest : Text) : literal (.bytes bs) ++ rest =
    CodePoint.ofChar 'X' :: quote :: (bs.upperHex ++ quote :: rest) := by
  have hopen : Text.ofString "X'" = [CodePoint.ofChar 'X',quote] := rfl
  have hone : Text.ofString "'" = [quote] := rfl
  simp [literal, hopen, hone]

theorem literal_bytes (bs : Bytes) : literal (.bytes bs) =
    CodePoint.ofChar 'X' :: quote :: (bs.upperHex ++ [quote]) := by
  simpa using literal_bytes_append bs []

theorem readLiteral?_text {t rest : Text} (ht : 0 ∉ t) (hrest : rest.head? ≠ some quote) :
    readLiteral? (literal (.text t) ++ rest) = some (.text t,rest) := by
  rw [literal_text_append, readLiteral?, if_pos rfl, readQuoted?_inQuotes ht hrest, Option.map_some]

theorem readLiteral?_bytes (bs : Bytes) (rest : Text) :
    readLiteral? (literal (.bytes bs) ++ rest) = some (.bytes bs,rest) := by
  have hX : CodePoint.ofChar 'X' ≠ quote := by decide
  have hinside : ∀ c ∈ bs.upperHex, decide (c ≠ quote) = true := by
    intro c hc
    exact decide_eq_true (ne_quote_of_mem_upperHex hc)
  have hend : ∀ c ∈ (quote :: rest).head?, decide (c ≠ quote) = false := by
    rintro c ⟨⟩
    exact decide_eq_false (not_not.mpr rfl)
  obtain ⟨htake,hdrop⟩ := Text.takeWhile_append_stop hinside hend
  rw [literal_bytes_append, readLiteral?, if_neg hX, if_pos ⟨Or.inl rfl,rfl⟩]
  simp only [List.drop_one, List.tail_cons, htake, hdrop, bytesOfHex?_upperHex, Option.map_some]

/-- A number is read from a literal that consists of what stands in numerals. -/
theorem readLiteral?_number {t rest : Text} {v : Value} (hnumber : numberOf? t = some v)
    (hpoints : ∀ c ∈ t, Numeral.isPoint c) (hrest : ∀ c ∈ rest.head?, Numeral.isPoint c = false) :
    readLiteral? (t ++ rest) = some (v,rest) := by
  obtain ⟨htake,hdrop⟩ := Text.takeWhile_append_stop hpoints hrest
  have hquote : Numeral.isPoint quote = false := by decide
  have hX : Numeral.isPoint 'X' = false := by decide
  have hx : Numeral.isPoint 'x' = false := by decide
  cases t with
  | nil => cases hnumber
  | cons c t =>
    have hc := hpoints c (by simp)
    have hfirst (d : CodePoint) (hd : Numeral.isPoint d = false) : c ≠ d := by
      rintro rfl
      rw [hc] at hd
      cases hd
    rw [List.cons_append] at htake hdrop ⊢
    rw [readLiteral?, if_neg (hfirst _ hquote), if_neg fun h => h.1.elim (hfirst _ hX) (hfirst _ hx),
      htake, hdrop, hnumber, Option.map_some]

/-- Whether a value has a literal from which it is read: a finite number, a text without NUL or bytes. -/
def HasLiteral : Value → Prop
  | .int _ | .bytes _ => True
  | .float x => x.isFinite
  | .text t => 0 ∉ t
  | _ => False

/-- A value that has a literal is read from it. -/
theorem readLiteral?_literal {v : Value} (hv : HasLiteral v) {rest : Text} (hrest : Ends rest) :
    readLiteral? (literal v ++ rest) = some (v,rest) := by
  have hpoint : ∀ c ∈ rest.head?, Numeral.isPoint c = false := fun c hc => (hrest c hc).2
  cases v with
  | int n => exact readLiteral?_number (numberOf?_ofInt n) (fun _ => isPoint_of_mem_ofInt) hpoint
  | float x => exact readLiteral?_number (numberOf?_toText hv) (fun _ => isPoint_of_mem_toText hv) hpoint
  | text t => exact readLiteral?_text hv fun h => (hrest quote h).1 rfl
  | bytes bs => exact readLiteral?_bytes bs rest
  | _ => cases hv

def specialNames : List Text := ["nan","inf","-inf"]

theorem toText_mem_specialNames {x : Double} (hx : ¬x.isFinite) : x.toText ∈ specialNames := by
  rw [Double.toText]
  split
  · simp [specialNames]
  · next hnan =>
    have hinfinite : x.isInfinite := by
      rw [Double.isFinite_iff] at hx
      rw [Double.isNaN_iff] at hnan
      rw [Double.isInfinite_iff]
      omega
    rw [if_pos hinfinite]
    cases x.isNegative with
    | false => simp [specialNames]
    | true => exact List.mem_of_getElem? (i := 2) rfl

theorem readLiteral?_of_not_isFinite {x : Double} (hx : ¬x.isFinite) :
    readLiteral? (literal (.float x)) = none := by
  have hnone : ∀ t ∈ specialNames, readLiteral? t = none := by
    simp only [specialNames, List.forall_mem_cons]
    exact ⟨rfl,rfl,rfl,nofun⟩
  exact hnone _ (toText_mem_specialNames hx)

theorem readLiteral?_of_nul {t : Text} (ht : 0 ∈ t) : readLiteral? (literal (.text t)) = none := by
  rw [literal_text, readLiteral?, if_pos rfl, readQuoted?_of_nul ht, Option.map_none]

inductive IsStored : Value → Prop where
  | int (n : ℤ) : IsStored (.int n)
  | float (x : Double) : IsStored (.float x)
  | text (t : Text) : IsStored (.text t)
  | bytes (bs : Bytes) : IsStored (.bytes bs)

/-- What is stored without a literal leaves in its place what is read as none. -/
theorem readLiteral?_of_not_hasLiteral {v : Value} (hv : IsStored v) (h : ¬HasLiteral v) :
    readLiteral? (literal v) = none := by
  cases hv with
  | int n => exact absurd trivial h
  | float x => exact readLiteral?_of_not_isFinite h
  | text t => exact readLiteral?_of_nul (not_not.mp h)
  | bytes bs => exact absurd trivial h

end SealedRows.Sql
