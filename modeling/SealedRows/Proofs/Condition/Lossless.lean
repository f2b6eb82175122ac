import SealedRows.Proofs.Condition.Longest

/-! # Texts as words and blanks

Scanning leaves nothing of a text out. The text consists of the words that are found, each the longest one at
its place, of blanks between them, and, if a fault is found, of a rest behind them that begins with the fault:
with a code point at which no word begins, or with a word that can't be converted.
-/
namespace SealedRows

theorem Keyword.spelling_inj {k k' : Keyword} (h : k.spelling = k'.spelling) : k = k' := by
  cases k <;> cases k' <;> first | rfl | exact absurd h (by decide)

theorem Keyword.mem_all (k : Keyword) : k ∈ all := by cases k <;> decide

theorem Keyword.spelling_of_ofName? {name : Text} {k : Keyword} (h : ofName? name = some k) :
    name.map Text.lowerLatin = k.spelling := by
  have hfound := List.find?_some h
  exact (of_decide_eq_true hfound).symm

theorem Keyword.ofName?_eq_some {name : Text} {k : Keyword} :
    ofName? name = some k ↔ name.map Text.lowerLatin = k.spelling := by
  refine ⟨spelling_of_ofName?,fun h => ?_⟩
  have hsome : (ofName? name).isSome := by
    rw [ofName?, List.find?_isSome]
    exact ⟨k,k.mem_all,decide_eq_true h.symm⟩
  obtain ⟨k',hk'⟩ := Option.isSome_iff_exists.mp hsome
  rw [hk', spelling_inj ((spelling_of_ofName? hk').symm.trans h)]

theorem Keyword.ofName?_eq_none {name : Text} :
    ofName? name = none ↔ ∀ k : Keyword, name.map Text.lowerLatin ≠ k.spelling := by
  simp only [Option.eq_none_iff_forall_ne_some, ne_eq, ofName?_eq_some]

namespace Shape
open Token Numeral

/-- What a word of a shape stands for. A name is a keyword exactly if it spells one in lower case letters. -/
inductive StandsFor : Shape → Text → Word → Prop where
  | integer {ds : Text} {n : Int} (h : intOfText? ds = some n) : StandsFor .integer ds (.integer n)
  | float {t : Text} {x : Double} (h : Double.ofText? t = some x) : StandsFor .float t (.float x)
  | string {contents t : Text} (h : Text.ofLiteral? contents = some t) :
      StandsFor .string ('"' :: (contents ++ "\"")) (.string t)
  | keyword {name : Text} {k : Keyword} (h : name.map Text.lowerLatin = k.spelling) :
      StandsFor .name name (.keyword k name)
  | identifier {name : Text} (h : ∀ k : Keyword, name.map Text.lowerLatin ≠ k.spelling) :
      StandsFor .name name (.identifier name)
  | sign (s : Sign) : StandsFor (.sign s) s.spelling (.sign s)

/-- The words that can't be converted: integers of too many digits, and literals whose contents are no text. -/
inductive Breaks : Shape → Text → Breakdown → Prop where
  | integer {ds : Text} (h : maxIntegerDigits < ds.length) : Breaks .integer ds .wrongValue
  | string {contents : Text} (h : Text.ofLiteral? contents = none) :
      Breaks .string ('"' :: (contents ++ "\"")) .undecodable

/-- A word stands for something unless it can't be converted. -/
theorem HasForm.standsFor_or_breaks {shape : Shape} {spelling : Text} (h : HasForm shape spelling) :
    (∃ w, shape.StandsFor spelling w) ∨ ∃ b, shape.Breaks spelling b := by
  cases h with
  | integer hne hds =>
    have hread := intOfText?_of_isDigit hne hds
    split at hread
    · next hlong => exact Or.inr ⟨_,.integer hlong⟩
    · exact Or.inl ⟨_,.integer hread⟩
  | float hne hwhole hne' hplaces hpower =>
    obtain ⟨x,hx⟩ := Option.isSome_iff_exists.mp (Double.isSome_ofText? hne hwhole hplaces hpower)
    exact Or.inl ⟨_,.float hx⟩
  | @string contents _ =>
    cases hliteral : Text.ofLiteral? contents with
    | some t => exact Or.inl ⟨_,.string hliteral⟩
    | none => exact Or.inr ⟨_,.string hliteral⟩
  | @name c word _ _ =>
    by_cases hkeyword : ∃ k : Keyword, (c :: word).map Text.lowerLatin = k.spelling
    · obtain ⟨k,hk⟩ := hkeyword
      exact Or.inl ⟨_,.keyword hk⟩
    · exact Or.inl ⟨_,.identifier (not_exists.mp hkeyword)⟩
  | sign s => exact Or.inl ⟨_,.sign s⟩

theorem StandsFor.convert_eq {shape : Shape} {spelling : Text} {w : Word} (h : shape.StandsFor spelling w) :
    shape.convert spelling = .ok w := by
  cases h with
  | integer h | float h => rw [convert, h]
  | string h => rw [convert_string, h]
  | keyword h => rw [convert, Keyword.ofName?_eq_some.mpr h]
  | identifier h => rw [convert, Keyword.ofName?_eq_none.mpr h]
  | sign => rfl

theorem Breaks.convert_eq {shape : Shape} {spelling : Text} {b : Breakdown} (hform : HasForm shape spelling)
    (h : shape.Breaks spelling b) : shape.convert spelling = .error b := by
  cases h with
  | integer hlong =>
    cases hform with
    | integer hne hds => rw [convert, intOfText?_of_isDigit hne hds, if_pos hlong]
  | string h => rw [convert_string, h]

end Shape

/-! ## Words in their text -/

structure Lexeme where
  gap : Text
  shape : Shape
  spelling : Text
  word : Word

namespace Lexeme
open Shape

def laid (ls : List Lexeme) : Text := ls.flatMap fun l => l.gap ++ l.spelling

theorem laid_cons (l : Lexeme) (ls : List Lexeme) : laid (l :: ls) = l.gap ++ l.spelling ++ laid ls :=
  List.flatMap_cons

/-- The words of lexemes that follow each other, each at the place where its spelling begins. -/
def tokens (position : Nat) : List Lexeme → List Token
  | [] => []
  | l :: ls =>
    ⟨l.word,position + l.gap.length⟩ :: tokens (position + (l.gap ++ l.spelling).length) ls

/-- Whether a lexeme is blanks and then the longest word at its place, given the text behind it. -/
structure IsFirst (l : Lexeme) (rest : Text) : Prop where
  gap : ∀ c ∈ l.gap, isGap c
  longest : l.shape.IsLongest l.spelling rest
  word : l.shape.StandsFor l.spelling l.word

/-- Whether each lexeme is the first one of the text from its place on, which a rest ends. -/
def Follow : List Lexeme → Text → Prop
  | [], _ => True
  | l :: ls, rest => l.IsFirst (laid ls ++ rest) ∧ Follow ls rest

end Lexeme

namespace Token
open Shape Lexeme

/-- Where words end: with the text, at a code point with which no word begins, or at a word that can't be
converted. -/
inductive Stops (position : Nat) : Text → Option SyntaxFault → Prop where
  | done : Stops position [] none
  | illegal {c : CodePoint} {rest : Text} (hgap : isGap c = false)
      (hnone : ∀ shape form, HasForm shape form → ¬form <+: c :: rest) :
      Stops position (c :: rest) (some (.illegal c position))
  | unreadable {shape : Shape} {spelling rest : Text} {b : Breakdown}
      (hlongest : shape.IsLongest spelling rest) (hbreaks : shape.Breaks spelling b) :
      Stops position (spelling ++ rest) (some (.unreadable b))

/-- Whether a text at a position is nothing but lexemes, blanks and a rest at which words end. -/
structure Covers (position : Nat) (t : Text) (ls : List Lexeme) (gap rest : Text)
    (fault : Option SyntaxFault) : Prop where
  text : t = laid ls ++ gap ++ rest
  words : Follow ls (gap ++ rest)
  blanks : ∀ c ∈ gap, isGap c
  stops : Stops (position + (laid ls ++ gap).length) rest fault

/-! ### Scanning what is covered -/

theorem scanFrom_gap {gap : Text} (h : ∀ c ∈ gap, isGap c) (position : Nat) (t : Text) :
    scanFrom position (gap ++ t) = scanFrom (position + gap.length) t := by
  induction gap generalizing position with
  | nil => rfl
  | cons c gap ih =>
    rw [List.forall_mem_cons] at h
    rw [List.cons_append, scanFrom, if_pos h.1, ih h.2, List.length_cons, Nat.add_assoc, Nat.add_comm 1]

theorem scanFrom_word {shape : Shape} {spelling rest : Text} {word : Word}
    (h : shape.IsLongest spelling rest) (hword : shape.StandsFor spelling word) (position : Nat) :
    scanFrom position (spelling ++ rest) =
      (⟨word,position⟩ :: (scanFrom (position + spelling.length) rest).1,
        (scanFrom (position + spelling.length) rest).2) := by
  obtain ⟨c,part,rfl,hgap⟩ := h.form.exists_cons
  have hnext : position + 1 + part.length = position + (c :: part).length := by
    rw [List.length_cons]
    omega
  rw [List.cons_append, scanFrom, if_neg (by simp [hgap]), isLongest_iff.mp h]
  simp only [List.take_left, List.drop_left, hword.convert_eq, hnext]

theorem scanFrom_break {shape : Shape} {spelling rest : Text} {b : Breakdown}
    (h : shape.IsLongest spelling rest) (hbreaks : shape.Breaks spelling b) (position : Nat) :
    scanFrom position (spelling ++ rest) = ([],some (.unreadable b)) := by
  have hconvert := hbreaks.convert_eq h.form
  obtain ⟨c,part,rfl,hgap⟩ := h.form.exists_cons
  rw [List.cons_append, scanFrom, if_neg (by simp [hgap]), isLongest_iff.mp h]
  simp only [List.take_left, hconvert]

theorem Stops.scanFrom_eq {position : Nat} {rest : Text} {fault : Option SyntaxFault}
    (h : Stops position rest fault) : scanFrom position rest = ([],fault) := by
  cases h with
  | done => rw [scanFrom]
  | illegal hgap hnone => rw [scanFrom, if_neg (by simp [hgap]), first?_eq_none_iff.mpr hnone]
  | unreadable hlongest hbreaks => exact scanFrom_break hlongest hbreaks position

theorem scanFrom_laid {ls : List Lexeme} {rest : Text} (h : Follow ls rest) (position : Nat) :
    scanFrom position (laid ls ++ rest) =
      (tokens position ls ++ (scanFrom (position + (laid ls).length) rest).1,
        (scanFrom (position + (laid ls).length) rest).2) := by
  induction ls generalizing position with
  | nil => rfl
  | cons l ls ih =>
    obtain ⟨hfirst,hrest⟩ := h
    have htext : laid (l :: ls) ++ rest = l.gap ++ (l.spelling ++ (laid ls ++ rest)) := by
      simp [laid_cons]
    have hnext : position + l.gap.length + l.spelling.length = position + (l.gap ++ l.spelling).length := by
      rw [List.length_append, Nat.add_assoc]
    have hend : position + (l.gap ++ l.spelling).length + (laid ls).length =
        position + (laid (l :: ls)).length := by
      simp [laid_cons, Nat.add_assoc]
    rw [htext, scanFrom_gap hfirst.gap, scanFrom_word hfirst.longest hfirst.word]
    simp only [hnext, ih hrest, hend, tokens, List.cons_append]

theorem Covers.scanFrom_eq {position : Nat} {t gap rest : Text} {ls : List Lexeme}
    {fault : Option SyntaxFault} (h : Covers position t ls gap rest fault) :
    scanFrom position t = (tokens position ls,fault) := by
  have hstops := h.stops.scanFrom_eq
  rw [List.length_append, ← Nat.add_assoc] at hstops
  rw [h.text, List.append_assoc, scanFrom_laid h.words, scanFrom_gap h.blanks, hstops, List.append_nil]

/-! ### Covering what is scanned -/

/-- A blank in front of a text belongs to its first lexeme, or to the blanks at the end if there is none. -/
theorem Covers.gap_cons {position : Nat} {c : CodePoint} {t gap rest : Text} {ls : List Lexeme}
    {fault : Option SyntaxFault} (hc : isGap c) (h : Covers (position + 1) t ls gap rest fault) :
    ∃ ls' gap', Covers position (c :: t) ls' gap' rest fault := by
  obtain ⟨rfl,hwords,hblanks,hstops⟩ := h
  cases ls with
  | nil =>
    have hend : position + 1 + (laid [] ++ gap).length = position + (laid [] ++ c :: gap).length := by
      simp [laid]
      omega
    rw [hend] at hstops
    exact ⟨[],c :: gap,⟨rfl,hwords,List.forall_mem_cons.mpr ⟨hc,hblanks⟩,hstops⟩⟩
  | cons l ls =>
    obtain ⟨hfirst,hrest⟩ := hwords
    have hend : position + 1 + (laid (l :: ls) ++ gap).length =
        position + (laid ({ l with gap := c :: l.gap } :: ls) ++ gap).length := by
      simp [laid_cons]
      omega
    rw [hend] at hstops
    have hgap : ∀ d ∈ c :: l.gap, isGap d := List.forall_mem_cons.mpr ⟨hc,hfirst.gap⟩
    exact ⟨{ l with gap := c :: l.gap } :: ls,gap,rfl,⟨⟨hgap,hfirst.longest,hfirst.word⟩,hrest⟩,
      hblanks,hstops⟩

theorem Covers.word_cons {position : Nat} {shape : Shape} {spelling t gap rest : Text} {word : Word}
    {ls : List Lexeme} {fault : Option SyntaxFault} (hlongest : shape.IsLongest spelling t)
    (hword : shape.StandsFor spelling word)
    (h : Covers (position + spelling.length) t ls gap rest fault) :
    Covers position (spelling ++ t) (⟨[],shape,spelling,word⟩ :: ls) gap rest fault := by
  obtain ⟨rfl,hwords,hblanks,hstops⟩ := h
  have htext : spelling ++ (laid ls ++ gap ++ rest) =
      laid (⟨[],shape,spelling,word⟩ :: ls) ++ gap ++ rest := by
    simp [laid_cons]
  have hend : position + spelling.length + (laid ls ++ gap).length =
      position + (laid (⟨[],shape,spelling,word⟩ :: ls) ++ gap).length := by
    simp [laid_cons]
    omega
  rw [hend] at hstops
  rw [List.append_assoc] at hlongest
  exact ⟨htext,⟨⟨nofun,hlongest,hword⟩,hwords⟩,hblanks,hstops⟩

theorem exists_covers (position : Nat) : ∀ t : Text, ∃ ls gap rest fault,
    Covers position t ls gap rest fault
  | [] => ⟨[],[],[],none,rfl,trivial,nofun,.done⟩
  | c :: t => by
    by_cases hgap : isGap c
    · obtain ⟨ls,gap,rest,fault,hcovers⟩ := exists_covers (position + 1) t
      obtain ⟨ls',gap',hcovers'⟩ := hcovers.gap_cons hgap
      exact ⟨ls',gap',rest,fault,hcovers'⟩
    cases hfirst : first? c t with
    | none =>
      exact ⟨[],[],c :: t,_,rfl,trivial,nofun,
        .illegal (by simpa using hgap) (first?_eq_none_iff.mp hfirst)⟩
    | some found =>
      obtain ⟨shape,n⟩ := found
      obtain ⟨word,rest,rfl,rfl,hform⟩ := exists_form_of_first? hfirst
      have hlongest := isLongest_iff.mpr hfirst
      rcases hform.standsFor_or_breaks with ⟨w,hw⟩ | ⟨b,hb⟩
      · obtain ⟨ls,gap,rest,fault,hcovers⟩ := exists_covers (position + (c :: word).length) rest
        exact ⟨_,gap,rest,fault,hcovers.word_cons hlongest hw⟩
      · exact ⟨[],[],c :: word ++ rest,_,rfl,trivial,nofun,.unreadable hlongest hb⟩
termination_by t => t.length

theorem scanFrom_eq_iff {position : Nat} {t : Text} {ts : List Token} {fault : Option SyntaxFault} :
    scanFrom position t = (ts,fault) ↔
      ∃ ls gap rest, Covers position t ls gap rest fault ∧ ts = tokens position ls := by
  constructor
  · intro h
    obtain ⟨ls,gap,rest,fault',hcovers⟩ := exists_covers position t
    rw [hcovers.scanFrom_eq] at h
    cases h
    exact ⟨ls,gap,rest,hcovers,rfl⟩
  · rintro ⟨ls,gap,rest,hcovers,rfl⟩
    exact hcovers.scanFrom_eq

/-- What is found in a text is all of it: the tokens are words that follow each other, each the longest at its
place and with nothing but blanks in front of it, and the fault, if any, is at the first place behind them where
no word can be read. -/
theorem scan_eq_iff {t : Text} {ts : List Token} {fault : Option SyntaxFault} : scan t = (ts,fault) ↔
    ∃ ls gap rest, Covers 0 t ls gap rest fault ∧ ts = tokens 0 ls := scanFrom_eq_iff

end Token
end SealedRows
