import SealedRows.Proofs.Condition.Predicate
import SealedRows.Proofs.Text.Literal

/-! # Spellings of words

A text spells words when they are the ones found in it, whatever follows, provided that what follows
can't belong to the last of them. Texts with a blank between them spell the words of both.
-/
namespace SealedRows

open Shape

/-! ## The first word -/

theorem Shape.isDigit_of_isNameStart {c : CodePoint} (h : isNameStart c) : c.isDigit = false := by
  have hrows : ∀ z ∈ CodePoint.zeros, ∀ i < 10, isNameStart (CodePoint.ofNat (z + i)) = false := by
    decide +kernel
  rw [Bool.eq_false_iff]
  intro hdigit
  obtain ⟨z,hz,i,hi,rfl⟩ := CodePoint.exists_zero_of_isDigit hdigit
  rw [hrows z hz i hi] at h
  cases h

theorem Shape.isGap_of_isBlank {c : CodePoint} (h : c.isBlank = false) : isGap c = false := by
  have hgaps : ∀ d : CodePoint, isGap d → d.isBlank := by
    intro d hd
    simp only [isGap, Bool.or_eq_true, decide_eq_true_eq] at hd
    rcases hd with ((rfl | rfl) | rfl) | rfl <;> decide
  rw [Bool.eq_false_iff]
  intro hgap
  rw [hgaps c hgap] at h
  cases h

namespace Token

/-- What may follow a word without belonging to it: a blank, a closing parenthesis or nothing. -/
def Ends (rest : Text) : Prop := ∀ c ∈ rest.head?, isGap c ∨ c = ')'

theorem ends_nil : Ends [] := nofun

theorem ends_gap {c : CodePoint} (h : isGap c) (rest : Text) : Ends (c :: rest) := by
  rintro _ ⟨⟩
  exact Or.inl h

theorem ends_rightParen (rest : Text) : Ends (CodePoint.ofChar ')' :: rest) := by
  rintro _ ⟨⟩
  exact Or.inr rfl

/-- The five code points that end a word. -/
theorem Ends.cases {p : Text → Prop} {rest : Text} (h : Ends rest) (hnil : p [])
    (hcons : ∀ c ∈ ([' ','\t','\r','\n',')'] : List Char), ∀ t, p (CodePoint.ofChar c :: t)) : p rest := by
  cases rest with
  | nil => exact hnil
  | cons c rest =>
    have hc := h c rfl
    simp only [isGap, Bool.or_eq_true, decide_eq_true_eq] at hc
    rcases hc with (((rfl | rfl) | rfl) | rfl) | rfl <;> exact hcons _ (by decide) rest

theorem Ends.stop {p : CodePoint → Bool} {rest : Text} (h : Ends rest)
    (hp : ([' ','\t','\r','\n',')'] : List Char).all fun c => !p (CodePoint.ofChar c)) :
    ∀ d ∈ rest.head?, p d = false := by
  apply h.cases
  · simp
  · rintro c hc t _ ⟨⟩
    simpa using List.all_eq_true.mp hp c hc

inductive Divides : Text → List Word → Text → Prop where
  | nil (rest : Text) : Divides rest [] rest
  | gap {c : CodePoint} (hgap : isGap c) {t rest : Text} {ws : List Word} (h : Divides t ws rest) :
      Divides (c :: t) ws rest
  | word {c : CodePoint} {t rest : Text} {shape : Shape} {n : Nat} {w : Word} {ws : List Word}
      (hgap : isGap c = false) (hfirst : first? c t = some (shape,n))
      (hconvert : shape.convert (c :: t.take n) = .ok w) (h : Divides (t.drop n) ws rest) :
      Divides (c :: t) (w :: ws) rest

theorem Divides.append {word t rest : Text} {ws : List Word} (h : Divides t ws rest) {c : CodePoint}
    {shape : Shape} {w : Word} (hgap : isGap c = false)
    (hfirst : first? c (word ++ t) = some (shape,word.length))
    (hconvert : shape.convert (c :: word) = .ok w) : Divides (c :: (word ++ t)) (w :: ws) rest := by
  apply Divides.word hgap hfirst
  · rwa [List.take_left]
  · rwa [List.drop_left]

/-- The words in front of a rest are scanned before the words of the rest. -/
theorem Divides.scanFrom_eq {t rest : Text} {ws : List Word} (h : Divides t ws rest) (position : Nat) :
    ∃ tokens position', tokens.map (·.word) = ws ∧ scanFrom position t =
      (tokens ++ (scanFrom position' rest).1,(scanFrom position' rest).2) := by
  induction h generalizing position with
  | nil rest => exact ⟨[],position,rfl,rfl⟩
  | gap hgap _ ih =>
    rw [scanFrom, if_pos hgap]
    exact ih (position + 1)
  | @word c t rest shape n w ws hgap hfirst hconvert _ ih =>
    obtain ⟨tokens,position',hwords,hscan⟩ := ih (position + 1 + n)
    refine ⟨⟨w,position⟩ :: tokens,position',by simp [hwords],?_⟩
    rw [scanFrom]
    simp [hgap, hfirst, hconvert, hscan]

theorem Divides.exists_front {t rest : Text} {ws : List Word} (h : Divides t ws rest) :
    ∃ front, t = front ++ rest := by
  induction h with
  | nil rest => exact ⟨[],rfl⟩
  | gap _ _ ih =>
    obtain ⟨front,rfl⟩ := ih
    exact ⟨_ :: front,rfl⟩
  | @word c t rest _ n _ _ _ _ _ _ ih =>
    obtain ⟨front,ht⟩ := ih
    refine ⟨c :: (t.take n ++ front),?_⟩
    rw [List.cons_append, List.append_assoc, ← ht, List.take_append_drop]

theorem Divides.gaps {t rest gap : Text} {ws : List Word} (h : Divides t ws rest)
    (hgap : ∀ c ∈ gap, isGap c) : Divides (gap ++ t) ws rest := by
  induction gap with
  | nil => exact h
  | cons c gap ih =>
    rw [List.forall_mem_cons] at hgap
    exact .gap hgap.1 (ih hgap.2)

def Spells (t : Text) (ws : List Word) : Prop :=
  ∀ rest vs, Ends rest → Divides rest vs [] → Divides (t ++ rest) (ws ++ vs) []

theorem Spells.scan_eq {t : Text} {ws : List Word} (h : Spells t ws) :
    ∃ tokens, scan t = (tokens,none) ∧ tokens.map (·.word) = ws := by
  obtain ⟨tokens,position,hwords,hscan⟩ := (h [] [] ends_nil (.nil [])).scanFrom_eq 0
  rw [scanFrom, List.append_nil, List.append_nil] at hscan
  exact ⟨tokens,hscan,by simpa using hwords⟩

theorem Spells.append {s t gap : Text} {us vs : List Word} (hs : Spells s us) (ht : Spells t vs)
    (hne : gap ≠ []) (hgap : ∀ c ∈ gap, isGap c) : Spells (s ++ gap ++ t) (us ++ vs) := by
  intro rest ws hends hrest
  have hends' : Ends (gap ++ (t ++ rest)) := by
    cases gap with
    | nil => exact absurd rfl hne
    | cons c gap => exact ends_gap (hgap c (by simp)) _
  simpa using hs _ _ hends' ((ht rest ws hends hrest).gaps hgap)

/-! ## Names -/

theorem first?_name {c : CodePoint} {word rest : Text} (hc : isNameStart c)
    (hword : ∀ d ∈ word, isNamePart d) (hrest : Ends rest) :
    first? c (word ++ rest) = some (.name,word.length) := by
  have hquote : c ≠ '"' := by
    rintro rfl
    exact absurd hc (by decide)
  have htake := (Text.takeWhile_append_stop hword (hrest.stop (by decide))).1
  simp [first?, isDigit_of_isNameStart hc, hquote, hc, htake]

theorem isGap_of_isNameStart {c : CodePoint} (h : isNameStart c) : isGap c = false :=
  isGap_of_isBlank (CodePoint.isBlank_of_isNameStart h)

/-- A name or a keyword, which are told apart by their letters alone. -/
theorem spells_name {c : CodePoint} {word : Text} (hc : isNameStart c) (hword : ∀ d ∈ word, isNamePart d)
    {w : Word} (hconvert : Shape.name.convert (c :: word) = .ok w) : Spells (c :: word) [w] := by
  intro rest vs hends hrest
  exact hrest.append (isGap_of_isNameStart hc) (first?_name hc hword hends) hconvert

/-! ## Numbers -/

theorem isGap_of_isDigit {c : CodePoint} (h : c.isDigit) : isGap c = false :=
  isGap_of_isBlank (CodePoint.isBlank_of_isDigit h)

theorem first?_integer {c : CodePoint} {word rest : Text} (hc : c.isDigit) (hword : ∀ d ∈ word, d.isDigit)
    (hrest : ∀ d ∈ rest.head?, d.isDigit = false) (hpoint : fraction rest = 0) :
    first? c (word ++ rest) = some (.integer,word.length) := by
  have htake := (Text.takeWhile_append_stop hword hrest).1
  simp [first?, hc, digits, htake, hpoint]

theorem spells_integer {n : Nat} (h : (Text.digits n).length ≤ Numeral.maxIntegerDigits) :
    Spells (Text.ofNat n) [.integer n] := by
  intro rest vs hends hrest
  have hdigits := Text.all_isDigit_ofNat n
  have hread := intOfText?_ofNat h
  cases ht : Text.ofNat n with
  | nil => exact absurd ht (Text.ofNat_ne_nil n)
  | cons c word =>
    rw [ht, List.forall_mem_cons] at hdigits
    rw [ht] at hread
    have hpoint : fraction rest = 0 := by
      have hdot : ∀ d ∈ rest.head?, decide (d = CodePoint.ofChar '.') = false := hends.stop (by decide)
      cases rest with
      | nil => rfl
      | cons d rest => simp [fraction, of_decide_eq_false (hdot d rfl)]
    have hfirst := first?_integer hdigits.1 hdigits.2 (hends.stop (by decide +kernel)) hpoint
    exact hrest.append (isGap_of_isDigit hdigits.1) hfirst (by simp [convert, hread])

/-! ## Signs -/

theorem Sign.first?_spelling (s : Sign) {rest : Text} (h : Ends rest) :
    Sign.first? (s.spelling ++ rest) = some s := by
  apply h.cases
  · cases s <;> decide
  · intro c hc t
    simp only [List.mem_cons, List.not_mem_nil, or_false] at hc
    cases s <;> rcases hc with rfl | rfl | rfl | rfl | rfl <;> rfl

theorem Sign.exists_spelling (s : Sign) : ∃ c word, s.spelling = c :: word ∧ c.isDigit = false ∧
    c ≠ '"' ∧ isNameStart c = false ∧ isGap c = false := by
  cases s <;> exact ⟨_,_,rfl,by decide +kernel,by decide,by decide,by decide⟩

theorem Divides.sign {s : Sign} {rest : Text} {ws : List Word}
    (hfirst : Sign.first? (s.spelling ++ rest) = some s) (h : Divides rest ws []) :
    Divides (s.spelling ++ rest) (.sign s :: ws) [] := by
  obtain ⟨c,word,hs,hdigit,hquote,hname,hgap⟩ := Sign.exists_spelling s
  have hshape : first? c (word ++ rest) = some (.sign s,word.length) := by
    rw [hs] at hfirst
    simp only [List.cons_append] at hfirst
    simp [first?, hdigit, hquote, hname, hfirst, hs]
  rw [hs]
  exact h.append hgap hshape rfl

theorem spells_sign (s : Sign) : Spells s.spelling [.sign s] := by
  intro rest vs hends hrest
  exact hrest.sign (Sign.first?_spelling s hends)

/-- No word begins with a minus sign and is longer. -/
theorem Spells.minus {t : Text} {ws : List Word} (h : Spells t ws) :
    Spells ("-" ++ t) (.sign .minus :: ws) := by
  intro rest vs hends hrest
  exact (h rest vs hends hrest).sign (s := .minus) rfl

/-- The parentheses around a text belong to none of its words. -/
theorem Spells.paren {t : Text} {ws : List Word} (h : Spells t ws) :
    Spells ("(" ++ t ++ ")") (.sign .leftParen :: ws ++ [.sign .rightParen]) := by
  intro rest vs hends hrest
  have hclosed : Divides (t ++ (")" ++ rest)) (ws ++ .sign .rightParen :: vs) [] :=
    h _ _ (ends_rightParen rest) (hrest.sign (s := .rightParen) rfl)
  have hopened : Divides ("(" ++ (t ++ (")" ++ rest)))
      (.sign .leftParen :: (ws ++ .sign .rightParen :: vs)) [] := hclosed.sign (s := .leftParen) rfl
  simpa using hopened

/-! ## Literals -/

theorem contents?_quote (rest : Text) : contents? (CodePoint.ofChar '"' :: rest) = some 0 := by
  cases rest <;> simp [contents?]

/-- Contents in which every quote and every backslash follows a backslash of its own. -/
inductive IsContents : Text → Prop where
  | nil : IsContents []
  | point {c : CodePoint} (hquote : c ≠ '"') (hslash : c ≠ '\\') {t : Text} (h : IsContents t) :
      IsContents (c :: t)
  | escape {c : CodePoint} (hbreak : c ≠ '\n') {t : Text} (h : IsContents t) :
      IsContents (CodePoint.ofChar '\\' :: c :: t)

theorem isContents_escaped (t : Text) : IsContents (Text.escaped t) := by
  induction t with
  | nil => exact .nil
  | cons c t ih =>
    rw [Text.escaped, List.flatMap_cons]
    split
    · next h =>
      apply IsContents.escape _ ih
      rcases h with rfl | rfl <;> decide
    · next h =>
      obtain ⟨hslash,hquote⟩ := not_or.mp h
      exact .point hquote hslash ih

theorem contents?_cons {c : CodePoint} (hquote : c ≠ '"') (hslash : c ≠ '\\') {rest : Text}
    (hne : rest ≠ []) : contents? (c :: rest) = (contents? rest).map (· + 1) := by
  cases rest with
  | nil => exact absurd rfl hne
  | cons d rest => simp [contents?, hquote, hslash]

theorem IsContents.contents?_eq {t : Text} (h : IsContents t) (rest : Text) :
    contents? (t ++ CodePoint.ofChar '"' :: rest) = some t.length := by
  induction h with
  | nil => exact contents?_quote rest
  | point hquote hslash h ih =>
    rw [List.cons_append, contents?_cons hquote hslash (by simp), ih]
    simp
  | escape hbreak h ih =>
    have hquote : CodePoint.ofChar '\\' ≠ '"' := by decide
    simp [contents?, hbreak, hquote, ih]

theorem first?_string {contents : Text} (h : IsContents contents) (rest : Text) :
    first? '"' (contents ++ "\"" ++ rest) = some (.string,(contents ++ "\"").length) := by
  have hdigit : CodePoint.isDigit '"' = false := by decide +kernel
  have hcontents : contents? (contents ++ ("\"" ++ rest : Text)) = some contents.length := h.contents?_eq rest
  have hquote : List.length (Text.ofString "\"") = 1 := rfl
  simp [first?, hdigit, hcontents, hquote]

theorem convert_string (contents : Text) : Shape.string.convert ('"' :: (contents ++ "\"")) =
    match Text.ofLiteral? contents with
    | some t => .ok (.string t)
    | none => .error .undecodable := by
  have hcontents : ((CodePoint.ofChar '"' :: (contents ++ "\"")).drop 1).dropLast = contents :=
    List.dropLast_concat
  cases hliteral : Text.ofLiteral? contents <;> simp only [convert, hcontents, hliteral]

theorem spells_string (t : Text) : Spells (Text.inQuotes t) [.string t] := by
  intro rest vs hends hrest
  have hconvert : Shape.string.convert (Text.inQuotes t) = .ok (.string t) := by
    rw [Text.inQuotes, convert_string, Text.ofLiteral?_escaped]
  exact hrest.append (by decide) (first?_string (isContents_escaped t) rest) hconvert

end Token
end SealedRows
