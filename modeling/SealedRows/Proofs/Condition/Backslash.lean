import SealedRows.Proofs.Condition.Scanned

/-! # Backslashes that begin no escape

Before a character that begins no escape a backslash stands for itself, as long as the character is below
U+0100. Beyond, the character travels as an escape of its own, so that two backslashes meet: they stand
for one backslash, and what is left of the escape stands for itself.
-/
namespace SealedRows

namespace Text

/-! ## Contents -/

/-- The code points with a meaning of their own after a backslash. -/
def escapeStarts : Text := "\n\\'\"abtnvfr01234567xuUN"

theorem ofPoint_eq_none {c : CodePoint} (hc : c ∉ escapeStarts) : Escape.ofPoint c = .none := by
  have hoctal : ¬(48 ≤ c.val ∧ c.val ≤ 55) := by
    rintro ⟨hlow,hhigh⟩
    have hdigits : ∀ i < 8, CodePoint.ofNat (48 + i) ∈ escapeStarts := by decide
    have hi := hdigits (c.val - 48) (by omega)
    rw [Nat.add_sub_cancel' hlow] at hi
    apply hc
    simpa [CodePoint.ofNat] using hi
  have hquote : c.val ≠ 0x27 := by
    intro hval
    have hpoint : c = CodePoint.ofNat 0x27 := Fin.ext hval
    subst hpoint
    exact hc (by decide)
  have hne : ∀ d ∈ escapeStarts, c ≠ d := by
    rintro d hd rfl
    exact hc hd
  simp only [escapeStarts, ofString] at hne
  simp [Escape.ofPoint, hoctal, hquote, hne]

/-- What a code point leaves behind when a backslash in front of it has been read. -/
def afterBackslash (c : CodePoint) : Text :=
  if c.val < 0x100 then [c]
  else if c.val < 0x10000 then "u" ++ hex 4 c.val
  else "U" ++ hex 8 c.val

theorem length_afterBackslash (c : CodePoint) : (afterBackslash c).length =
    if c.val < 0x100 then 1 else if c.val < 0x10000 then 5 else 9 := by
  have hu : List.length (ofString "u") = 1 := rfl
  have hU : List.length (ofString "U") = 1 := rfl
  unfold afterBackslash
  split
  · rfl
  · split
    · simp [hu]
    · simp [hU]

theorem afterBackslash_eq_iff (c : CodePoint) : afterBackslash c = [c] ↔ c.val < 0x100 := by
  constructor
  · intro h
    have hlength := length_afterBackslash c
    rw [h, List.length_singleton] at hlength
    split at hlength
    · assumption
    · split at hlength <;> omega
  · intro h
    exact if_pos h

theorem ne_backslash_of_mem_hex {width n : Nat} {c : CodePoint} (hc : c ∈ hex width n) : c ≠ '\\' := by
  have hdigits : ∀ d < 16, digitPoint d ≠ '\\' := by decide
  induction width generalizing n with
  | zero => cases hc
  | succ width ih =>
    rcases List.mem_append.mp hc with h | h
    · exact ih h
    · rw [List.mem_singleton] at h
      rw [h]
      exact hdigits _ (Nat.mod_lt n (by decide))

theorem means_plain {t : Text} (h : ∀ c ∈ t, c ≠ '\\') : Means t t := by
  induction t with
  | nil => exact means_nil
  | cons c t ih =>
    rw [List.forall_mem_cons] at h
    exact (means_point h.1).append (ih h.2)

/-- The backslash that was written and the one of an escape are read together. -/
theorem means_backslash_hex {letter : CodePoint} (hletter : letter ≠ '\\') (width n : Nat) :
    Means ('\\' :: '\\' :: letter :: hex width n) ('\\' :: letter :: hex width n) := by
  have hboth : Means ['\\','\\'] ['\\'] := means_escape rfl
  have hrest : ∀ c ∈ letter :: hex width n, c ≠ '\\' := by
    rw [List.forall_mem_cons]
    exact ⟨hletter,fun c => ne_backslash_of_mem_hex⟩
  exact hboth.append (means_plain hrest)

theorem means_backslash {c : CodePoint} (hc : c ∉ escapeStarts) :
    Means (inLatin ['\\',c]) ('\\' :: afterBackslash c) := by
  have htwo : inLatin ['\\',c] = CodePoint.ofChar '\\' :: inLatin [c] := inLatin_append ['\\'] [c]
  rw [htwo, afterBackslash, inLatin, List.flatMap_singleton]
  split
  · intro rest
    simp [unescaped?, ofPoint_eq_none hc]
  · split
    · exact means_backslash_hex (by decide) 4 c.val
    · exact means_backslash_hex (by decide) 8 c.val

/-- Contents with a backslash in front of a code point, between two escaped texts. -/
def withBackslash (p : Text) (c : CodePoint) (q : Text) : Text := escaped p ++ "\\" ++ [c] ++ escaped q

theorem ofLiteral?_withBackslash (p q : Text) {c : CodePoint} (hc : c ∉ escapeStarts) :
    ofLiteral? (withBackslash p c q) = some (p ++ "\\" ++ afterBackslash c ++ q) := by
  have hfront := (means_inLatin_escaped p).append (means_backslash hc)
  have hwhole := (hfront.append (means_inLatin_escaped q)).unescaped?_eq
  rw [← inLatin_append, ← inLatin_append] at hwhole
  simpa [ofLiteral?, withBackslash, ofString] using hwhole

end Text

namespace Token

/-! ## Literals -/

theorem IsContents.append {s t : Text} (hs : IsContents s) (ht : IsContents t) : IsContents (s ++ t) := by
  induction hs with
  | nil => exact ht
  | point hquote hslash _ ih => exact .point hquote hslash ih
  | escape hbreak _ ih => exact .escape hbreak ih

theorem isContents_withBackslash (p q : Text) {c : CodePoint} (hc : c ∉ Text.escapeStarts) :
    IsContents (Text.withBackslash p c q) := by
  have hbreak : c ≠ '\n' := by
    rintro rfl
    exact hc (by decide)
  have hmiddle : IsContents ("\\" ++ [c]) := .escape hbreak .nil
  rw [Text.withBackslash, List.append_assoc (Text.escaped p)]
  exact ((isContents_escaped p).append hmiddle).append (isContents_escaped q)

/-- A literal whose contents can be read is one word. -/
theorem scanFrom_literal {contents t : Text} (h : IsContents contents) (ht : Text.ofLiteral? contents = some t)
    (position : Nat) (rest : Text) : scanFrom position ("\"" ++ contents ++ "\"" ++ rest) =
      (⟨.string t,position⟩ :: (scanFrom (position + (contents.length + 2)) rest).1,
        (scanFrom (position + (contents.length + 2)) rest).2) := by
  have hgap : Shape.isGap '"' = false := by decide
  have hconvert := convert_string contents
  rw [ht] at hconvert
  have hopened : "\"" ++ contents ++ "\"" ++ rest = CodePoint.ofChar '"' :: (contents ++ "\"" ++ rest) := rfl
  have hlength : position + 1 + (contents ++ "\"").length = position + (contents.length + 2) := by
    have hquote : List.length (Text.ofString "\"") = 1 := rfl
    rw [List.length_append, hquote]
    omega
  rw [hopened, scanFrom, if_neg (by simp [hgap]), first?_string h rest]
  simp only [List.take_left, List.drop_left, hconvert, hlength]

/-- A backslash that begins no escape stands for itself, and the code point after it does exactly if it is
below U+0100. -/
theorem scanFrom_withBackslash (p q : Text) {c : CodePoint} (hc : c ∉ Text.escapeStarts) (position : Nat)
    (rest : Text) : ∃ t next, scanFrom position ("\"" ++ Text.withBackslash p c q ++ "\"" ++ rest) =
        (⟨.string t,position⟩ :: (scanFrom next rest).1,(scanFrom next rest).2) ∧
      next = position + (Text.withBackslash p c q).length + 2 ∧
      t = p ++ "\\" ++ Text.afterBackslash c ++ q ∧ (t = p ++ "\\" ++ [c] ++ q ↔ c.val < 0x100) := by
  have hscan := scanFrom_literal (isContents_withBackslash p q hc) (Text.ofLiteral?_withBackslash p q hc)
    position rest
  refine ⟨_,_,hscan,(Nat.add_assoc _ _ _).symm,rfl,?_⟩
  rw [List.append_left_inj, List.append_right_inj]
  exact Text.afterBackslash_eq_iff c

/-- A pattern of digits is read as it is written. -/
theorem scan_digits_pattern : scan "\"\\d+\"" = ([⟨.string "\\d+",0⟩],none) := by
  have hd : CodePoint.ofChar 'd' ∉ Text.escapeStarts := by decide
  obtain ⟨t,next,hscan,-,rfl,-⟩ := scanFrom_withBackslash [] "+" hd 0 []
  rw [scanFrom] at hscan
  exact hscan

/-- A backslash in front of a Cyrillic letter is kept, and the letter is lost. -/
theorem scan_cyrillic_lost : ¬∀ (p q : Text) (c : CodePoint), c ∉ Text.escapeStarts →
    scan ("\"" ++ Text.withBackslash p c q ++ "\"") = ([⟨.string (p ++ "\\" ++ [c] ++ q),0⟩],none) := by
  intro h
  have hc : CodePoint.ofChar 'Ж' ∉ Text.escapeStarts := by decide
  have hscan := scanFrom_literal (isContents_withBackslash [] [] hc)
    (Text.ofLiteral?_withBackslash [] [] hc) 0 []
  have hkept := h [] [] 'Ж' hc
  rw [scan, ← List.append_nil (_ ++ _), hscan] at hkept
  simp only [Prod.mk.injEq, List.cons.injEq, Token.mk.injEq, Word.string.injEq] at hkept
  exact absurd hkept.1.1.1 (by decide)

end Token
end SealedRows
