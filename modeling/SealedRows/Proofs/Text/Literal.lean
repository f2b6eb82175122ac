import SealedRows.Proofs.Text.Surrogates
import SealedRows.Text.Escape

/-! # Literals

A text is written between double quotes with a backslash in front of every backslash and every quote.
The quote that ends it is then the first one without a backslash, and the contents stand for the text
again, also where code points beyond U+00FF travel as escapes of their own.
-/
namespace SealedRows.Text

def escaped (t : Text) : Text :=
  t.flatMap fun c : CodePoint => if c = '\\' ∨ c = '"' then ['\\',c] else [c]

def inQuotes (t : Text) : Text := ('"' : CodePoint) :: (escaped t ++ "\"")

/-- Whether contents stand for a text, whatever follows them. -/
def Means (contents t : Text) : Prop :=
  ∀ rest, unescaped? (contents ++ rest) = (unescaped? rest).map (t ++ ·)

theorem means_nil : Means [] [] := by
  intro rest
  simp

theorem Means.append {s t u v : Text} (h : Means s u) (h' : Means t v) : Means (s ++ t) (u ++ v) := by
  intro rest
  rw [List.append_assoc, h, h']
  simp [Function.comp_def]

theorem Means.unescaped?_eq {contents t : Text} (h : Means contents t) : unescaped? contents = some t := by
  simpa [unescaped?] using h []

theorem means_point {c : CodePoint} (hc : c ≠ '\\') : Means [c] [c] := by
  intro rest
  cases rest with
  | nil => simp [unescaped?, hc]
  | cons d rest => simp [unescaped?, hc]

theorem means_escape {d p : CodePoint} (hd : Escape.ofPoint d = .point p) : Means ['\\',d] [p] := by
  intro rest
  simp [unescaped?, hd]

theorem means_hex {d p : CodePoint} {width : Nat} {ds : Text} (hd : Escape.ofPoint d = .hex width)
    (hlength : ds.length = width) (hp : ∀ rest, hexPoint? width (ds ++ rest) = some p) :
    Means ('\\' :: d :: ds) [p] := by
  subst hlength
  intro rest
  simp [unescaped?, hd, hp]

def inBraces (name : Text) : Text := ('{' : CodePoint) :: (name ++ [CodePoint.ofChar '}'])

theorem namedPoint?_inBraces {name : Text} {p : CodePoint} (hname : CodePoint.ofName? name = some p)
    (hend : CodePoint.ofChar '}' ∉ name) (rest : Text) :
    namedPoint? (inBraces name ++ rest) = some (p,name.length + 2) := by
  have hbefore : ∀ c ∈ name, (c != CodePoint.ofChar '}') = true := fun c hc =>
    bne_iff_ne.mpr fun hc' => hend (hc' ▸ hc)
  have htake : (name ++ CodePoint.ofChar '}' :: rest).takeWhile (· != CodePoint.ofChar '}') = name := by
    rw [List.takeWhile_append_of_pos hbefore, List.takeWhile_cons_of_neg (by simp), List.append_nil]
  simp [namedPoint?, inBraces, htake, hname]

/-- A name in braces stands for its code point. -/
theorem means_named {name : Text} {p : CodePoint} (hname : CodePoint.ofName? name = some p)
    (hend : CodePoint.ofChar '}' ∉ name) : Means ('\\' :: 'N' :: inBraces name) [p] := by
  have hd : Escape.ofPoint 'N' = .named := rfl
  have hdrop (rest : Text) : (inBraces name ++ rest).drop (name.length + 2) = rest :=
    List.drop_left' (by simp [inBraces])
  intro rest
  simp only [List.cons_append, unescaped?, hd, namedPoint?_inBraces hname hend, hdrop]
  rfl

example : unescaped? "\\N\x7bHANGUL SYLLABLE GAG\x7d" = some [0xAC01] :=
  (@means_named "HANGUL SYLLABLE GAG" 0xAC01 rfl (by decide)).unescaped?_eq

/-! ## Hexadecimal digits -/

theorem hexValue?_digitPoint {d : Nat} (h : d < 16) : hexValue? (digitPoint d) = some d := by
  have hvalue : ∀ d < 16, hexValue? (digitPoint d) = some d := by decide
  exact hvalue d h

@[simp] theorem length_hex (width n : Nat) : (hex width n).length = width := by
  induction width generalizing n with
  | zero => rfl
  | succ width ih => simp [hex, ih]

theorem hexNumber?_append {t : Text} {n d : Nat} (ht : hexNumber? t = some n) (hd : d < 16) :
    hexNumber? (t ++ [digitPoint d]) = some (16 * n + d) := by
  obtain ⟨ds,hds,rfl⟩ := Option.map_eq_some_iff.mp ht
  simp [hexNumber?, List.mapM_append, hds, hexValue?_digitPoint hd]

theorem hexNumber?_hex (width n : Nat) : hexNumber? (hex width n) = some (n % 16 ^ width) := by
  induction width generalizing n with
  | zero =>
    rw [Nat.pow_zero, Nat.mod_one]
    rfl
  | succ width ih =>
    rw [hex, hexNumber?_append (ih (n / 16)) (Nat.mod_lt n (by decide)), Nat.pow_succ', Nat.mod_mul,
      Nat.add_comm]

theorem hexPoint?_hex {width : Nat} {c : CodePoint} (hc : c.val < 16 ^ width) (rest : Text) :
    hexPoint? width (hex width c.val ++ rest) = some c := by
  have htake : (hex width c.val ++ rest).take width = hex width c.val :=
    List.take_left' (length_hex width c.val)
  have hnumber := hexNumber?_hex width c.val
  rw [Nat.mod_eq_of_lt hc] at hnumber
  simp [hexPoint?, htake, hnumber]

/-! ## Contents -/

/-- A code point that is no backslash stands for itself in every form in which it travels. -/
theorem means_inLatin_point {c : CodePoint} (hc : c ≠ '\\') : Means (inLatin [c]) [c] := by
  simp only [inLatin, List.flatMap_singleton]
  split
  · exact means_point hc
  · split
    · next hsmall => exact means_hex rfl (length_hex 4 c.val) (hexPoint?_hex hsmall)
    · have hsmall : c.val < 16 ^ 8 := Nat.lt_trans c.isLt (by decide)
      exact means_hex rfl (length_hex 8 c.val) (hexPoint?_hex hsmall)

theorem inLatin_append (s t : Text) : inLatin (s ++ t) = inLatin s ++ inLatin t := List.flatMap_append

theorem means_inLatin_escaped (t : Text) : Means (inLatin (escaped t)) t := by
  induction t with
  | nil => exact means_nil
  | cons c t ih =>
    have hpoint : Means (inLatin (if c = '\\' ∨ c = '"' then ['\\',c] else [c])) [c] := by
      split
      · next h =>
        rcases h with rfl | rfl
        · exact means_escape rfl
        · exact means_escape rfl
      · next h => exact means_inLatin_point fun hc => h (Or.inl hc)
    rw [escaped, List.flatMap_cons, inLatin_append]
    exact hpoint.append ih

theorem ofLiteral?_escaped (t : Text) : ofLiteral? (escaped t) = some t :=
  (means_inLatin_escaped t).unescaped?_eq

end SealedRows.Text
