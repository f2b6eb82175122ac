import SealedRows.Proofs.Condition.Scanned

/-! # Conditions that are written

A condition is written with parentheses around every connective and with a literal for every value. In
which case its keywords stand, by which signs its comparisons are meant and which blanks divide its
words is a matter of style. In every style the text is read as the condition again.
-/
namespace SealedRows

open Token

/-- The signs of comparisons, the case of keywords and the blanks between words. -/
structure Style where
  sign : Operator → Sign
  means : ∀ op, (sign op).Means op
  keyword : Keyword → Text
  isKeyword : ∀ k, Keyword.ofName? (keyword k) = some k
  gap : Text
  gap_ne_nil : gap ≠ []
  isGap : ∀ c ∈ gap, Shape.isGap c

def Text.IsIdentifier (name : Text) : Prop :=
  (∃ c word, name = c :: word ∧ Shape.isNameStart c ∧ word.all Shape.isNamePart) ∧
    Keyword.ofName? name = none

/-- Values that a comparison can be written with. Null can't be equal or unequal to anything. -/
inductive Value.IsWritable (op : Operator) : Value → Prop where
  | int {n : Int} (h : (Text.digits n.natAbs).length ≤ Numeral.maxIntegerDigits) : IsWritable op (.int n)
  | text (t : Text) : IsWritable op (.text t)
  | bool (b : Bool) : IsWritable op (.bool b)
  | none (h : op.isOrdering) : IsWritable op .none

def Condition.IsWritable : Condition Value → Prop
  | comparison name op v => name.IsIdentifier ∧ v.IsWritable op
  | nullCheck name _ | isTrue name => name.IsIdentifier
  | and left right | or left right => left.IsWritable ∧ right.IsWritable
  | not operand => operand.IsWritable
  | bare | misfit _ => False

namespace Style

/-- Keywords in small letters and words with a space between them. -/
def plain : Style where
  sign
    | .eq => .equal
    | .ne => .angles
    | .lt => .less
    | .le => .lessEqual
    | .gt => .greater
    | .ge => .greaterEqual
  means op := by cases op <;> constructor
  keyword := Keyword.spelling
  isKeyword k := by cases k <;> rfl
  gap := [CodePoint.ofChar ' ']
  gap_ne_nil := nofun
  isGap := by simp [Shape.isGap]

variable (style : Style)

def literal : Value → Text
  | .int n => Text.ofInt n
  | .text t => Text.inQuotes t
  | .bool true => style.keyword .true
  | .bool false => style.keyword .false
  | .none => style.keyword .null
  | _ => []

def condition : Condition Value → Text
  | .comparison name op v =>
    name ++ style.gap ++ (style.sign op).spelling ++ style.gap ++ style.literal v
  | .nullCheck name true => name ++ style.gap ++ style.keyword .is ++ style.gap ++ style.keyword .null
  | .nullCheck name false =>
    name ++ style.gap ++ style.keyword .is ++ style.gap ++ style.keyword .not ++ style.gap ++
      style.keyword .null
  | .isTrue name => name
  | .and left right =>
    "(" ++ (condition left ++ style.gap ++ style.keyword .and ++ style.gap ++ condition right) ++ ")"
  | .or left right =>
    "(" ++ (condition left ++ style.gap ++ style.keyword .or ++ style.gap ++ condition right) ++ ")"
  | .not operand => "(" ++ (style.keyword .not ++ style.gap ++ condition operand) ++ ")"
  | .bare | .misfit _ => []

theorem isNameStart_of_lowerLatin {c : CodePoint} (h : 97 ≤ (Text.lowerLatin c).val)
    (h' : (Text.lowerLatin c).val ≤ 122) : Shape.isNameStart c := by
  simp only [Shape.isNameStart, Bool.or_eq_true, Bool.and_eq_true, decide_eq_true_eq]
  unfold Text.lowerLatin at h h'
  split at h
  · next hupper => exact Or.inl (Or.inl hupper)
  · next hupper =>
    rw [if_neg hupper] at h'
    exact Or.inl (Or.inr ⟨h,h'⟩)

theorem isNameStart_of_mem_keyword {k : Keyword} {c : CodePoint} (h : c ∈ style.keyword k) :
    Shape.isNameStart c := by
  have hletters : ∀ k : Keyword, k.spelling.all fun c => 97 ≤ c.val && c.val ≤ 122 := by
    intro k
    cases k <;> rfl
  have hlower : k.spelling = (style.keyword k).map Text.lowerLatin := by
    simpa using List.find?_some (style.isKeyword k)
  have hall := hletters k
  rw [hlower, List.all_map, List.all_eq_true] at hall
  have hc := hall c h
  simp only [Function.comp_apply, Bool.and_eq_true, decide_eq_true_eq] at hc
  exact isNameStart_of_lowerLatin hc.1 hc.2

theorem keyword_ne_nil (k : Keyword) : style.keyword k ≠ [] := by
  intro hnil
  have hkeyword := style.isKeyword k
  rw [hnil] at hkeyword
  cases k <;> cases hkeyword

theorem spells_keyword (k : Keyword) : Spells (style.keyword k) [.keyword k (style.keyword k)] := by
  have hstart : ∀ c ∈ style.keyword k, Shape.isNameStart c := fun c => style.isNameStart_of_mem_keyword
  have hkeyword := style.isKeyword k
  cases hname : style.keyword k with
  | nil => exact absurd hname (style.keyword_ne_nil k)
  | cons c word =>
    rw [hname, List.forall_mem_cons] at hstart
    rw [hname] at hkeyword
    apply spells_name hstart.1
    · intro d hd
      simp [Shape.isNamePart, hstart.2 d hd]
    · simp [Shape.convert, hkeyword]

theorem spells_identifier {name : Text} (h : name.IsIdentifier) : Spells name [.identifier name] := by
  obtain ⟨⟨c,word,rfl,hc,hword⟩,hkeyword⟩ := h
  apply spells_name hc (List.all_eq_true.mp hword)
  simp [Shape.convert, hkeyword]

theorem spells_gap {s t : Text} {us vs : List Word} (hs : Spells s us) (ht : Spells t vs) :
    Spells (s ++ style.gap ++ t) (us ++ vs) := hs.append ht style.gap_ne_nil style.isGap

theorem exists_literal {op : Operator} {v : Value} (h : v.IsWritable op) :
    ∃ ws, WritesLiteral ws v ∧ Spells (style.literal v) ws := by
  cases h with
  | @int n h =>
    cases n with
    | ofNat n => exact ⟨_,.integer n,spells_integer h⟩
    | negSucc n => exact ⟨_,.negativeInteger (n + 1),(spells_integer h).minus⟩
  | text t => exact ⟨_,.string t,spells_string t⟩
  | bool b =>
    cases b with
    | true => exact ⟨_,.true _,style.spells_keyword .true⟩
    | false => exact ⟨_,.false _,style.spells_keyword .false⟩
  | none h => exact ⟨_,.null _,style.spells_keyword .null⟩

theorem exists_words {c : Condition Value} (h : c.IsWritable) :
    ∃ ws, Writes .atom ws c ∧ Spells (style.condition c) ws := by
  induction c with
  | comparison name op v =>
    obtain ⟨hname,hv⟩ := h
    obtain ⟨ws,hwrites,hspells⟩ := style.exists_literal hv
    refine ⟨_,.comparison name (style.means op) hwrites ?_,?_⟩
    · rintro rfl
      cases hv with
      | none h => cases op <;> simp [Operator.isOrdering] at h ⊢
    · have hwords := style.spells_gap (style.spells_gap (spells_identifier hname) (spells_sign (style.sign op))) hspells
      simpa [condition] using hwords
  | nullCheck name isNull =>
    have his := style.spells_gap (spells_identifier h) (style.spells_keyword .is)
    cases isNull with
    | true =>
      refine ⟨_,.isNull name (style.keyword .is) (style.keyword .null),?_⟩
      simpa [condition] using style.spells_gap his (style.spells_keyword .null)
    | false =>
      refine ⟨_,.isNotNull name (style.keyword .is) (style.keyword .not) (style.keyword .null),?_⟩
      simpa [condition] using
        style.spells_gap (style.spells_gap his (style.spells_keyword .not)) (style.spells_keyword .null)
  | isTrue name => exact ⟨_,.isTrue name,spells_identifier h⟩
  | and left right ihl ihr =>
    obtain ⟨us,hl,hus⟩ := ihl h.1
    obtain ⟨vs,hr,hvs⟩ := ihr h.2
    have hleft : Writes .conjunction us left := .ofNegation (.ofAtom hl)
    have hwords := (style.spells_gap (style.spells_gap hus (style.spells_keyword .and)) hvs).paren
    refine ⟨_,.paren (.ofConjunction (.and hleft (style.keyword .and) (.ofAtom hr))),?_⟩
    simpa [condition] using hwords
  | or left right ihl ihr =>
    obtain ⟨us,hl,hus⟩ := ihl h.1
    obtain ⟨vs,hr,hvs⟩ := ihr h.2
    have hleft : Writes .disjunction us left := .ofConjunction (.ofNegation (.ofAtom hl))
    have hwords := (style.spells_gap (style.spells_gap hus (style.spells_keyword .or)) hvs).paren
    refine ⟨_,.paren (.or hleft (style.keyword .or) (.ofNegation (.ofAtom hr))),?_⟩
    simpa [condition] using hwords
  | not operand ih =>
    obtain ⟨ws,hwrites,hws⟩ := ih h
    have hwords := (style.spells_gap (style.spells_keyword .not) hws).paren
    refine ⟨_,.paren (.ofConjunction (.ofNegation (.not (style.keyword .not) (.ofAtom hwrites)))),?_⟩
    simpa [condition] using hwords
  | bare => exact h.elim
  | misfit v => exact h.elim

/-- A condition is read from the text that it is written as, in every style. -/
theorem ofPredicate_condition {c : Condition Value} (h : c.IsWritable) :
    Condition.ofPredicate (style.condition c) = .ok c := by
  obtain ⟨ws,hwrites,hspells⟩ := style.exists_words h
  obtain ⟨tokens,hscan,rfl⟩ := hspells.scan_eq
  have hc : Writes .disjunction (tokens.map (·.word)) c := .ofConjunction (.ofNegation (.ofAtom hwrites))
  rcases Condition.ofPredicate_eq hscan with ⟨d,hd,hok⟩ | ⟨hnone,_⟩
  · rw [hok, Condition.writes_unique hd hc]
  · exact absurd hc (hnone c)

end Style

namespace Condition

def thorough : Condition Value :=
  .or (.and (.comparison "name" .ne (.text [0x5C,0x22,0xD800])) (.nullCheck "is_known" false))
    (.not (.and (.comparison "age" .ge (.int (-42)))
      (.or (.isTrue "Active2") (.and (.comparison "nick" .lt .none) (.comparison "old" .eq (.bool true))))))

theorem ofPredicate_thorough :
    thorough.IsWritable ∧ ofPredicate (Style.plain.condition thorough) = .ok thorough := by
  have hname : Text.IsIdentifier "name" := ⟨⟨_,_,rfl,rfl,rfl⟩,rfl⟩
  have hknown : Text.IsIdentifier "is_known" := ⟨⟨_,_,rfl,rfl,rfl⟩,rfl⟩
  have hage : Text.IsIdentifier "age" := ⟨⟨_,_,rfl,rfl,rfl⟩,rfl⟩
  have hactive : Text.IsIdentifier "Active2" := ⟨⟨_,_,rfl,rfl,rfl⟩,rfl⟩
  have hnick : Text.IsIdentifier "nick" := ⟨⟨_,_,rfl,rfl,rfl⟩,rfl⟩
  have hold : Text.IsIdentifier "old" := ⟨⟨_,_,rfl,rfl,rfl⟩,rfl⟩
  have hwritable : thorough.IsWritable :=
    ⟨⟨⟨hname,.text _⟩,hknown⟩,⟨hage,.int (by decide +kernel)⟩,hactive,⟨hnick,.none rfl⟩,hold,.bool true⟩
  exact ⟨hwritable,Style.plain.ofPredicate_condition hwritable⟩

end Condition
end SealedRows
