import SealedRows.Proofs.Condition.Parsed
import SealedRows.Proofs.Text.Numeral

/-! # Predicates

The text of a predicate is divided into words, and the words are read. A text of blanks is refused before
that, which is no exception: no word begins with a blank, so such a text has no words, and no condition
is written without words.
-/
namespace SealedRows

/-- Words are taken up to the first one that can't stand at its place. -/
theorem ParseState.takeAll_eq (s : ParseState) (tokens : List Token) :
    (∃ t, s.reads (tokens.map (·.word)) = some t ∧ s.takeAll tokens = .ok t) ∨
      s.reads (tokens.map (·.word)) = none ∧ ∃ token, s.takeAll tokens = .error (.unexpected token) := by
  induction tokens generalizing s with
  | nil => exact Or.inl ⟨s,rfl,rfl⟩
  | cons token rest ih =>
    rw [List.map_cons, reads_cons, takeAll]
    cases s.next? token.word with
    | none => exact Or.inr ⟨rfl,token,rfl⟩
    | some t => exact ih t

theorem CodePoint.isBlank_of_isDigit {c : CodePoint} (h : c.isDigit) : c.isBlank = false := by
  have hrows : ∀ z ∈ zeros, ∀ i < 10, (ofNat (z + i)).isBlank = false := by decide +kernel
  obtain ⟨z,hz,i,hi,rfl⟩ := exists_zero_of_isDigit h
  exact hrows z hz i hi

theorem CodePoint.isBlank_of_isNameStart {c : CodePoint} (h : Shape.isNameStart c) :
    c.isBlank = false := by
  have hscore : ('_' : CodePoint).val = 95 := rfl
  simp only [Shape.isNameStart, Bool.or_eq_true, Bool.and_eq_true, decide_eq_true_eq, Fin.ext_iff,
    hscore] at h
  simp only [isBlank, isLatinBlank, isWideBlank, Bool.or_eq_false_iff, Bool.and_eq_false_iff,
    beq_eq_false_iff_ne, decide_eq_false_iff_not]
  omega

theorem Sign.first?_of_isBlank {c : CodePoint} (h : c.isBlank) (rest : Text) :
    first? (c :: rest) = none := by
  have hspelling : ∀ s : Sign, ∃ a tail, s.spelling = a :: tail ∧ a.isBlank = false := by
    intro s
    cases s <;> exact ⟨_,_,rfl,by decide⟩
  refine List.find?_eq_none.mpr fun s _ hbegins => ?_
  obtain ⟨a,tail,hs,ha⟩ := hspelling s
  rw [hs, List.isPrefixOf_cons_cons, Bool.and_eq_true, beq_iff_eq] at hbegins
  rw [hbegins.1, h] at ha
  cases ha

theorem Shape.first?_of_isBlank {c : CodePoint} (h : c.isBlank) (rest : Text) :
    first? c rest = none := by
  have hdigit : ¬c.isDigit := fun hd => by simp [CodePoint.isBlank_of_isDigit hd] at h
  have hname : ¬isNameStart c := fun hn => by simp [CodePoint.isBlank_of_isNameStart hn] at h
  have hquote : c ≠ '"' := by
    rintro rfl
    exact absurd h (by decide)
  rw [first?, if_neg hdigit, if_neg hquote, if_neg hname, Sign.first?_of_isBlank h, Option.map_none]

theorem Token.scanFrom_of_blank {t : Text} (h : t.all CodePoint.isBlank) (position : Nat) :
    (scanFrom position t).1 = [] := by
  induction t generalizing position with
  | nil => rw [scanFrom]
  | cons c rest ih =>
    obtain ⟨hc,hrest⟩ := Bool.and_eq_true_iff.mp h
    rw [scanFrom, Shape.first?_of_isBlank hc]
    split
    · exact ih hrest (position + 1)
    · rfl

namespace Condition
open ParseState

theorem ofTokens_of_ok {tokens : List Token} {s : ParseState} (h : start.takeAll tokens = .ok s) :
    ofTokens tokens none =
      match s.result? with
      | some c => .ok c
      | none => .error .unexpectedEnd := by
  rw [ofTokens, h]
  rfl

/-- Words are refused unless they write a condition. -/
theorem ofTokens_eq (tokens : List Token) :
    (∃ c, Writes .disjunction (tokens.map (·.word)) c ∧ ofTokens tokens none = .ok c) ∨
      (∀ c, ¬Writes .disjunction (tokens.map (·.word)) c) ∧ ∃ fault,
        ofTokens tokens none = .error fault ∧ ∀ b, fault ≠ .unreadable b := by
  simp only [← reads_result_iff]
  rcases start.takeAll_eq tokens with ⟨s,hreads,htake⟩ | ⟨hreads,token,htake⟩
  · rw [hreads, Option.bind_some, ofTokens_of_ok htake]
    cases s.result? with
    | some c => exact Or.inl ⟨c,rfl,rfl⟩
    | none => exact Or.inr ⟨nofun,_,rfl,nofun⟩
  · rw [hreads, Option.bind_none]
    exact Or.inr ⟨nofun,.unexpected token,by rw [ofTokens, htake]; rfl,nofun⟩

theorem report_malformed (t : Text) {fault : SyntaxFault} (h : ∀ b, fault ≠ .unreadable b) :
    ∃ message, (PredicateFault.malformed t fault).report = .error .predicateSyntax message none := by
  cases fault with
  | unreadable b => exact absurd rfl (h b)
  | _ => exact ⟨_,rfl⟩

/-- A blank text has no words and is refused before it is read. -/
theorem ofPredicate_eq {t : Text} {tokens : List Token} (h : Token.scan t = (tokens,none)) :
    (∃ c, Writes .disjunction (tokens.map (·.word)) c ∧ ofPredicate t = .ok c) ∨
      (∀ c, ¬Writes .disjunction (tokens.map (·.word)) c) ∧ ∃ fault message,
        ofPredicate t = .error fault ∧ fault.report = .error .predicateSyntax message none := by
  have htext : ofText t = ofTokens tokens none := by rw [ofText, h]
  unfold ofPredicate
  rw [htext]
  by_cases hblank : t.all CodePoint.isBlank
  · have hscan := Token.scanFrom_of_blank hblank 0
    rw [← Token.scan, h] at hscan
    cases hscan
    rw [if_pos hblank]
    rcases ofTokens_eq [] with ⟨_,_,hok⟩ | ⟨hnone,_⟩
    · cases hok
    · exact Or.inr ⟨hnone,_,_,rfl,rfl⟩
  · rw [if_neg hblank]
    rcases ofTokens_eq tokens with ⟨c,hc,hok⟩ | ⟨hnone,fault,herror,hfault⟩
    · exact Or.inl ⟨c,hc,by rw [hok]⟩
    · obtain ⟨message,hmessage⟩ := report_malformed t hfault
      exact Or.inr ⟨hnone,_,message,by rw [herror],hmessage⟩

/-- Words write at most one condition. -/
theorem writes_unique {ws : List Word} {c d : Condition Value} (hc : Writes .disjunction ws c)
    (hd : Writes .disjunction ws d) : c = d :=
  Option.some_inj.mp ((reads_result_iff.mpr hc).symm.trans (reads_result_iff.mpr hd))

/-- A text that divides into words is read as the one condition that they write, and is refused as
malformed if they write none. -/
theorem ofPredicate_iff_writes {t : Text} {tokens : List Token} (h : Token.scan t = (tokens,none)) :
    (∀ c, ofPredicate t = .ok c ↔ Writes .disjunction (tokens.map (·.word)) c) ∧
      (∀ c d, Writes .disjunction (tokens.map (·.word)) c →
        Writes .disjunction (tokens.map (·.word)) d → c = d) ∧
      ((∀ c, ¬Writes .disjunction (tokens.map (·.word)) c) → ∃ fault message,
        ofPredicate t = .error fault ∧ fault.report = .error .predicateSyntax message none) := by
  refine ⟨fun d => ?_,fun _ _ => writes_unique,fun hnone => ?_⟩
  · rcases ofPredicate_eq h with ⟨c,hc,hok⟩ | ⟨hnone,fault,_,herror,_⟩
    · rw [hok, Except.ok.injEq]
      exact ⟨fun hcd => hcd ▸ hc,writes_unique hc⟩
    · rw [herror]
      exact ⟨nofun,fun hd => absurd hd (hnone d)⟩
  · rcases ofPredicate_eq h with ⟨c,hc,_⟩ | ⟨_,hrefused⟩
    · exact absurd hc (hnone c)
    · exact hrefused

set_option maxRecDepth 4000 in
/-- The condition of a text with a name, a comparison with a number below zero and an `or`. -/
theorem ofPredicate_name_or_comparison :
    ofPredicate "a or b<>-1" = .ok (.or (.isTrue "a") (.comparison "b" .ne (.int (-1)))) := by
  have hscan : Token.scan "a or b<>-1" = ([⟨.identifier "a",0⟩,⟨.keyword .or "or",2⟩,
      ⟨.identifier "b",5⟩,⟨.sign .angles,6⟩,⟨.sign .minus,8⟩,⟨.integer 1,9⟩],none) := by decide +kernel
  refine ((ofPredicate_iff_writes hscan).1 _).mpr ?_
  exact .or (.ofConjunction (.ofNegation (.ofAtom (.isTrue "a")))) "or"
    (.ofNegation (.ofAtom (.comparison "b" .angles (.negativeInteger 1) nofun)))

end Condition
end SealedRows
