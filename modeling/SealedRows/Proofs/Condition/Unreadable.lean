import SealedRows.Proofs.Condition.Scanned

/-! # Predicates that are not told as malformed

A text that is no condition is refused as malformed, with two exceptions. An integer with too many digits
and a literal whose contents stand for no text can't be converted, and the fault of the conversion gets
through as it is. That happens where such a piece is the first one to which there is any objection.
-/
namespace SealedRows

open Shape Numeral

/-! ## Shapes -/

namespace Shape

theorem take_digits (t : Text) : t.take (digits t) = t.takeWhile CodePoint.isDigit := by
  calc t.take (digits t)
      = (t.takeWhile CodePoint.isDigit ++ t.dropWhile CodePoint.isDigit).take
          (t.takeWhile CodePoint.isDigit).length := by
        rw [List.takeWhile_append_dropWhile, digits]
    _ = t.takeWhile CodePoint.isDigit := List.take_left

theorem drop_digits (t : Text) : t.drop (digits t) = t.dropWhile CodePoint.isDigit := by
  calc t.drop (digits t)
      = (t.takeWhile CodePoint.isDigit ++ t.dropWhile CodePoint.isDigit).drop
          (t.takeWhile CodePoint.isDigit).length := by
        rw [List.takeWhile_append_dropWhile, digits]
    _ = t.dropWhile CodePoint.isDigit := List.drop_left

theorem isDigit_of_mem_take {t : Text} {c : CodePoint} (h : c ∈ t.take (digits t)) : c.isDigit := by
  rw [take_digits] at h
  exact List.all_eq_true.mp List.all_takeWhile c h

theorem isDigit_of_head_drop (t : Text) : ∀ c ∈ (t.drop (digits t)).head?, c.isDigit = false := by
  intro c hc
  rw [drop_digits] at hc
  have hstop := List.head?_dropWhile_not CodePoint.isDigit t
  rw [hc] at hstop
  simpa using hstop

theorem power_cases (t : Text) : power t = 0 ∨ ∃ e sign rest, t = e :: (sign ++ rest) ∧
    (e = 'e' ∨ e = 'E') ∧
    (sign = [] ∨ sign = [CodePoint.ofChar '+'] ∨ sign = [CodePoint.ofChar '-']) ∧
    digits rest ≠ 0 ∧ power t = 1 + sign.length + digits rest := by
  rcases t with _ | ⟨e,_ | ⟨d,rest⟩⟩
  · exact Or.inl rfl
  · exact Or.inl (by simp [power, digits])
  · by_cases hletter : e = 'e' ∨ e = 'E'
    · by_cases hsign : d = '+' ∨ d = '-'
      · by_cases hdigits : digits rest = 0
        · exact Or.inl (by simp [power, hsign, hdigits])
        · refine Or.inr ⟨e,[d],rest,rfl,hletter,?_,hdigits,by simp [power, hletter, hsign, hdigits]⟩
          rcases hsign with rfl | rfl <;> simp
      · by_cases hdigits : digits (d :: rest) = 0
        · exact Or.inl (by simp [power, hsign, hdigits])
        · exact Or.inr ⟨e,[],d :: rest,rfl,hletter,Or.inl rfl,hdigits,
            by simp [power, hletter, hsign, hdigits]⟩
    · exact Or.inl (by simp [power, hletter])

theorem isPower_take_power (t : Text) : IsPower (t.take (power t)) := by
  rcases power_cases t with hzero | ⟨e,sign,rest,rfl,hletter,hsign,hdigits,hpower⟩
  · rw [hzero]
    exact .nil
  · have htake : (e :: (sign ++ rest)).take (1 + sign.length + digits rest) =
        e :: (sign ++ rest.take (digits rest)) := by
      rw [Nat.add_assoc, Nat.add_comm 1, List.take_succ_cons, List.take_length_add_append]
    have hne : rest.take (digits rest) ≠ [] := by
      rw [take_digits, ← List.length_pos_iff]
      exact Nat.pos_of_ne_zero hdigits
    rw [hpower, htake]
    exact .digits hletter hsign hne fun c => isDigit_of_mem_take

theorem exists_of_fraction {t : Text} (h : fraction t ≠ 0) :
    ∃ rest, t = CodePoint.ofChar '.' :: rest ∧ fraction t = 1 + digits rest := by
  cases t with
  | nil => exact absurd rfl h
  | cons c rest =>
    by_cases hpoint : c = '.' ∧ 0 < digits rest
    · obtain ⟨rfl,hdigits⟩ := hpoint
      exact ⟨rest,rfl,by simp [fraction, hdigits]⟩
    · simp [fraction, hpoint] at h

/-- The digits on both sides of a point, in front of what doesn't belong to them. -/
theorem exists_double {t : Text} (h : fraction (t.drop (digits t)) ≠ 0) : ∃ whole places tail,
    t = whole ++ CodePoint.ofChar '.' :: (places ++ tail) ∧ (∀ c ∈ whole, c.isDigit) ∧
      (∀ c ∈ places, c.isDigit) ∧ digits t = whole.length ∧
      fraction (t.drop (digits t)) = 1 + places.length := by
  obtain ⟨rest,htail,hfraction⟩ := exists_of_fraction h
  refine ⟨t.takeWhile CodePoint.isDigit,rest.takeWhile CodePoint.isDigit,
    rest.dropWhile CodePoint.isDigit,?_,?_,?_,rfl,hfraction⟩
  · rw [List.takeWhile_append_dropWhile, ← htail, drop_digits, List.takeWhile_append_dropWhile]
  · exact List.all_eq_true.mp List.all_takeWhile
  · exact List.all_eq_true.mp List.all_takeWhile

theorem take_double (whole places tail : Text) :
    (whole ++ CodePoint.ofChar '.' :: (places ++ tail)).take
        (whole.length + (1 + places.length) + power tail) =
      whole ++ CodePoint.ofChar '.' :: (places ++ tail.take (power tail)) := by
  rw [Nat.add_assoc, List.take_length_add_append, Nat.add_assoc, Nat.add_comm 1, List.take_succ_cons,
    List.take_length_add_append]

theorem drop_double (whole places tail : Text) :
    (whole ++ CodePoint.ofChar '.' :: (places ++ tail)).drop (whole.length + (1 + places.length)) =
      tail := by
  rw [List.drop_length_add_append, Nat.add_comm 1, List.drop_succ_cons, List.drop_left]

end Shape

namespace Token

/-- A piece of text that has the shape of a word and can't be converted, in front of a rest that doesn't
belong to it. -/
inductive Unreadable : Text → Text → Breakdown → Prop where
  | integer {c : CodePoint} (hc : c.isDigit) {ds rest : Text} (hds : ∀ d ∈ ds, d.isDigit)
      (hrest : ∀ d ∈ rest.head?, d.isDigit = false) (hpoint : fraction rest = 0)
      (hlong : maxIntegerDigits < (c :: ds).length) : Unreadable (c :: ds) rest .wrongValue
  | string {contents : Text} (h : IsContents contents) (hnone : Text.ofLiteral? contents = none)
      (rest : Text) : Unreadable ('"' :: (contents ++ "\"")) rest .undecodable

theorem exists_contents {t : Text} {n : Nat} (h : contents? t = some n) :
    ∃ contents rest, IsContents contents ∧ t = contents ++ CodePoint.ofChar '"' :: rest ∧
      contents.length = n := by
  fun_induction contents? t generalizing n with
  | case1 => cases h
  | case2 =>
    cases h
    exact ⟨[],[],.nil,rfl,rfl⟩
  | case3 => cases h
  | case4 d rest =>
    cases h
    exact ⟨[],d :: rest,.nil,rfl,rfl⟩
  | case5 => cases h
  | case6 d rest hbreak _ ih =>
    obtain ⟨m,hm,rfl⟩ := Option.map_eq_some_iff.mp h
    obtain ⟨contents,tail,his,rfl,rfl⟩ := ih hm
    exact ⟨_,tail,.escape hbreak his,rfl,rfl⟩
  | case7 c d rest hquote hslash ih =>
    obtain ⟨m,hm,rfl⟩ := Option.map_eq_some_iff.mp h
    obtain ⟨contents,tail,his,ht,rfl⟩ := ih hm
    exact ⟨_,tail,.point hquote hslash his,by rw [ht, List.cons_append],rfl⟩

theorem convert_double {c : CodePoint} {whole places tail : Text} (hc : c.isDigit)
    (hwhole : ∀ d ∈ whole, d.isDigit) (hplaces : ∀ d ∈ places, d.isDigit) (htail : IsPower tail) :
    ∃ x, Shape.float.convert (c :: (whole ++ CodePoint.ofChar '.' :: (places ++ tail))) =
      .ok (.float x) := by
  have hsome := Double.isSome_ofText? (List.cons_ne_nil c whole) (List.forall_mem_cons.mpr ⟨hc,hwhole⟩)
    hplaces htail
  obtain ⟨x,hx⟩ := Option.isSome_iff_exists.mp hsome
  rw [List.cons_append] at hx
  exact ⟨x,by simp [convert, hx]⟩

theorem unreadable_of_convert_integer {c : CodePoint} {rest : Text} {b : Breakdown} (hc : c.isDigit)
    (hpoint : fraction (rest.drop (digits rest)) = 0)
    (h : Shape.integer.convert (c :: rest.take (digits rest)) = .error b) :
    Unreadable (c :: rest.take (digits rest)) (rest.drop (digits rest)) b := by
  have hwhole : ∀ d ∈ rest.take (digits rest), d.isDigit := fun _ => isDigit_of_mem_take
  have hread := intOfText?_of_isDigit (List.cons_ne_nil c _) (List.forall_mem_cons.mpr ⟨hc,hwhole⟩)
  simp only [convert, hread] at h
  split at h
  · cases h
  · next hnone =>
    cases h
    exact .integer hc hwhole (isDigit_of_head_drop rest) hpoint (by simpa using hnone)

theorem unreadable_of_convert_string {rest : Text} {n : Nat} {b : Breakdown} (hcontents : contents? rest = some n)
    (h : Shape.string.convert ('"' :: rest.take (n + 1)) = .error b) :
    Unreadable ('"' :: rest.take (n + 1)) (rest.drop (n + 1)) b := by
  obtain ⟨contents,tail,his,rfl,rfl⟩ := exists_contents hcontents
  have htext : contents ++ CodePoint.ofChar '"' :: tail = contents ++ "\"" ++ tail := by
    rw [List.append_assoc]
    rfl
  have hlength : contents.length + 1 = (contents ++ "\"").length := by
    rw [List.length_append]
    rfl
  rw [htext, hlength, List.take_left] at h
  rw [htext, hlength, List.take_left, List.drop_left]
  rw [convert_string] at h
  split at h
  · cases h
  · next hnone =>
    cases h
    exact .string his hnone tail

theorem unreadable_of_convert {c : CodePoint} {rest : Text} {shape : Shape} {n : Nat} {b : Breakdown}
    (hfirst : first? c rest = some (shape,n)) (h : shape.convert (c :: rest.take n) = .error b) :
    Unreadable (c :: rest.take n) (rest.drop n) b := by
  unfold first? at hfirst
  split at hfirst
  · next hdigit =>
    dsimp only at hfirst
    split at hfirst
    · next hpoint =>
      cases hfirst
      exact unreadable_of_convert_integer hdigit hpoint h
    · next hpoint =>
      cases hfirst
      obtain ⟨whole,places,tail,hrest,hwhole,hplaces,hlength,hlength'⟩ := exists_double hpoint
      obtain ⟨x,hx⟩ := convert_double hdigit hwhole hplaces (isPower_take_power tail)
      rw [hlength', hlength, hrest, drop_double, take_double, hx] at h
      cases h
  · split at hfirst
    · next hquote =>
      obtain ⟨length,hcontents,hpair⟩ := Option.map_eq_some_iff.mp hfirst
      cases hpair
      rw [hquote] at h ⊢
      exact unreadable_of_convert_string hcontents h
    · split at hfirst
      · cases hfirst
        simp only [convert] at h
        split at h <;> cases h
      · obtain ⟨s,_,hpair⟩ := Option.map_eq_some_iff.mp hfirst
        cases hpair
        cases h

theorem Unreadable.exists_cons {spelling rest : Text} {b : Breakdown} (h : Unreadable spelling rest b) :
    ∃ c word, spelling = c :: word ∧ c.isBlank = false := by
  cases h with
  | integer hc => exact ⟨_,_,rfl,CodePoint.isBlank_of_isDigit hc⟩
  | string => exact ⟨_,_,rfl,by decide⟩

theorem Unreadable.scanFrom_eq {spelling rest : Text} {b : Breakdown} (h : Unreadable spelling rest b)
    (position : Nat) : scanFrom position (spelling ++ rest) = ([],some (.unreadable b)) := by
  cases h with
  | @integer c hc ds _ hds hrest hpoint hlong =>
    have hread := intOfText?_of_isDigit (List.cons_ne_nil c ds) (List.forall_mem_cons.mpr ⟨hc,hds⟩)
    rw [if_pos hlong] at hread
    have hconvert : Shape.integer.convert (c :: ds) = .error .wrongValue := by simp [convert, hread]
    rw [List.cons_append, scanFrom]
    simp [isGap_of_isDigit hc, first?_integer hc hds hrest hpoint, hconvert]
  | @string contents hcontents hnone =>
    have hgap : isGap '"' = false := by decide
    have hconvert := convert_string contents
    rw [hnone] at hconvert
    rw [List.cons_append, scanFrom, if_neg (by simp [hgap]), first?_string hcontents rest]
    dsimp only
    rw [List.take_left, hconvert]

/-- Where scanning ends with a piece that can't be converted, all in front of it are words. -/
theorem exists_unreadable {position : Nat} {t : Text} {tokens : List Token} {b : Breakdown}
    (h : scanFrom position t = (tokens,some (.unreadable b))) : ∃ spelling rest,
    Divides t (tokens.map (·.word)) (spelling ++ rest) ∧ Unreadable spelling rest b := by
  fun_induction scanFrom position t generalizing tokens with
  | case1 => cases h
  | case2 position c t hgap ih =>
    obtain ⟨spelling,rest,hwords,hbad⟩ := ih h
    exact ⟨spelling,rest,.gap hgap hwords,hbad⟩
  | case3 => cases h
  | case4 position c t hgap shape n hfirst b hconvert =>
    cases h
    refine ⟨_,t.drop n,?_,unreadable_of_convert hfirst hconvert⟩
    rw [List.cons_append, List.take_append_drop]
    exact .nil (c :: t)
  | case5 position c t hgap shape n hfirst word hconvert tokens fault hscan ih =>
    cases h
    obtain ⟨spelling,rest,hwords,hbad⟩ := ih hscan
    exact ⟨spelling,rest,.word (by simpa using hgap) hfirst hconvert hwords,hbad⟩

end Token

/-! ## Words that begin a condition -/

namespace ParseState

def Begins (ws : List Word) : Prop := ∃ more c, Writes .disjunction (ws ++ more) c

theorem Begins.of_append {ws more : List Word} (h : Begins (ws ++ more)) : Begins ws := by
  obtain ⟨rest,c,hc⟩ := h
  rw [List.append_assoc] at hc
  exact ⟨_,c,hc⟩

theorem begins_of_writes {ws : List Word} {c : Condition Value} (h : Writes .disjunction ws c) :
    Begins ws := ⟨[],c,by rwa [List.append_nil]⟩

/-- A condition can be completed for all contexts that it may be given to: the words that are missing are
closing parentheses. -/
theorem Opens.begins {us : List Word} {k : List ParseContext} (h : Opens us k) :
    (∀ vs c, Writes .negation vs c → Begins (us ++ vs)) ∧
      (Loose k → ∀ vs c, Writes .conjunction vs c → Begins (us ++ vs)) ∧
        (Enclosed k → ∀ vs c, Writes .disjunction vs c → Begins (us ++ vs)) := by
  induction h with
  | nil =>
    exact ⟨fun vs c hc => begins_of_writes (.ofConjunction (.ofNegation hc)),
      fun _ vs c hc => begins_of_writes (.ofConjunction hc),fun _ vs c => begins_of_writes⟩
  | @paren us k _ ih =>
    have hclosed : ∀ vs c, Writes .disjunction vs c → Begins (us ++ [.sign .leftParen] ++ vs) := by
      intro vs c hc
      have hbegins : Begins (us ++ [.sign .leftParen] ++ vs ++ [.sign .rightParen]) := by
        simpa using ih.1 _ c (.ofAtom (.paren hc))
      exact hbegins.of_append
    exact ⟨fun vs c hc => hclosed vs c (.ofConjunction (.ofNegation hc)),
      fun _ vs c hc => hclosed vs c (.ofConjunction hc),fun _ => hclosed⟩
  | @not us k _ spelling ih =>
    refine ⟨?_,by rintro ⟨⟨⟩⟩,nofun⟩
    intro vs c hc
    simpa using ih.1 _ _ (.not spelling hc)
  | @and us ws k a _ hk ha spelling ih =>
    refine ⟨?_,by rintro ⟨⟨⟩⟩,nofun⟩
    intro vs c hc
    simpa using ih.2.1 hk _ _ (.and ha spelling hc)
  | @or us ws k a _ hk ha spelling ih =>
    have hor : ∀ vs c, Writes .conjunction vs c → Begins (us ++ (ws ++ [.keyword .or spelling]) ++ vs) := by
      intro vs c hc
      simpa using ih.2.2 hk _ _ (.or ha spelling hc)
    exact ⟨fun vs c hc => hor vs c (.ofNegation hc),fun _ => hor,nofun⟩

theorem Leads.begins {ws : List Word} {s : ParseState} (h : Leads ws s) : Begins ws := by
  rcases s with ⟨k,stage⟩
  obtain ⟨us,vs,rfl,hk,hstage⟩ := h
  have hatom : ∀ more c, Writes .atom (vs ++ more) c → Begins (us ++ vs) := by
    intro more c hc
    have hbegins : Begins (us ++ vs ++ more) := by
      rw [List.append_assoc]
      exact hk.begins.1 _ c (.ofAtom hc)
    exact hbegins.of_append
  cases hstage with
  | operand => exact hatom [.identifier []] _ (.isTrue [])
  | field _ name => exact hatom [] _ (.isTrue name)
  | literal _ field hs => exact hatom [.integer 0] _ (.comparison field hs (.integer 0) nofun)
  | negative _ field hs => exact hatom [.integer 0] _ (.comparison field hs (.negativeInteger 0) nofun)
  | nullness _ field is => exact hatom [.keyword .null []] _ (.isNull field is [])
  | notNull _ field is not => exact hatom [.keyword .null []] _ (.isNotNull field is not [])
  | complete hloose hc => exact hk.begins.2.1 hloose _ _ hc

/-- Words can be taken exactly if some condition begins with them. -/
theorem exists_reads_iff {ws : List Word} : (∃ s, start.reads ws = some s) ↔ Begins ws := by
  constructor
  · rintro ⟨s,hs⟩
    have hstart : Leads [] start := ⟨[],[],rfl,.nil,.operand []⟩
    exact (leads_reads hstart hs).begins
  · rintro ⟨more,c,hc⟩
    obtain ⟨t,ht,_⟩ := Option.bind_eq_some_iff.mp (reads_result_iff.mpr hc)
    rw [reads_append] at ht
    obtain ⟨s,hs,_⟩ := Option.bind_eq_some_iff.mp ht
    exact ⟨s,hs⟩

end ParseState

/-! ## Predicates -/

namespace Condition
open ParseState

/-- Whether a text is broken off, with the given fault, at a piece that can't be converted. -/
def BreaksOff (t : Text) (b : Breakdown) : Prop :=
  ∃ ws spelling rest, Token.Divides t ws (spelling ++ rest) ∧ Begins ws ∧
    Token.Unreadable spelling rest b

theorem ofTokens_unreadable_iff {tokens : List Token} {fault : Option SyntaxFault} {b : Breakdown} :
    ofTokens tokens fault = .error (.unreadable b) ↔
      fault = some (.unreadable b) ∧ Begins (tokens.map (·.word)) := by
  rw [← exists_reads_iff]
  rcases start.takeAll_eq tokens with ⟨s,hreads,htake⟩ | ⟨hreads,token,htake⟩
  · cases fault with
    | some fault =>
      have hbind : ofTokens tokens (some fault) = .error fault := by
        rw [ofTokens, htake]
        rfl
      simp [hbind, hreads]
    | none =>
      cases hresult : s.result? <;> simp [ofTokens, htake, hresult, bind, Except.bind]
  · have hbind : ofTokens tokens fault = .error (.unexpected token) := by
      rw [ofTokens, htake]
      rfl
    simp [hbind, hreads]

theorem ofText_unreadable_iff {t : Text} {b : Breakdown} :
    ofText t = .error (.unreadable b) ↔ BreaksOff t b := by
  rcases hscan : Token.scan t with ⟨tokens,fault⟩
  have htext : ofText t = ofTokens tokens fault := by rw [ofText, hscan]
  rw [htext, ofTokens_unreadable_iff]
  constructor
  · rintro ⟨rfl,hbegins⟩
    obtain ⟨spelling,rest,hwords,hbad⟩ := Token.exists_unreadable hscan
    exact ⟨_,spelling,rest,hwords,hbegins,hbad⟩
  · rintro ⟨ws,spelling,rest,hwords,hbegins,hbad⟩
    obtain ⟨front,position,rfl,hfront⟩ := hwords.scanFrom_eq 0
    rw [hbad.scanFrom_eq, List.append_nil] at hfront
    rw [Token.scan, hfront] at hscan
    cases hscan
    exact ⟨rfl,hbegins⟩

theorem BreaksOff.not_blank {t : Text} {b : Breakdown} (h : BreaksOff t b) :
    ¬t.all CodePoint.isBlank := by
  intro hblank
  obtain ⟨ws,spelling,rest,hwords,_,hbad⟩ := h
  obtain ⟨front,ht⟩ := hwords.exists_front
  obtain ⟨c,word,rfl,hc⟩ := hbad.exists_cons
  have hc' := List.all_eq_true.mp hblank c (by simp [ht])
  rw [hc] at hc'
  cases hc'

/-- A predicate that is not read is told as malformed, unless it is broken off. -/
theorem ofPredicate_report (t : Text) :
    (∀ b, BreaksOff t b → ∃ fault, ofPredicate t = .error fault ∧ fault.report = .silent b) ∧
      ∀ fault, ofPredicate t = .error fault → (∃ b, BreaksOff t b ∧ fault.report = .silent b) ∨
        ∃ message, fault.report = .error .predicateSyntax message none := by
  constructor
  · intro b hb
    refine ⟨.malformed t (.unreadable b),?_,rfl⟩
    rw [ofPredicate, if_neg hb.not_blank, ofText_unreadable_iff.mpr hb]
  · intro fault hfault
    rw [ofPredicate] at hfault
    split at hfault
    · cases hfault
      exact Or.inr ⟨_,rfl⟩
    · cases htext : ofText t with
      | ok c =>
        rw [htext] at hfault
        cases hfault
      | error syntaxFault =>
        rw [htext] at hfault
        cases hfault
        by_cases hsilent : ∃ b, syntaxFault = .unreadable b
        · obtain ⟨b,rfl⟩ := hsilent
          exact Or.inl ⟨b,ofText_unreadable_iff.mp htext,rfl⟩
        · exact Or.inr (report_malformed t (not_exists.mp hsilent))

set_option maxRecDepth 4000 in
/-- A literal with an escape that is cut off is not told as malformed. -/
theorem ofPredicate_cut_off : ∃ fault, ofPredicate "name = \"\\x\"" = .error fault ∧
    fault.report = .silent .undecodable ∧
      ∀ message, fault.report ≠ .error .predicateSyntax message none := by
  have hscan : Token.scan "name = \"\\x\"" =
      ([⟨.identifier "name",0⟩,⟨.sign .equal,5⟩],some (.unreadable .undecodable)) := by decide +kernel
  have htext : ofText "name = \"\\x\"" = .error (.unreadable .undecodable) := by
    rw [ofText, hscan]
    rfl
  refine ⟨.malformed "name = \"\\x\"" (.unreadable .undecodable),?_,rfl,?_⟩
  · rw [ofPredicate, if_neg (by decide), htext]
  · intro message h
    cases h

end Condition
end SealedRows
