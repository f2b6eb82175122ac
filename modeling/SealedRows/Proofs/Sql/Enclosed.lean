import SealedRows.Proofs.Sql.Literal

/-! # Literals that nothing breaks out of

The quotes of a text end where its literal ends, whatever the text is and whatever follows: a text is read
from its own literal and from no other one. Bytes and integers are read from theirs, and literals of different
values are different, even of texts that hold NUL and aren't read at all.
-/
namespace SealedRows.Sql

/-! ## Texts -/

/-- What is read as a text is that text between its quotes, in front of what is no further quote. -/
theorem eq_inQuotes_of_readQuoted? {u t rest : Text} (h : readQuoted? u = some (t,rest)) :
    u = inQuotes t rest ∧ 0 ∉ t ∧ rest.head? ≠ some quote := by
  fun_induction readQuoted? u generalizing t rest with
  | case1 => cases h
  | case2 => cases h
  | case3 =>
    cases h
    exact ⟨rfl,nofun,nofun⟩
  | case4 _ u ih =>
    obtain ⟨⟨s,after⟩,hs,hpair⟩ := Option.map_eq_some_iff.mp h
    cases hpair
    obtain ⟨rfl,hnul,hafter⟩ := ih hs
    rw [inQuotes_cons, if_pos rfl]
    exact ⟨rfl,List.not_mem_cons_of_ne_of_not_mem quote_ne_nul.symm hnul,hafter⟩
  | case5 d u hd =>
    cases h
    exact ⟨rfl,nofun,by simpa using hd⟩
  | case6 c u hc hquote ih =>
    obtain ⟨⟨s,after⟩,hs,hpair⟩ := Option.map_eq_some_iff.mp h
    cases hpair
    obtain ⟨rfl,hnul,hafter⟩ := ih hs
    rw [inQuotes_cons, if_neg hquote]
    exact ⟨rfl,List.not_mem_cons_of_ne_of_not_mem (Ne.symm hc) hnul,hafter⟩

theorem numberOf?_ne_text {u t : Text} : numberOf? u ≠ some (.text t) := by
  unfold numberOf?
  dsimp only
  split
  · nofun
  · intro h
    obtain ⟨_,_,⟨⟩⟩ := Option.map_eq_some_iff.mp h

/-- A text is read exactly from its literal, if it has no NUL and no further quote follows. -/
theorem readLiteral?_eq_text_iff {u t rest : Text} : readLiteral? u = some (.text t,rest) ↔
    u = literal (.text t) ++ rest ∧ 0 ∉ t ∧ rest.head? ≠ some quote := by
  constructor
  · intro h
    cases u with
    | nil => cases h
    | cons c u =>
      rw [readLiteral?] at h
      split at h
      · next hquote =>
        obtain ⟨⟨s,after⟩,hs,hpair⟩ := Option.map_eq_some_iff.mp h
        cases hpair
        obtain ⟨rfl,hnul,hafter⟩ := eq_inQuotes_of_readQuoted? hs
        exact ⟨by rw [literal_text_append, hquote],hnul,hafter⟩
      · split at h
        · dsimp only at h
          split at h
          · cases h
          · obtain ⟨_,_,hpair⟩ := Option.map_eq_some_iff.mp h
            cases hpair
        · obtain ⟨v,hv,hpair⟩ := Option.map_eq_some_iff.mp h
          cases hpair
          exact absurd hv numberOf?_ne_text
  · rintro ⟨rfl,hnul,hrest⟩
    exact readLiteral?_text hnul hrest

/-- Texts between quotes are different for different texts, also for those with NUL. -/
theorem inQuotes_inj {s t : Text} (h : inQuotes s [] = inQuotes t []) : s = t := by
  have hnil : ∀ (c : CodePoint) (t : Text), inQuotes (c :: t) [] ≠ [quote] := by
    intro c t heq
    rw [inQuotes_cons] at heq
    split at heq
    · cases heq
    · next hc => exact hc (List.cons.inj heq).1
  induction s generalizing t with
  | nil =>
    cases t with
    | nil => rfl
    | cons d t => exact absurd h.symm (hnil d t)
  | cons c s ih =>
    cases t with
    | nil => exact absurd h (hnil c s)
    | cons d t =>
      rw [inQuotes_cons, inQuotes_cons] at h
      split at h
      · next hc =>
        split at h
        · next hd =>
          have hrest := (List.cons.inj (List.cons.inj h).2).2
          rw [hc, hd, ih hrest]
        · next hd => exact absurd (List.cons.inj h).1.symm hd
      · next hc =>
        split at h
        · exact absurd (List.cons.inj h).1 hc
        · obtain ⟨hhead,hrest⟩ := List.cons.inj h
          rw [hhead, ih hrest]

/-! ## Distinct values -/

/-- The values that literals write without loss: finite numbers, texts and bytes. -/
inductive IsExact : Value → Prop where
  | int (n : ℤ) : IsExact (.int n)
  | float {x : Double} (hx : x.isFinite) : IsExact (.float x)
  | text (t : Text) : IsExact (.text t)
  | bytes (bs : Bytes) : IsExact (.bytes bs)

theorem readLiteral?_whole {v : Value} (hv : HasLiteral v) : readLiteral? (literal v) = some (v,[]) := by
  have hread : readLiteral? (literal v ++ []) = some (v,[]) := readLiteral?_literal hv nofun
  rwa [List.append_nil] at hread

/-- Only a text with NUL is written without loss and yet not read. -/
theorem IsExact.cases_hasLiteral {v : Value} (hv : IsExact v) :
    HasLiteral v ∨ ∃ t, v = .text t ∧ readLiteral? (literal v) = none := by
  cases hv with
  | int n => exact Or.inl trivial
  | float hx => exact Or.inl hx
  | text t =>
    by_cases ht : 0 ∈ t
    · exact Or.inr ⟨t,rfl,readLiteral?_of_nul ht⟩
    · exact Or.inl ht
  | bytes bs => exact Or.inl trivial

theorem literal_inj {v w : Value} (hv : IsExact v) (hw : IsExact w) (h : literal v = literal w) : v = w := by
  rcases hv.cases_hasLiteral with hv | ⟨s,rfl,hs⟩
  · have hread := readLiteral?_whole hv
    rw [h] at hread
    rcases hw.cases_hasLiteral with hw | ⟨t,rfl,ht⟩
    · rw [readLiteral?_whole hw] at hread
      exact (congrArg Prod.fst (Option.some.inj hread)).symm
    · cases ht.symm.trans hread
  · rw [h] at hs
    rcases hw.cases_hasLiteral with hw | ⟨t,rfl,-⟩
    · cases hs.symm.trans (readLiteral?_whole hw)
    · rw [literal_text, literal_text] at h
      rw [inQuotes_inj (List.cons.inj h).2]

/-- A literal is read up to its end and no further. A text is read from its literal alone, bytes that may change
have the literal of bytes, and different values have different literals. -/
theorem literal_enclosed :
    (∀ u t rest : Text, readLiteral? u = some (.text t,rest) ↔
      u = literal (.text t) ++ rest ∧ 0 ∉ t ∧ rest.head? ≠ some quote) ∧
    (∀ (bs : Bytes) (rest : Text), readLiteral? (literal (.bytes bs) ++ rest) = some (.bytes bs,rest) ∧
      literal (.buffer bs) = literal (.bytes bs)) ∧
    (∀ (n : ℤ) (rest : Text), (∀ c ∈ rest.head?, Numeral.isPoint c = false) →
      readLiteral? (literal (.int n) ++ rest) = some (.int n,rest)) ∧
    ∀ v w, IsExact v → IsExact w → literal v = literal w → v = w :=
  ⟨fun _ _ _ => readLiteral?_eq_text_iff,fun bs rest => ⟨readLiteral?_bytes bs rest,rfl⟩,
    fun n _ => readLiteral?_number (numberOf?_ofInt n) (fun _ => isPoint_of_mem_ofInt),
    fun _ _ => literal_inj⟩

/-- A text that looks like the end of a statement ends with its literal, and two quotes are not one. -/
theorem literal_enclosed_quotes :
    readLiteral? (literal (.text "'); DROP TABLE notes; --'") ++ ",\n") =
        some (Value.text "'); DROP TABLE notes; --'",Text.ofString ",\n") ∧
      readLiteral? (literal (.int (-7)) ++ ")") = some (Value.int (-7),Text.ofString ")") ∧
        literal (.text "'") ≠ literal (.text "''") := by
  obtain ⟨htext,-,hint,hdistinct⟩ := literal_enclosed
  have hparen : ∀ c ∈ (Text.ofString ")").head?, Numeral.isPoint c = false := by
    rintro _ ⟨⟩
    decide
  refine ⟨(htext _ _ _).mpr ⟨rfl,by decide,by decide⟩,hint (-7) ")" hparen,fun h => ?_⟩
  have hsame := hdistinct _ _ (.text "'") (.text "''") h
  exact absurd (Value.text.inj hsame) (by decide)

end SealedRows.Sql
