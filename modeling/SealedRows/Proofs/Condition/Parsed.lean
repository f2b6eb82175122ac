import SealedRows.Proofs.Condition.Grammar

/-! # Conditions that are read

Whatever has been read divides into the words of the waiting contexts and those of the condition or the
leaf that is being read. Words are therefore read as a condition exactly if the grammar derives them.
-/
namespace SealedRows.ParseState

inductive Opens : List Word → List ParseContext → Prop where
  | nil : Opens [] []
  | paren {us : List Word} {k : List ParseContext} (h : Opens us k) :
      Opens (us ++ [.sign .leftParen]) (.paren :: k)
  | not {us : List Word} {k : List ParseContext} (h : Opens us k) (spelling : Text) :
      Opens (us ++ [.keyword .not spelling]) (.not :: k)
  | and {us vs : List Word} {k : List ParseContext} {a : Condition Value} (h : Opens us k)
      (hk : Loose k) (ha : Writes .conjunction vs a) (spelling : Text) :
      Opens (us ++ (vs ++ [.keyword .and spelling])) (.and a :: k)
  | or {us vs : List Word} {k : List ParseContext} {a : Condition Value} (h : Opens us k)
      (hk : Enclosed k) (ha : Writes .disjunction vs a) (spelling : Text) :
      Opens (us ++ (vs ++ [.keyword .or spelling])) (.or a :: k)

inductive StageOf : List Word → List ParseContext → ParseStage → Prop where
  | operand (k : List ParseContext) : StageOf [] k .operand
  | field (k : List ParseContext) (name : Text) : StageOf [.identifier name] k (.field name)
  | literal (k : List ParseContext) (field : Text) {s : Sign} {op : Operator} (h : s.Means op) :
      StageOf [.identifier field,.sign s] k (.literal field op)
  | negative (k : List ParseContext) (field : Text) {s : Sign} {op : Operator} (h : s.Means op) :
      StageOf [.identifier field,.sign s,.sign .minus] k (.negative field op)
  | nullness (k : List ParseContext) (field is : Text) :
      StageOf [.identifier field,.keyword .is is] k (.nullness field)
  | notNull (k : List ParseContext) (field is not : Text) :
      StageOf [.identifier field,.keyword .is is,.keyword .not not] k (.notNull field)
  | complete {k : List ParseContext} (hk : Loose k) {vs : List Word} {c : Condition Value}
      (h : Writes .conjunction vs c) : StageOf vs k (.complete c)

def Leads (ws : List Word) (s : ParseState) : Prop :=
  ∃ us vs, ws = us ++ vs ∧ Opens us s.contexts ∧ StageOf vs s.contexts s.stage

/-- Contexts that bind tighter take a condition that was read for them. -/
theorem leads_completed {us vs : List Word} {k : List ParseContext} {c : Condition Value}
    (hk : Opens us k) (h : Writes .negation vs c) : Leads (us ++ vs) (completed c k) := by
  induction hk generalizing vs c with
  | nil => exact ⟨[],vs,rfl,.nil,.complete (.enclosed .nil) (.ofNegation h)⟩
  | @paren us k hk _ =>
    exact ⟨_,vs,rfl,.paren hk,.complete (.enclosed (.paren k)) (.ofNegation h)⟩
  | @not us k hk spelling ih =>
    have hnot := ih (.not spelling h)
    rw [List.append_assoc]
    exact hnot
  | @and us ws k a hk hloose ha spelling _ =>
    have hcompleted : completed c (.and a :: k) = ⟨k,.complete (.and a c)⟩ := hloose.completed _
    rw [hcompleted]
    refine ⟨us,_,?_,hk,.complete hloose (.and ha spelling h)⟩
    simp only [List.append_assoc, List.singleton_append]
  | @or us ws k a hk henclosed ha spelling _ =>
    exact ⟨_,vs,rfl,.or hk henclosed ha spelling,.complete (.or a henclosed) (.ofNegation h)⟩

theorem leads_leaf {us vs : List Word} {k : List ParseContext} {c : Condition Value}
    (hk : Opens us k) (h : Writes .atom vs c) : Leads (us ++ vs) (completed c k) :=
  leads_completed hk (.ofAtom h)

theorem leads_settled {ws : List Word} {s : ParseState} (h : Leads ws s) : Leads ws s.settled := by
  rcases s with ⟨k,stage⟩
  cases stage with
  | field name =>
    obtain ⟨us,vs,rfl,hk,hstage⟩ := h
    cases hstage
    exact leads_leaf hk (.isTrue name)
  | _ => exact h

theorem writes_disjoined {us vs : List Word} {k l : List ParseContext} {c d : Condition Value}
    (hk : Opens us k) (hloose : Loose k) (h : Writes .conjunction vs c)
    (hjoined : disjoined c k = (d,l)) :
    ∃ us' vs', us ++ vs = us' ++ vs' ∧ Opens us' l ∧ Enclosed l ∧ Writes .disjunction vs' d := by
  cases hloose with
  | enclosed henclosed =>
    rw [henclosed.disjoined] at hjoined
    cases hjoined
    exact ⟨us,vs,rfl,hk,henclosed,.ofConjunction h⟩
  | or a henclosed =>
    cases hjoined
    cases hk with
    | or hk _ ha spelling =>
      refine ⟨_,_,?_,hk,henclosed,.or ha spelling h⟩
      simp only [List.append_assoc, List.singleton_append]

theorem leads_afterCondition {ws : List Word} {k : List ParseContext} {c : Condition Value}
    (h : Leads ws ⟨k,.complete c⟩) {w : Word} {t : ParseState} (ht : afterCondition? c k w = some t) :
    Leads (ws ++ [w]) t := by
  obtain ⟨us,vs,rfl,hk,hstage⟩ := h
  obtain ⟨hloose,hc⟩ : Loose k ∧ Writes .conjunction vs c := by
    cases hstage with
    | complete hloose hc => exact ⟨hloose,hc⟩
  rcases hjoined : disjoined c k with ⟨d,l⟩
  obtain ⟨us',vs',hwords,hl,henclosed,hd⟩ := writes_disjoined hk hloose hc hjoined
  unfold afterCondition? at ht
  split at ht
  · next spelling =>
    cases ht
    exact ⟨_,[],by simp,.and hk hloose hc spelling,.operand _⟩
  · next spelling =>
    rw [hjoined] at ht
    cases ht
    refine ⟨_,[],?_,.or hl henclosed hd spelling,.operand _⟩
    rw [hwords, List.append_nil, List.append_assoc]
  · rw [hjoined] at ht
    cases henclosed with
    | nil => cases ht
    | paren k =>
      cases ht
      cases hl with
      | paren hk =>
        have hclosed := leads_leaf hk (.paren hd)
        rw [hwords]
        simpa using hclosed
  · cases ht

theorem leads_afterLeaf {ws : List Word} {k : List ParseContext} {name : Text}
    (h : Leads ws ⟨k,.field name⟩) {w : Word} {t : ParseState}
    (ht : afterLeaf? (.isTrue name) k w = some t) : Leads (ws ++ [w]) t := by
  obtain ⟨d,l,hcompleted⟩ := exists_completed (.isTrue name) k
  have hsettled : Leads ws ⟨l,.complete d⟩ := by
    rw [← hcompleted]
    exact leads_settled h
  rw [afterLeaf?, hcompleted] at ht
  exact leads_afterCondition hsettled ht

theorem writes_comparison (field : Text) {s : Sign} {op : Operator} (hs : s.Means op) {ws : List Word}
    {v : Value} (hv : WritesLiteral ws v) :
    Writes .atom (.identifier field :: .sign s :: ws) (comparison field op v) := by
  by_cases hnull : v = .none → op ≠ .eq ∧ op ≠ .ne
  · rw [comparison_of_ne field hnull]
    exact .comparison field hs hv hnull
  · obtain ⟨rfl,hop⟩ := Classical.not_imp.mp hnull
    cases hv with
    | null spelling =>
      cases op with
      | eq => exact .equalNull field hs spelling
      | ne => exact .unequalNull field hs spelling
      | _ => exact absurd ⟨nofun,nofun⟩ hop

/-- A word behind the sign of a comparison is a literal or its minus sign. -/
theorem next_literal {k : List ParseContext} {field : Text} {op : Operator} {w : Word} {t : ParseState}
    (ht : next? ⟨k,.literal field op⟩ w = some t) :
    (∃ v, WritesLiteral [w] v ∧ t = completed (comparison field op v) k) ∨
      (w = .sign .minus ∧ t = ⟨k,.negative field op⟩) := by
  unfold next? at ht
  dsimp only at ht
  split at ht <;> cases ht
  · exact Or.inl ⟨_,.integer _,rfl⟩
  · exact Or.inl ⟨_,.float _,rfl⟩
  · exact Or.inl ⟨_,.string _,rfl⟩
  · exact Or.inl ⟨_,.true _,rfl⟩
  · exact Or.inl ⟨_,.false _,rfl⟩
  · exact Or.inl ⟨_,.null _,rfl⟩
  · exact Or.inr ⟨rfl,rfl⟩

theorem next_negative {k : List ParseContext} {field : Text} {op : Operator} {w : Word} {t : ParseState}
    (ht : next? ⟨k,.negative field op⟩ w = some t) :
    ∃ v, WritesLiteral [.sign .minus,w] v ∧ t = completed (comparison field op v) k := by
  unfold next? at ht
  dsimp only at ht
  split at ht <;> cases ht
  · exact ⟨_,.negativeInteger _,rfl⟩
  · exact ⟨_,.negativeFloat _,rfl⟩

/-- What may come next is one more word of what is being read. -/
theorem leads_next {ws : List Word} {s t : ParseState} (h : Leads ws s) {w : Word}
    (ht : s.next? w = some t) : Leads (ws ++ [w]) t := by
  have hleads := h
  rcases s with ⟨k,stage⟩
  obtain ⟨us,vs,rfl,hk,hstage⟩ := h
  rw [List.append_assoc]
  cases hstage with
  | operand =>
    unfold next? at ht
    dsimp only at ht
    split at ht <;> cases ht
    · next spelling => exact ⟨_,[],by simp,.not hk spelling,.operand _⟩
    · exact ⟨_,[],by simp,.paren hk,.operand _⟩
    · next name => exact ⟨us,_,rfl,hk,.field k name⟩
  | field _ name =>
    unfold next? at ht
    dsimp only at ht
    split at ht
    · split at ht
      · next hop =>
        cases ht
        exact ⟨us,_,rfl,hk,.literal k name (operatorOf?_eq_some.mp hop)⟩
      · rw [← List.append_assoc]
        exact leads_afterLeaf hleads ht
    · next is =>
      cases ht
      exact ⟨us,_,rfl,hk,.nullness k name is⟩
    · rw [← List.append_assoc]
      exact leads_afterLeaf hleads ht
  | literal _ field hs =>
    rcases next_literal ht with ⟨v,hv,rfl⟩ | ⟨rfl,rfl⟩
    · exact leads_leaf hk (writes_comparison field hs hv)
    · exact ⟨us,_,rfl,hk,.negative k field hs⟩
  | negative _ field hs =>
    obtain ⟨v,hv,rfl⟩ := next_negative ht
    exact leads_leaf hk (writes_comparison field hs hv)
  | nullness _ field is =>
    unfold next? at ht
    dsimp only at ht
    split at ht <;> cases ht
    · next null => exact leads_leaf hk (.isNull field is null)
    · next not => exact ⟨us,_,rfl,hk,.notNull k field is not⟩
  | notNull _ field is not =>
    unfold next? at ht
    dsimp only at ht
    split at ht <;> cases ht
    next null => exact leads_leaf hk (.isNotNull field is not null)
  | complete hloose hc =>
    rw [← List.append_assoc]
    exact leads_afterCondition hleads ht

theorem leads_reads {ws vs : List Word} {s t : ParseState} (h : Leads ws s)
    (ht : s.reads vs = some t) : Leads (ws ++ vs) t := by
  induction vs generalizing ws s with
  | nil =>
    cases ht
    rwa [List.append_nil]
  | cons w vs ih =>
    obtain ⟨u,hu,ht⟩ := Option.bind_eq_some_iff.mp ht
    have hnext := ih (leads_next h hu) ht
    rwa [List.append_assoc] at hnext

theorem writes_of_result {ws : List Word} {s : ParseState} (h : Leads ws s) {c : Condition Value}
    (hc : s.result? = some c) : Writes .disjunction ws c := by
  obtain ⟨d,k,hs,hjoined⟩ := result?_eq_some.mp hc
  have hsettled := leads_settled h
  rw [hs] at hsettled
  obtain ⟨us,vs,rfl,hk,hstage⟩ := hsettled
  cases hstage with
  | complete hloose hd =>
    obtain ⟨us',vs',hwords,hk,_,hc⟩ := writes_disjoined hk hloose hd hjoined
    cases hk
    rw [hwords]
    exact hc

/-- The words that are read as a whole condition are those that the grammar derives. -/
theorem reads_result_iff {ws : List Word} {c : Condition Value} :
    (start.reads ws).bind result? = some c ↔ Writes .disjunction ws c := by
  constructor
  · intro h
    obtain ⟨s,hs,hc⟩ := Option.bind_eq_some_iff.mp h
    have hstart : Leads [] start := ⟨[],[],rfl,.nil,.operand []⟩
    exact writes_of_result (leads_reads hstart hs) hc
  · intro h
    obtain ⟨s,d,k,hs,hsettled,hjoined⟩ := readsAs_of_writes h [] .nil
    exact Option.bind_eq_some_iff.mpr ⟨s,hs,result?_eq_some.mpr ⟨d,k,hsettled,hjoined⟩⟩

end SealedRows.ParseState
