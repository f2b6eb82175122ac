import SealedRows.Condition.Parser

/-! # The grammar of conditions

Words write a condition when they derive from this grammar:

    disjunction := conjunction (OR conjunction)*
    conjunction := negation (AND negation)*
    negation := NOT negation | atom
    atom := '(' disjunction ')' | name sign literal | name IS [NOT] NULL | name
    literal := [-] number | string | TRUE | FALSE | NULL

A word of the grammar is read on top of the contexts that wait for it. Contexts that bind tighter take
the condition at once, so each level has to know which of them may be the innermost.
-/
namespace SealedRows

inductive GrammarLevel where
  | disjunction | conjunction | negation | atom

/-- The signs of comparisons. -/
inductive Sign.Means : Sign → Operator → Prop where
  | equal : Means .equal .eq
  | doubleEqual : Means .doubleEqual .eq
  | bangEqual : Means .bangEqual .ne
  | angles : Means .angles .ne
  | less : Means .less .lt
  | lessEqual : Means .lessEqual .le
  | greater : Means .greater .gt
  | greaterEqual : Means .greaterEqual .ge

inductive WritesLiteral : List Word → Value → Prop where
  | integer (n : Int) : WritesLiteral [.integer n] (.int n)
  | float (x : Double) : WritesLiteral [.float x] (.float x)
  | negativeInteger (n : Int) : WritesLiteral [.sign .minus,.integer n] (.int (-n))
  | negativeFloat (x : Double) : WritesLiteral [.sign .minus,.float x] (.float x.neg)
  | string (t : Text) : WritesLiteral [.string t] (.text t)
  | true (spelling : Text) : WritesLiteral [.keyword .true spelling] (.bool true)
  | false (spelling : Text) : WritesLiteral [.keyword .false spelling] (.bool false)
  | null (spelling : Text) : WritesLiteral [.keyword .null spelling] .none

/-- The words that write a condition. To be equal to null is to be null. -/
inductive Writes : GrammarLevel → List Word → Condition Value → Prop where
  | ofConjunction {ws : List Word} {c : Condition Value} (h : Writes .conjunction ws c) :
      Writes .disjunction ws c
  | or {us vs : List Word} {a b : Condition Value} (ha : Writes .disjunction us a) (spelling : Text)
      (hb : Writes .conjunction vs b) : Writes .disjunction (us ++ .keyword .or spelling :: vs) (.or a b)
  | ofNegation {ws : List Word} {c : Condition Value} (h : Writes .negation ws c) :
      Writes .conjunction ws c
  | and {us vs : List Word} {a b : Condition Value} (ha : Writes .conjunction us a) (spelling : Text)
      (hb : Writes .negation vs b) : Writes .conjunction (us ++ .keyword .and spelling :: vs) (.and a b)
  | ofAtom {ws : List Word} {c : Condition Value} (h : Writes .atom ws c) : Writes .negation ws c
  | not (spelling : Text) {ws : List Word} {c : Condition Value} (h : Writes .negation ws c) :
      Writes .negation (.keyword .not spelling :: ws) (.not c)
  | paren {ws : List Word} {c : Condition Value} (h : Writes .disjunction ws c) :
      Writes .atom (.sign .leftParen :: ws ++ [.sign .rightParen]) c
  | comparison (field : Text) {s : Sign} {op : Operator} (hs : s.Means op) {ws : List Word} {v : Value}
      (hv : WritesLiteral ws v) (hnull : v = .none → op ≠ .eq ∧ op ≠ .ne) :
      Writes .atom (.identifier field :: .sign s :: ws) (.comparison field op v)
  | equalNull (field : Text) {s : Sign} (hs : s.Means .eq) (spelling : Text) :
      Writes .atom [.identifier field,.sign s,.keyword .null spelling] (.nullCheck field true)
  | unequalNull (field : Text) {s : Sign} (hs : s.Means .ne) (spelling : Text) :
      Writes .atom [.identifier field,.sign s,.keyword .null spelling] (.nullCheck field false)
  | isNull (field is null : Text) :
      Writes .atom [.identifier field,.keyword .is is,.keyword .null null] (.nullCheck field true)
  | isNotNull (field is not null : Text) :
      Writes .atom [.identifier field,.keyword .is is,.keyword .not not,.keyword .null null]
        (.nullCheck field false)
  | isTrue (field : Text) : Writes .atom [.identifier field] (.isTrue field)

namespace ParseState

theorem operatorOf?_eq_some {s : Sign} {op : Operator} : operatorOf? s = some op ↔ s.Means op := by
  constructor
  · intro h
    cases s <;> cases h <;> constructor
  · intro h
    cases h <;> rfl

def reads (s : ParseState) (ws : List Word) : Option ParseState := ws.foldlM next? s

@[simp] theorem reads_nil (s : ParseState) : s.reads [] = some s := rfl

@[simp] theorem reads_cons (s : ParseState) (w : Word) (ws : List Word) :
    s.reads (w :: ws) = (s.next? w).bind fun s => s.reads ws := rfl

@[simp] theorem reads_append (s : ParseState) (us vs : List Word) :
    s.reads (us ++ vs) = (s.reads us).bind fun s => s.reads vs := List.foldlM_append ..

/-- A state in which the name of a field that nothing was said of counts as a condition. -/
def settled (s : ParseState) : ParseState :=
  match s.stage with
  | .field name => completed (.isTrue name) s.contexts
  | _ => s

def whole? (s : ParseState) : Option (Condition Value) :=
  match s.stage with
  | .complete c =>
    match disjoined c s.contexts with
    | (c,[]) => some c
    | _ => none
  | _ => none

theorem result?_eq_whole? (s : ParseState) : s.result? = s.settled.whole? := rfl

inductive Enclosed : List ParseContext → Prop where
  | nil : Enclosed []
  | paren (k : List ParseContext) : Enclosed (.paren :: k)

inductive Loose : List ParseContext → Prop where
  | enclosed {k : List ParseContext} (h : Enclosed k) : Loose k
  | or (left : Condition Value) {k : List ParseContext} (h : Enclosed k) : Loose (.or left :: k)

theorem Enclosed.disjoined {k : List ParseContext} (h : Enclosed k) (c : Condition Value) :
    disjoined c k = (c,k) := by
  cases h <;> rfl

theorem Loose.completed {k : List ParseContext} (h : Loose k) (c : Condition Value) :
    completed c k = ⟨k,.complete c⟩ := by
  rcases h with ⟨h⟩ | h
  · cases h <;> rfl
  · rfl

theorem exists_completed (c : Condition Value) (k : List ParseContext) :
    ∃ d l, completed c k = ⟨l,.complete d⟩ := by
  fun_induction completed c k with
  | case1 c rest ih => exact ih
  | case2 c left rest ih => exact ih
  | case3 c k => exact ⟨c,k,rfl⟩

theorem settled_completed (c : Condition Value) (k : List ParseContext) :
    settled (completed c k) = completed c k := by
  obtain ⟨d,l,h⟩ := exists_completed c k
  rw [h]
  rfl

/-- Where a settled state takes a word that only conditions are followed by, so does the state. -/
theorem next?_of_settled {s : ParseState} {k : List ParseContext} {c : Condition Value}
    (h : s.settled = ⟨k,.complete c⟩) {w : Word}
    (hw : (∃ spelling, w = .keyword .and spelling) ∨ (∃ spelling, w = .keyword .or spelling) ∨
      w = .sign .rightParen) : s.next? w = afterCondition? c k w := by
  rcases s with ⟨l,stage⟩
  cases stage with
  | field name =>
    have hleaf : afterLeaf? (.isTrue name) l w = afterCondition? c k w := by
      change completed _ _ = _ at h
      rw [afterLeaf?, h]
    rcases hw with ⟨spelling,rfl⟩ | ⟨spelling,rfl⟩ | rfl <;> exact hleaf
  | complete d =>
    cases h
    rfl
  | _ => cases h

theorem result?_eq_some {s : ParseState} {d : Condition Value} : s.result? = some d ↔
    ∃ c k, s.settled = ⟨k,.complete c⟩ ∧ disjoined c k = (d,[]) := by
  rw [result?_eq_whole?]
  rcases s.settled with ⟨k,stage⟩
  unfold whole?
  cases stage with
  | complete c =>
    constructor
    · intro h
      refine ⟨c,k,rfl,?_⟩
      dsimp only at h
      split at h
      · next hjoined =>
        cases h
        exact hjoined
      · cases h
    · rintro ⟨c,k,⟨⟩,hjoined⟩
      simp only [hjoined]
  | _ =>
    refine iff_of_false (by rintro ⟨⟩) ?_
    rintro ⟨_,_,h,_⟩
    cases h

theorem comparison_of_ne (field : Text) {op : Operator} {v : Value}
    (h : v = .none → op ≠ .eq ∧ op ≠ .ne) : comparison field op v = .comparison field op v := by
  cases v with
  | none =>
    obtain ⟨heq,hne⟩ := h rfl
    cases op with
    | eq => exact absurd rfl heq
    | ne => exact absurd rfl hne
    | _ => rfl
  | _ => rfl

theorem reads_literal {ws : List Word} {v : Value} (h : WritesLiteral ws v) (k : List ParseContext)
    (field : Text) (op : Operator) : reads ⟨k,.literal field op⟩ ws =
      some (completed (comparison field op v) k) := by
  cases h <;> rfl

/-- What reading the words of a condition does to the contexts that wait for it. The condition of a
disjunction may still be the right side of an `or` when the words end. -/
def ReadsAs : GrammarLevel → List Word → Condition Value → Prop
  | .disjunction, ws, c => ∀ k, Enclosed k → ∃ s d l, reads ⟨k,.operand⟩ ws = some s ∧
      s.settled = ⟨l,.complete d⟩ ∧ disjoined d l = (c,k)
  | .conjunction, ws, c => ∀ k, Loose k → ∃ s, reads ⟨k,.operand⟩ ws = some s ∧
      s.settled = ⟨k,.complete c⟩
  | _, ws, c => ∀ k, ∃ s, reads ⟨k,.operand⟩ ws = some s ∧ s.settled = completed c k

/-- Words that the grammar derives are read as their condition. -/
theorem readsAs_of_writes {level : GrammarLevel} {ws : List Word} {c : Condition Value}
    (h : Writes level ws c) : ReadsAs level ws c := by
  induction h with
  | @ofConjunction ws c _ ih =>
    intro k hk
    obtain ⟨s,hreads,hs⟩ := ih k (.enclosed hk)
    exact ⟨s,c,k,hreads,hs,hk.disjoined c⟩
  | @or us vs a b _ spelling _ iha ihb =>
    intro k hk
    obtain ⟨s,d,l,hus,hs,hjoined⟩ := iha k hk
    obtain ⟨t,hvs,ht⟩ := ihb (.or a :: k) (.or a hk)
    refine ⟨t,b,.or a :: k,?_,ht,rfl⟩
    have hnext := next?_of_settled hs (Or.inr (Or.inl ⟨spelling,rfl⟩))
    simp only [afterCondition?, hjoined] at hnext
    simp only [reads_append, reads_cons, hus, hnext, Option.bind_some, hvs]
  | @ofNegation ws c _ ih =>
    intro k hk
    obtain ⟨s,hreads,hs⟩ := ih k
    exact ⟨s,hreads,hs.trans (hk.completed c)⟩
  | @and us vs a b _ spelling _ iha ihb =>
    intro k hk
    obtain ⟨s,hus,hs⟩ := iha k hk
    obtain ⟨t,hvs,ht⟩ := ihb (.and a :: k)
    refine ⟨t,?_,ht.trans (hk.completed (.and a b))⟩
    have hnext := next?_of_settled hs (Or.inl ⟨spelling,rfl⟩)
    simp only [afterCondition?] at hnext
    simp only [reads_append, reads_cons, hus, hnext, Option.bind_some, hvs]
  | ofAtom _ ih => exact ih
  | not spelling _ ih =>
    intro k
    exact ih (.not :: k)
  | @paren ws c _ ih =>
    intro k
    obtain ⟨s,d,l,hws,hs,hjoined⟩ := ih (.paren :: k) (.paren k)
    have hnext := next?_of_settled hs (Or.inr (Or.inr rfl))
    simp only [afterCondition?, hjoined] at hnext
    refine ⟨completed c k,?_,settled_completed c k⟩
    simp only [List.cons_append, reads_cons, reads_append]
    change ((reads ⟨.paren :: k,.operand⟩ ws).bind _) = _
    simp only [hws, Option.bind_some, hnext, reads_nil]
  | @comparison field s op hs ws v hv hnull =>
    intro k
    refine ⟨completed (.comparison field op v) k,?_,settled_completed _ k⟩
    have hsign : next? ⟨k,.field field⟩ (.sign s) = some ⟨k,.literal field op⟩ := by
      simp only [next?, operatorOf?_eq_some.mpr hs]
    rw [← comparison_of_ne field hnull]
    change (next? ⟨k,.field field⟩ (.sign s)).bind _ = _
    rw [hsign]
    exact reads_literal hv k field op
  | equalNull field hs spelling =>
    intro k
    cases hs <;> exact ⟨_,rfl,settled_completed _ k⟩
  | unequalNull field hs spelling =>
    intro k
    cases hs <;> exact ⟨_,rfl,settled_completed _ k⟩
  | isNull field is null => exact fun k => ⟨_,rfl,settled_completed _ k⟩
  | isNotNull field is not null => exact fun k => ⟨_,rfl,settled_completed _ k⟩
  | isTrue field => exact fun k => ⟨_,rfl,rfl⟩

end ParseState
end SealedRows
