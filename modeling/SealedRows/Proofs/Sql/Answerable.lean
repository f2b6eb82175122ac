import SealedRows.Proofs.Sql.Meaning

/-! # Conditions that can be answered

Whether a condition becomes a clause depends on its leaves alone, each looked at by itself, and not on
what joins them. If some can't be answered, the first of them from the left is told.
-/
namespace SealedRows

/-- The leaves of a condition from left to right, whatever joins them. -/
def Condition.leaves {α : Type} : Condition α → List (Condition α)
  | .and left right | .or left right => left.leaves ++ right.leaves
  | .not operand => operand.leaves
  | leaf => [leaf]

def Condition.IsLeaf {α : Type} : Condition α → Prop
  | .and .. | .or .. | .not _ => False
  | _ => True

def Condition.field? {α : Type} : Condition α → Option Text
  | .comparison field _ _ | .nullCheck field _ | .isTrue field => some field
  | _ => none

/-- Whether a column is meant by a name: the first one of the field, or if there is none, the first one
that is stored under the name. -/
def Schema.Names (s : Schema) (name : Text) (c : Column) : Prop :=
  s.columnForField? name = some c ∨ s.columnForField? name = none ∧ s.column? name = some c

def Schema.NamesPlain (s : Schema) (name : Text) (c : Column) : Prop :=
  s.Names name c ∧ c.isEncrypted = false

/-- Whether the database can answer a leaf about the records of a table. -/
inductive Condition.IsAnswerable (s : Schema) : Condition Value → Prop where
  | nullCheck {field : Text} {c : Column} (hc : s.NamesPlain field c) (null : Bool) :
      IsAnswerable s (.nullCheck field null)
  | null {field : Text} {c : Column} (hc : s.NamesPlain field c) {op : Operator}
      (hop : op = .eq ∨ op = .ne) : IsAnswerable s (.comparison field op .none)
  | truth {field : Text} {c : Column} (hc : s.NamesPlain field c) (hkind : c.kind = .bool) :
      IsAnswerable s (.isTrue field)
  | comparison {field : Text} {c : Column} (hc : s.NamesPlain field c)
      (hblob : c.kind.isBlobStored = false) {literal stored : Value} (hliteral : literal ≠ .none)
      (hstored : c.kind.encode literal c.ordinal none = .ok stored) (op : Operator) :
      IsAnswerable s (.comparison field op literal)

/-- Why a leaf about the records of a table is refused. -/
inductive Condition.Refused (s : Schema) : Condition Value → QueryFault → Prop where
  | unknown {leaf : Condition Value} {field : Text} (hfield : leaf.field? = some field)
      (h : ∀ c, ¬s.Names field c) : Refused s leaf (.unknownField field s.name)
  | encrypted {leaf : Condition Value} {field : Text} (hfield : leaf.field? = some field) {c : Column}
      (hc : s.Names field c) (hencrypted : c.isEncrypted) :
      Refused s leaf (.encryptedInPredicate c.name s.name)
  | ordering {field : Text} {c : Column} (hc : s.NamesPlain field c) {op : Operator}
      (hop : op.isOrdering) : Refused s (.comparison field op .none) (.nullOrdering c.name op)
  | blob {field : Text} {c : Column} (hc : s.NamesPlain field c) (hblob : c.kind.isBlobStored)
      {literal : Value} (hliteral : literal ≠ .none) (op : Operator) :
      Refused s (.comparison field op literal) (.blobComparison c.name s.name c.kind)
  | blobTruth {field : Text} {c : Column} (hc : s.NamesPlain field c) (hblob : c.kind.isBlobStored) :
      Refused s (.isTrue field) (.blobComparison c.name s.name c.kind)
  | notBoolean {field : Text} {c : Column} (hc : s.NamesPlain field c)
      (hblob : c.kind.isBlobStored = false) (hkind : c.kind ≠ .bool) :
      Refused s (.isTrue field) (.notBoolean c.name s.name)
  /-- Only a failure that the literal is to blame for is told as one of the column. -/
  | invalid {field : Text} {c : Column} (hc : s.NamesPlain field c)
      (hblob : c.kind.isBlobStored = false) {literal : Value} (hliteral : literal ≠ .none)
      {fault : ValueFault} (hfault : c.kind.encode literal c.ordinal none = .error fault)
      (op : Operator) : Refused s (.comparison field op literal)
        (if fault.isRefusal then .invalidValue literal c.name fault else .value fault)
  | bare : Refused s .bare (.unsupportedNode "Node")
  | misfit (v : Value) : Refused s (.misfit v) (.unsupportedNode v.typeName)

def Condition.FirstRefused (s : Schema) (leaves : List (Condition Value)) (fault : QueryFault) : Prop :=
  ∃ before leaf after, leaves = before ++ leaf :: after ∧ (∀ l ∈ before, IsAnswerable s l) ∧
    Refused s leaf fault

namespace Schema
variable {s : Schema} {name : Text}

theorem names_iff {c : Column} : s.Names name c ↔ s.resolve? name = some c := by
  rw [Names, resolve?, Option.orElse_eq_orElse, Option.orElse_eq_or, Option.or_eq_some_iff]

theorem resolve_eq_error {fault : QueryFault} :
    s.resolve name = .error fault ↔ (∀ c, ¬s.Names name c) ∧ fault = .unknownField name s.name := by
  simp only [names_iff, resolve]
  cases s.resolve? name <;> simp [eq_comm]

end Schema

namespace Clause
variable {s : Schema} {qualify : Bool} {field : Text} {fault : QueryFault}

theorem leafColumn_eq_ok {c : Column} : leafColumn s field = .ok c ↔ s.NamesPlain field c := by
  simp only [leafColumn, bind_eq_ok, Schema.resolve_eq_ok, ← Schema.names_iff, guard_eq_ok, pure_eq_ok]
  constructor
  · rintro ⟨d,hd,hplain,rfl⟩
    exact ⟨hd,Bool.eq_false_iff.mpr hplain⟩
  · rintro ⟨hc,hplain⟩
    exact ⟨c,hc,Bool.eq_false_iff.mp hplain,rfl⟩

theorem leafColumn_eq_error : leafColumn s field = .error fault ↔
    (∀ c, ¬s.Names field c) ∧ fault = .unknownField field s.name ∨
      ∃ c, s.Names field c ∧ c.isEncrypted ∧ fault = .encryptedInPredicate c.name s.name := by
  simp only [leafColumn, bind_eq_error, Schema.resolve_eq_error, Schema.resolve_eq_ok, Schema.names_iff]
  refine or_congr Iff.rfl (exists_congr fun c => and_congr_right fun _ => ?_)
  cases c.isEncrypted <;> simp [pure, Except.pure, eq_comm]

theorem checkComparable_eq_ok {c : Column} :
    checkComparable s c = .ok () ↔ c.kind.isBlobStored = false := by
  rw [checkComparable, Column.isBlobStored]
  cases c.kind.isBlobStored <;> simp

theorem checkComparable_eq_error {c : Column} : checkComparable s c = .error fault ↔
    c.kind.isBlobStored ∧ fault = .blobComparison c.name s.name c.kind := by
  rw [checkComparable, Column.isBlobStored]
  cases c.kind.isBlobStored <;> simp [eq_comm]

/-- The column of a leaf is looked at before all else. -/
theorem ofCondition_of_leafColumn {leaf : Condition Value} (hfield : leaf.field? = some field)
    (h : leafColumn s field = .error fault) : ofCondition s qualify leaf = .error fault := by
  cases leaf with
  | comparison field op literal =>
    cases hfield
    exact bind_eq_error.mpr (.inl h)
  | nullCheck field null =>
    cases hfield
    exact bind_eq_error.mpr (.inl h)
  | isTrue field =>
    cases hfield
    exact bind_eq_error.mpr (.inl h)
  | _ => cases hfield

theorem ofComparison_of_ne_none {c : Column} (hc : leafColumn s field = .ok c) {literal : Value}
    (hliteral : literal ≠ .none) (op : Operator) : ofComparison s qualify field op literal =
      (checkComparable s c >>= fun _ =>
        match c.kind.encode literal c.ordinal none with
        | .ok parameter => .ok (compare (nameOf s qualify c) op parameter)
        | .error fault =>
          if fault.isRefusal then .error (.invalidValue literal c.name fault)
          else .error (.value fault)) := by
  rw [ofComparison, hc]
  cases literal with
  | none => exact absurd rfl hliteral
  | _ => rfl

end Clause

namespace Condition
variable {s : Schema} {leaf : Condition Value} {fault : QueryFault}

theorem IsAnswerable.exists_clause (h : leaf.IsAnswerable s) (qualify : Bool) :
    ∃ clause, Clause.ofCondition s qualify leaf = .ok clause := by
  cases h with
  | nullCheck hc null =>
    exact ⟨_,bind_eq_ok.mpr ⟨_,Clause.leafColumn_eq_ok.mpr hc,rfl⟩⟩
  | @null field c hc op hop =>
    have hcolumn := Clause.leafColumn_eq_ok.mpr hc
    rcases hop with rfl | rfl
    · exact ⟨_,bind_eq_ok.mpr ⟨c,hcolumn,rfl⟩⟩
    · exact ⟨_,bind_eq_ok.mpr ⟨c,hcolumn,rfl⟩⟩
  | @truth field c hc hkind =>
    have hblob : c.kind.isBlobStored = false := by rw [hkind]; rfl
    refine ⟨.isTrue (Clause.nameOf s qualify c),bind_eq_ok.mpr ⟨c,Clause.leafColumn_eq_ok.mpr hc,?_⟩⟩
    exact bind_eq_ok.mpr ⟨(),Clause.checkComparable_eq_ok.mpr hblob,if_pos hkind⟩
  | @comparison field c hc hblob literal stored hliteral hstored op =>
    have hcolumn := Clause.leafColumn_eq_ok.mpr hc
    refine ⟨.compare (Clause.nameOf s qualify c) op stored,?_⟩
    rw [Clause.ofCondition, Clause.ofComparison_of_ne_none hcolumn hliteral, hstored]
    exact bind_eq_ok.mpr ⟨(),Clause.checkComparable_eq_ok.mpr hblob,rfl⟩

theorem Refused.ofCondition_eq (h : leaf.Refused s fault) (qualify : Bool) :
    Clause.ofCondition s qualify leaf = .error fault := by
  cases h with
  | unknown hfield h =>
    exact Clause.ofCondition_of_leafColumn hfield (Clause.leafColumn_eq_error.mpr (.inl ⟨h,rfl⟩))
  | encrypted hfield hc hencrypted =>
    exact Clause.ofCondition_of_leafColumn hfield
      (Clause.leafColumn_eq_error.mpr (.inr ⟨_,hc,hencrypted,rfl⟩))
  | @ordering field c hc op hop =>
    refine bind_eq_error.mpr (.inr ⟨c,Clause.leafColumn_eq_ok.mpr hc,?_⟩)
    cases op <;> first | cases hop; done | rfl
  | @blob field c hc hblob literal hliteral op =>
    have hcolumn := Clause.leafColumn_eq_ok.mpr hc
    rw [Clause.ofCondition, Clause.ofComparison_of_ne_none hcolumn hliteral]
    exact bind_eq_error.mpr (.inl (Clause.checkComparable_eq_error.mpr ⟨hblob,rfl⟩))
  | @blobTruth field c hc hblob =>
    refine bind_eq_error.mpr (.inr ⟨c,Clause.leafColumn_eq_ok.mpr hc,?_⟩)
    exact bind_eq_error.mpr (.inl (Clause.checkComparable_eq_error.mpr ⟨hblob,rfl⟩))
  | @notBoolean field c hc hblob hkind =>
    refine bind_eq_error.mpr (.inr ⟨c,Clause.leafColumn_eq_ok.mpr hc,?_⟩)
    exact bind_eq_error.mpr (.inr ⟨(),Clause.checkComparable_eq_ok.mpr hblob,if_neg hkind⟩)
  | @invalid field c hc hblob literal hliteral fault hfault op =>
    have hcolumn := Clause.leafColumn_eq_ok.mpr hc
    rw [Clause.ofCondition, Clause.ofComparison_of_ne_none hcolumn hliteral, hfault]
    refine bind_eq_error.mpr (.inr ⟨(),Clause.checkComparable_eq_ok.mpr hblob,?_⟩)
    exact (apply_ite Except.error _ _ _).symm
  | bare => rfl
  | misfit v => rfl

/-- A leaf about a field is refused unless the field has a plain column. -/
theorem refused_or_exists_column (s : Schema) (leaf : Condition Value) {field : Text}
    (hfield : leaf.field? = some field) :
    (∃ fault, leaf.Refused s fault) ∨ ∃ c, s.NamesPlain field c := by
  by_cases hnames : ∃ c, s.Names field c
  · obtain ⟨c,hc⟩ := hnames
    cases hencrypted : c.isEncrypted with
    | true => exact .inl ⟨_,.encrypted hfield hc hencrypted⟩
    | false => exact .inr ⟨c,hc,hencrypted⟩
  · exact .inl ⟨_,.unknown hfield (not_exists.mp hnames)⟩

theorem isAnswerable_or_refused (s : Schema) (hleaf : leaf.IsLeaf) :
    leaf.IsAnswerable s ∨ ∃ fault, leaf.Refused s fault := by
  cases leaf with
  | nullCheck field null =>
    rcases refused_or_exists_column s (.nullCheck field null) rfl with hrefused | ⟨c,hc⟩
    · exact .inr hrefused
    · exact .inl (.nullCheck hc null)
  | isTrue field =>
    rcases refused_or_exists_column s (.isTrue field) rfl with hrefused | ⟨c,hc⟩
    · exact .inr hrefused
    · by_cases hkind : c.kind = .bool
      · exact .inl (.truth hc hkind)
      · cases hblob : c.kind.isBlobStored with
        | true => exact .inr ⟨_,.blobTruth hc hblob⟩
        | false => exact .inr ⟨_,.notBoolean hc hblob hkind⟩
  | comparison field op literal =>
    rcases refused_or_exists_column s (.comparison field op literal) rfl with hrefused | ⟨c,hc⟩
    · exact .inr hrefused
    · by_cases hliteral : literal = .none
      · subst hliteral
        cases op with
        | eq => exact .inl (.null hc (.inl rfl))
        | ne => exact .inl (.null hc (.inr rfl))
        | _ => exact .inr ⟨_,.ordering hc rfl⟩
      · cases hblob : c.kind.isBlobStored with
        | true => exact .inr ⟨_,.blob hc hblob hliteral op⟩
        | false =>
          cases hstored : c.kind.encode literal c.ordinal none with
          | ok stored => exact .inl (.comparison hc hblob hliteral hstored op)
          | error fault => exact .inr ⟨_,.invalid hc hblob hliteral hstored op⟩
  | bare => exact .inr ⟨_,.bare⟩
  | misfit v => exact .inr ⟨_,.misfit v⟩
  | and left right => exact hleaf.elim
  | or left right => exact hleaf.elim
  | not operand => exact hleaf.elim

theorem exists_clause_iff (hleaf : leaf.IsLeaf) (qualify : Bool) :
    (∃ clause, Clause.ofCondition s qualify leaf = .ok clause) ↔ leaf.IsAnswerable s := by
  refine ⟨?_,fun h => h.exists_clause qualify⟩
  rintro ⟨clause,hclause⟩
  rcases isAnswerable_or_refused s hleaf with h | ⟨fault,hrefused⟩
  · exact h
  · rw [hrefused.ofCondition_eq qualify] at hclause
    cases hclause

theorem ofCondition_eq_error_iff (hleaf : leaf.IsLeaf) (qualify : Bool) :
    Clause.ofCondition s qualify leaf = .error fault ↔ leaf.Refused s fault := by
  refine ⟨fun hfault => ?_,fun h => h.ofCondition_eq qualify⟩
  rcases isAnswerable_or_refused s hleaf with h | ⟨other,hrefused⟩
  · obtain ⟨clause,hclause⟩ := h.exists_clause qualify
    rw [hclause] at hfault
    cases hfault
  · have hsame := hrefused.ofCondition_eq qualify
    rw [hfault] at hsame
    cases hsame
    exact hrefused

theorem FirstRefused.singleton_iff : FirstRefused s [leaf] fault ↔ leaf.Refused s fault := by
  constructor
  · rintro ⟨before,l,after,hsplit,_,hrefused⟩
    cases before with
    | nil =>
      cases hsplit
      exact hrefused
    | cons x before => simp at hsplit
  · intro h
    exact ⟨[],leaf,[],rfl,nofun,h⟩

/-- The first refused leaf of two conditions is in the right one only if all of the left one can be
answered. -/
theorem FirstRefused.append_iff {l r : List (Condition Value)} : FirstRefused s (l ++ r) fault ↔
    FirstRefused s l fault ∨ (∀ leaf ∈ l, IsAnswerable s leaf) ∧ FirstRefused s r fault := by
  constructor
  · rintro ⟨before,leaf,after,hsplit,hbefore,hrefused⟩
    rcases List.append_eq_append_iff.mp hsplit with ⟨rest,rfl,rfl⟩ | ⟨rest,rfl,hrest⟩
    · refine .inr ⟨fun x hx => hbefore x (List.mem_append_left _ hx),rest,leaf,after,rfl,?_,hrefused⟩
      exact fun x hx => hbefore x (List.mem_append_right _ hx)
    · cases rest with
      | nil =>
        rw [List.append_nil]
        exact .inr ⟨hbefore,[],leaf,after,hrest.symm,nofun,hrefused⟩
      | cons x rest =>
        cases hrest
        exact .inl ⟨before,leaf,rest,rfl,hbefore,hrefused⟩
  · rintro (⟨before,leaf,after,rfl,hbefore,hrefused⟩ | ⟨hl,before,leaf,after,rfl,hbefore,hrefused⟩)
    · exact ⟨before,leaf,after ++ r,by simp,hbefore,hrefused⟩
    · exact ⟨l ++ before,leaf,after,by simp,List.forall_mem_append.mpr ⟨hl,hbefore⟩,hrefused⟩

end Condition

namespace Clause
variable {s : Schema} {fault : QueryFault}

theorem exists_joined_iff {x y : Except QueryFault Clause} {connective : Clause → Clause → Clause} :
    (∃ clause, (do return connective (← x) (← y)) = .ok clause) ↔
      (∃ left, x = .ok left) ∧ ∃ right, y = .ok right := by
  simp only [bind_eq_ok, pure_eq_ok]
  constructor
  · rintro ⟨_,left,hleft,right,hright,_⟩
    exact ⟨⟨left,hleft⟩,⟨right,hright⟩⟩
  · rintro ⟨⟨left,hleft⟩,⟨right,hright⟩⟩
    exact ⟨_,left,hleft,right,hright,rfl⟩

theorem joined_eq_error_iff {x y : Except QueryFault Clause} {connective : Clause → Clause → Clause} :
    (do return connective (← x) (← y)) = .error fault ↔
      x = .error fault ∨ (∃ left, x = .ok left) ∧ y = .error fault := by
  cases x <;> cases y <;> simp [bind, Except.bind, pure, Except.pure]

theorem exists_ofCondition_iff (qualify : Bool) (c : Condition Value) :
    (∃ clause, ofCondition s qualify c = .ok clause) ↔ ∀ leaf ∈ c.leaves, leaf.IsAnswerable s := by
  induction c with
  | and left right ihl ihr =>
    rw [Condition.leaves, List.forall_mem_append, ← ihl, ← ihr]
    exact exists_joined_iff
  | or left right ihl ihr =>
    rw [Condition.leaves, List.forall_mem_append, ← ihl, ← ihr]
    exact exists_joined_iff
  | not operand ih =>
    rw [Condition.leaves, ← ih]
    simp only [ofCondition, bind_eq_ok, pure_eq_ok]
    constructor
    · rintro ⟨_,clause,hclause,_⟩
      exact ⟨clause,hclause⟩
    · rintro ⟨clause,hclause⟩
      exact ⟨_,clause,hclause,rfl⟩
  | _ =>
    refine Iff.trans ?_ List.forall_mem_singleton.symm
    apply Condition.exists_clause_iff
    trivial

theorem ofCondition_eq_error_iff (qualify : Bool) (c : Condition Value) :
    ofCondition s qualify c = .error fault ↔ Condition.FirstRefused s c.leaves fault := by
  induction c with
  | and left right ihl ihr =>
    rw [Condition.leaves, Condition.FirstRefused.append_iff, ← ihl, ← ihr,
      ← exists_ofCondition_iff qualify left]
    exact joined_eq_error_iff
  | or left right ihl ihr =>
    rw [Condition.leaves, Condition.FirstRefused.append_iff, ← ihl, ← ihr,
      ← exists_ofCondition_iff qualify left]
    exact joined_eq_error_iff
  | not operand ih =>
    rw [Condition.leaves, ← ih]
    refine bind_eq_error.trans (or_iff_left ?_)
    rintro ⟨clause,_,hclause⟩
    cases hclause
  | _ =>
    refine Iff.trans ?_ Condition.FirstRefused.singleton_iff.symm
    apply Condition.ofCondition_eq_error_iff
    trivial

/-- A condition becomes a clause exactly if each of its leaves can be answered, and otherwise it is refused
for the first one that can't, whatever joins them. -/
theorem ofValue_iff_leaves {v : Value} {c : Condition Value} (h : Condition.ofValue? v = some c)
    (s : Schema) (qualify : Bool) :
    ((∃ clause, ofValue s qualify v = .ok clause) ↔ ∀ leaf ∈ c.leaves, leaf.IsAnswerable s) ∧
      ∀ fault, ofValue s qualify v = .error fault ↔ ∃ before leaf after,
        c.leaves = before ++ leaf :: after ∧ (∀ l ∈ before, Condition.IsAnswerable s l) ∧
          leaf.Refused s fault := by
  have hvalue : ofValue s qualify v = ofCondition s qualify c := by
    cases v <;> cases h <;> rfl
  rw [hvalue]
  exact ⟨exists_ofCondition_iff qualify c,fun fault => ofCondition_eq_error_iff qualify c⟩

end Clause

namespace Person
open Condition

def unanswerable : Condition Value :=
  .or (.isTrue "active") (.not (.and (.comparison "nick" .eq (.int 7)) (.comparison "age" .lt .none)))

theorem refused_nick : Refused schema (.comparison "nick" .eq (.int 7))
    (.invalidValue (.int 7) "nickname" (.expected "str" "int")) := by
  have hnick : schema.NamesPlain "nick"
      { name := "nickname", fieldName := "nick", kind := .string, ordinal := 2 } := ⟨.inl rfl,rfl⟩
  have hliteral : Value.int 7 ≠ .none := nofun
  exact Refused.invalid hnick rfl hliteral rfl .eq

/-- The nickname is told, for it stands before the order. -/
theorem ofValue_unanswerable : Condition.ofValue? (.condition unanswerable) = some unanswerable ∧
    Clause.ofValue schema false (.condition unanswerable) =
      .error (.invalidValue (.int 7) "nickname" (.expected "str" "int")) := by
  have hnames : schema.NamesPlain "active"
      { name := "active", fieldName := "active", kind := .bool, ordinal := 1 } := ⟨.inl rfl,rfl⟩
  have hactive : IsAnswerable schema (.isTrue "active") := .truth hnames rfl
  refine ⟨rfl,((Clause.ofValue_iff_leaves rfl schema false).2 _).mpr ?_⟩
  exact ⟨[.isTrue "active"],_,_,rfl,List.forall_mem_singleton.mpr hactive,refused_nick⟩

end Person
end SealedRows
