import SealedRows.Proofs.Decimal.Equality

/-! # Comparisons of values

Of two numbers, two texts or two byte strings one is below the other or both are equal, and so of two
moments if both are instants or neither is. Each operator looks at nothing but which of these it is.
-/
namespace SealedRows

def Operator.accepts : Operator → Ordering → Bool
  | eq, o => o == .eq
  | ne, o => o != .eq
  | lt, o => o == .lt
  | le, o => o == .lt || o == .eq
  | gt, o => o == .gt
  | ge, o => o == .gt || o == .eq

theorem compare_list_eq_lt {α : Type} [Ord α] [LT α] [DecidableEq α]
    (hlt : ∀ {a b : α}, compare a b = .lt ↔ a < b) (heq : ∀ {a b : α}, compare a b = .eq ↔ a = b)
    (s t : List α) : compare s t = .lt ↔ s < t := by
  induction s generalizing t with
  | nil =>
    cases t with
    | nil => simp [List.compare_nil_nil]
    | cons b t => simp [List.compare_nil_cons]
  | cons a s ih =>
    cases t with
    | nil => simp [List.compare_cons_nil]
    | cons b t =>
      rw [List.compare_cons_cons, List.cons_lt_cons_iff, Ordering.then_eq_lt, hlt, heq, ih]

theorem Bytes.compare_eq_lt (a b : Bytes) : compare a b = .lt ↔ a < b :=
  compare_list_eq_lt Std.compare_eq_lt Std.compare_eq_iff_eq a b

theorem Text.compare_eq_lt (t u : Text) : compare t u = .lt ↔ t < u := by
  have hlt {c d : CodePoint} : compare c d = .lt ↔ c < d := Nat.compare_eq_lt
  have heq {c d : CodePoint} : compare c d = .eq ↔ c = d := Nat.compare_eq_eq.trans Fin.val_inj
  exact compare_list_eq_lt hlt heq t u

/-- An operator looks at nothing but the order of two values, if equality agrees with it. -/
theorem Operator.holds_of_order {v w : Value} {o : Ordering} (hequals : v.equals w = .ok (o == .eq))
    (horder : v.order w = .ok (some o)) (op : Operator) : op.holds v w = .ok (op.accepts o) := by
  cases op <;> simp only [holds, accepts, hequals, horder, Except.map] <;> rfl

namespace Value
variable {v w : Value} (op : Operator)

theorem holds_of_numbers {a b : Decimal} {q r : ExtendedRat} (hv : v.number? = some a)
    (hw : w.number? = some b) (ha : a.extended? = some q) (hb : b.extended? = some r) :
    op.holds v w = .ok (op.accepts (compare q r)) := by
  have hself : a.sameAs a := (Decimal.sameAs_iff ha ha).mpr rfl
  have hself' : b.sameAs b := (Decimal.sameAs_iff hb hb).mpr rfl
  have hsame : a.sameAs b = (compare q r == .eq) := by
    rw [Bool.eq_iff_iff, Decimal.sameAs_iff ha hb, beq_iff_eq, compare_eq_iff_eq]
  apply Operator.holds_of_order
  · rw [equals_eq_sameLeaf (.inl (.number hv hself)), sameLeaf_number hv hw
      (Decimal.isSignaling_of_sameAs hself) (Decimal.isSignaling_of_sameAs hself'), hsame]
  · have hleaf : v.order w = v.orderLeaf w := by
      cases v <;> first | cases hv; done | (cases w <;> rfl)
    rw [hleaf]
    simp only [orderLeaf, hv, hw, Decimal.order?_of_extended? ha hb]

theorem holds_of_bytes {a b : Bytes} (hv : v.bytes? = some a) (hw : w.bytes? = some b) :
    op.holds v w = .ok (op.accepts (compare a b)) := by
  have hsame : (a == b) = (compare a b == .eq) := by
    rw [Bool.eq_iff_iff, beq_iff_eq, beq_iff_eq, Std.compare_eq_iff_eq]
  apply Operator.holds_of_order
  · rw [← hsame]
    cases v <;> cases hv <;> cases w <;> cases hw <;> simp only [equals] <;> rfl
  · cases v <;> cases hv <;> cases w <;> cases hw <;> rfl

theorem holds_of_texts (t u : Text) : op.holds (.text t) (.text u) = .ok (op.accepts (compare t u)) := by
  have hsame : (t == u) = (compare t u == .eq) := by
    rw [Bool.eq_iff_iff, beq_iff_eq, beq_iff_eq, Std.compare_eq_iff_eq]
  apply Operator.holds_of_order
  · rw [← hsame]
    simp only [equals]
    rfl
  · rfl

theorem holds_of_moments {m n : Moment} (h : m.offset.isSome = n.offset.isSome) :
    op.holds (.moment m) (.moment n) = .ok (op.accepts (compare m.instant n.instant)) := by
  have hsame : m.sameAs n = (compare m.instant n.instant == .eq) := by
    rw [Bool.eq_iff_iff, beq_iff_eq, Std.compare_eq_iff_eq]
    simp only [Moment.sameAs, h, beq_self_eq_true, Bool.true_and, beq_iff_eq]
  apply Operator.holds_of_order
  · rw [← hsame]
    simp only [equals]
    rfl
  · simp only [order, orderLeaf, number?, bytes?, h, if_true]

end Value
end SealedRows
