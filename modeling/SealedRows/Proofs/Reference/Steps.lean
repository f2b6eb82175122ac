import SealedRows.Proofs.Reference.Visit

/-! # Steps of the resolution

What entering a record and loading what a foreign key refers to can do, whatever the records come from
and however the step ends. A property that both of them keep is kept by the resolution of any records.
-/
namespace SealedRows.Traversal
variable {σ : Type}

def registered (catalog : Catalog) (t : Traversal σ) (typeName : Text) : Traversal σ :=
  { t with registry := (t.registry.schemaFor catalog typeName).2 }

def reached (t : Traversal σ) (id : RecordId) (k : ForeignKey) (key : Value) (found : RecordId) :
    Traversal σ :=
  { t.navigated id k.navigationField (some found) with
    visited := t.visited.note k.referencedTable key found }

section
variable (catalog : Catalog) (source : Source σ) (onward : RecordId → Schema → Step σ Unit)
  (id : RecordId) (k : ForeignKey) (key : Value) (t : Traversal σ)

inductive Loads : Except Fault Unit × Traversal σ → Prop where
  | refused (hkey : key.isHashable = false) : Loads (.error (.general .wrongType),t)
  | met {found : RecordId} (hmet : t.visited.find? k.referencedTable key = some found) :
      Loads (.ok (),t.navigated id k.navigationField (some found))
  | unregistered {fault : SchemaFault}
      (hs : (t.registry.schemaFor catalog k.referencedType).1 = .error fault) :
      Loads (.error (.schema fault),t.registered catalog k.referencedType)
  | failed {u : Schema} {fault : Fault} {asked : Traversal σ}
      (hs : (t.registry.schemaFor catalog k.referencedType).1 = .ok u)
      (hfetch : fetch source u k.referencedColumn key (t.registered catalog k.referencedType) =
        (.error fault,asked)) : Loads (.error fault,asked)
  | missing {u : Schema} {asked : Traversal σ}
      (hs : (t.registry.schemaFor catalog k.referencedType).1 = .ok u)
      (hfetch : fetch source u k.referencedColumn key (t.registered catalog k.referencedType) =
        (.ok none,asked)) : Loads (.ok (),asked.navigated id k.navigationField none)
  | loaded {u : Schema} {asked : Traversal σ} {found : RecordId}
      (hs : (t.registry.schemaFor catalog k.referencedType).1 = .ok u)
      (hfetch : fetch source u k.referencedColumn key (t.registered catalog k.referencedType) =
        (.ok (some found),asked)) : Loads (onward found u (asked.reached id k key found))

end

variable {catalog : Catalog} {source : Source σ} {onward : RecordId → Schema → Step σ Unit}
  {t : Traversal σ} {id : RecordId} {s : Schema} {k : ForeignKey} {ks : List ForeignKey} {key : Value}

theorem schemaFor_of_error {typeName : Text} {fault : SchemaFault}
    (hs : (t.registry.schemaFor catalog typeName).1 = .error fault) :
    schemaFor catalog typeName t = (.error (.schema fault),t.registered catalog typeName) := by
  rw [schemaFor]
  dsimp only
  rw [hs]
  rfl

theorem note_of_hashable (hkey : key.isHashable) (table : Text) (found : RecordId) :
    note table key found t = (.ok (),{ t with visited := t.visited.note table key found }) := by
  rw [note, if_pos hkey]
  rfl

theorem load_of_unmet (hkey : key.isHashable) (hnew : t.visited.find? k.referencedTable key = none) :
    load catalog source onward id k key t =
      (schemaFor catalog k.referencedType >>= fun u => fetch source u k.referencedColumn key >>=
        fun found => navigate id k.navigationField found >>= fun _ =>
          match found with
          | none => pure ()
          | some found => note k.referencedTable key found >>= fun _ => onward found u) t := by
  unfold load
  rw [hkey, Bool.not_true, if_neg Bool.false_ne_true]
  refine (get_bind _ t).trans ?_
  -- The lookup is matched on inside a step, where it can't be rewritten.
  generalize t.visited.find? k.referencedTable key = met at hnew
  subst hnew
  rfl

theorem load_loads : Loads catalog source onward id k key t (load catalog source onward id k key t) := by
  by_cases hkey : key.isHashable
  · cases hmet : t.visited.find? k.referencedTable key with
    | some found =>
      have hload : load catalog source onward id k key t =
          (.ok (),t.navigated id k.navigationField (some found)) := by
        unfold load
        rw [hkey, Bool.not_true, if_neg Bool.false_ne_true]
        refine (get_bind _ t).trans ?_
        rw [hmet]
        rfl
      rw [hload]
      exact .met hmet
    | none =>
      rw [load_of_unmet hkey hmet]
      cases hs : (t.registry.schemaFor catalog k.referencedType).1 with
      | error fault =>
        rw [bind_of_error (schemaFor_of_error hs)]
        exact .unregistered hs
      | ok u =>
        have hschema : schemaFor catalog k.referencedType t =
            (.ok u,t.registered catalog k.referencedType) := schemaFor_eq hs
        rw [bind_of_ok hschema]
        generalize hfetch : fetch source u k.referencedColumn key
          (t.registered catalog k.referencedType) = outcome
        obtain ⟨result,asked⟩ := outcome
        cases result with
        | error fault =>
          rw [bind_of_error hfetch]
          exact .failed hs hfetch
        | ok found =>
          rw [bind_of_ok hfetch, bind_of_ok navigate_eq]
          cases found with
          | none => exact .missing hs hfetch
          | some found =>
            dsimp only
            rw [bind_of_ok (note_of_hashable hkey k.referencedTable found)]
            exact .loaded hs hfetch
  · have hload : load catalog source onward id k key t = (.error (.general .wrongType),t) := by
      unfold load
      rw [Bool.eq_false_iff.mpr hkey, Bool.not_false, if_pos rfl]
      rfl
    rw [hload]
    exact .refused (Bool.eq_false_iff.mpr hkey)

/-- Entering a record notes it by its primary key, which is not null, or does nothing. -/
theorem enter_noted (id : RecordId) (s : Schema) (t : Traversal σ) : (enter id s t).2 = t ∨
    ∃ c, s.primaryKey = .ok c ∧ t.heap.value id c.fieldName ≠ .none ∧ (enter id s t).2 =
      { t with visited := t.visited.note s.name (t.heap.value id c.fieldName) id } := by
  unfold enter
  cases s.primaryKey with
  | error fault => exact Or.inl rfl
  | ok c =>
    dsimp only
    rw [get_bind]
    by_cases hnone : (t.heap.value id c.fieldName).isNone
    · rw [if_pos hnone]
      exact Or.inl rfl
    · rw [if_neg hnone]
      by_cases hkey : (t.heap.value id c.fieldName).isHashable
      · rw [note_of_hashable hkey]
        exact Or.inr ⟨c,rfl,mt Value.isNone_iff.mpr hnone,rfl⟩
      · rw [note, if_neg hkey]
        exact Or.inl rfl

theorem enter_cases (id : RecordId) (s : Schema) (t : Traversal σ) : (enter id s t).2 = t ∨
    ∃ key, (enter id s t).2 = { t with visited := t.visited.note s.name key id } :=
  (enter_noted id s t).imp_right fun ⟨_,_,_,hnoted⟩ => ⟨_,hnoted⟩

/-- A property that every step of the resolution keeps, with a relation of what was before to what is
afterwards, and the records that may be resolved. -/
structure Kept (catalog : Catalog) (source : Source σ) (holds : Traversal σ → Prop)
    (grows : Traversal σ → Traversal σ → Prop) (stands : Traversal σ → RecordId → Schema → Prop) :
    Prop where
  refl : ∀ t, grows t t
  trans : ∀ {t t' t''}, grows t t' → grows t' t'' → grows t t''
  stands_mono : ∀ {t t' id s}, stands t id s → grows t t' → stands t' id s
  enter : ∀ {t id s}, holds t → stands t id s →
    holds (Traversal.enter id s t).2 ∧ grows t (Traversal.enter id s t).2
  load : ∀ {onward : RecordId → Schema → Step σ Unit},
    (∀ {t id s}, holds t → stands t id s → holds (onward id s t).2 ∧ grows t (onward id s t).2) →
    ∀ {t id s k}, holds t → stands t id s → k ∈ s.foreignKeys → k.autoResolve → ∀ key,
      holds (Traversal.load catalog source onward id k key t).2 ∧
        grows t (Traversal.load catalog source onward id k key t).2

namespace Kept
variable {holds : Traversal σ → Prop} {grows : Traversal σ → Traversal σ → Prop}
  {stands : Traversal σ → RecordId → Schema → Prop} (h : Kept catalog source holds grows stands)
include h

theorem bind {x y : Step σ Unit} (hx : holds (x t).2 ∧ grows t (x t).2)
    (hy : holds (x t).2 → grows t (x t).2 → holds (y (x t).2).2 ∧ grows (x t).2 (y (x t).2).2) :
    holds ((x >>= fun _ => y) t).2 ∧ grows t ((x >>= fun _ => y) t).2 := by
  generalize hrun : x t = outcome at hx hy
  obtain ⟨result,t'⟩ := outcome
  cases result with
  | error fault =>
    rw [bind_of_error hrun]
    exact hx
  | ok a =>
    obtain ⟨hholds,hgrows⟩ := hy hx.1 hx.2
    rw [bind_of_ok hrun]
    exact ⟨hholds,h.trans hx.2 hgrows⟩

theorem follow
    (honward : ∀ {t id s}, holds t → stands t id s →
      holds (onward id s t).2 ∧ grows t (onward id s t).2)
    (ht : holds t) (hid : stands t id s) (hks : ∀ k ∈ ks, k ∈ s.foreignKeys) :
    holds (follow catalog source onward id ks t).2 ∧ grows t (follow catalog source onward id ks t).2 := by
  induction ks generalizing t with
  | nil => exact ⟨ht,h.refl t⟩
  | cons k ks ih =>
    obtain ⟨hk,hrest⟩ := List.forall_mem_cons.mp hks
    rw [Traversal.follow]
    rw [get_bind]
    by_cases hcondition : (k.autoResolve && !(t.heap.value id k.fieldName).isNone) = true
    · rw [if_pos hcondition]
      have hauto : k.autoResolve := (Bool.and_eq_true_iff.mp hcondition).1
      refine h.bind (h.load honward ht hid hk hauto _) fun hholds hgrows => ?_
      exact ih hholds (h.stands_mono hid hgrows) hrest
    · rw [if_neg hcondition]
      exact ih ht hid hrest

theorem visit (depth : Nat) (ht : holds t) (hid : stands t id s) :
    holds (Traversal.visit catalog source depth id s t).2 ∧
      grows t (Traversal.visit catalog source depth id s t).2 := by
  induction depth generalizing t id s with
  | zero => exact ⟨ht,h.refl t⟩
  | succ depth ih =>
    rw [Traversal.visit]
    refine h.bind (h.enter ht hid) fun hholds hgrows => ?_
    exact h.follow ih hholds (h.stands_mono hid hgrows) fun _ hk => hk

/-- The resolution of any records keeps what each step keeps, also when it fails. -/
theorem resolveAll {roots : List (RecordId × Schema)} (ht : holds t)
    (hroots : ∀ root ∈ roots, stands t root.1 root.2) :
    holds (resolveAll catalog source roots t).2 ∧ grows t (resolveAll catalog source roots t).2 := by
  induction roots generalizing t with
  | nil => exact ⟨ht,h.refl t⟩
  | cons root roots ih =>
    obtain ⟨id,s⟩ := root
    obtain ⟨hroot,hrest⟩ := List.forall_mem_cons.mp hroots
    rw [Traversal.resolveAll]
    refine h.bind ?_ fun hholds hgrows => ?_
    · rw [resolve, get_bind]
      exact h.visit _ ht hroot
    · exact ih hholds fun root hmem => h.stands_mono (hrest root hmem) hgrows

end Kept
end SealedRows.Traversal
