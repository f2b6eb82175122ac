import Mathlib.Data.List.Forall2
import SealedRows.Codec

/-! # Results of partial steps

A chain of steps that may fail gives a result if every step gives one, so a result can be taken apart
into those of the steps. A step on a state that fails ends the chain in the state that it has reached.
-/
namespace SealedRows
variable {ε δ α β : Type}

@[simp] theorem bind_eq_ok {x : Except ε α} {f : α → Except ε β} {b : β} :
    x >>= f = .ok b ↔ ∃ a, x = .ok a ∧ f a = .ok b := by
  cases x <;> simp [bind, Except.bind]

theorem bind_eq_error {x : Except ε α} {f : α → Except ε β} {fault : ε} :
    x >>= f = .error fault ↔ x = .error fault ∨ ∃ a, x = .ok a ∧ f a = .error fault := by
  cases x <;> simp [bind, Except.bind]

@[simp] theorem map_eq_ok {x : Except ε α} {f : α → β} {b : β} :
    x.map f = .ok b ↔ ∃ a, x = .ok a ∧ f a = b := by
  cases x <;> simp [Except.map]

@[simp] theorem mapError_eq_ok {x : Except ε α} {f : ε → δ} {a : α} :
    x.mapError f = .ok a ↔ x = .ok a := by
  cases x <;> simp [Except.mapError]

@[simp] theorem pure_eq_ok {a b : α} : (pure a : Except ε α) = .ok b ↔ a = b := by
  simp [pure, Except.pure]

/-- A guard lets through what it does not refuse. -/
theorem guard_eq_ok {p : Prop} [Decidable p] {fault : ε} {x : Except ε α} {a : α} :
    (if p then .error fault else x) = .ok a ↔ ¬p ∧ x = .ok a := by
  split <;> simp [*]

def faultOf : Except ε α → Option ε
  | .ok _ => none
  | .error fault => some fault

theorem faultOf_eq_none {x : Except ε α} : faultOf x = none ↔ ∃ a, x = .ok a := by
  cases x <;> simp [faultOf]

theorem faultOf_eq_some {x : Except ε α} {fault : ε} : faultOf x = some fault ↔ x = .error fault := by
  cases x <;> simp [faultOf]

@[simp] theorem ValueFault.liftCipher_eq_ok {x : Except CipherFault α} {a : α} :
    liftCipher x = .ok a ↔ x = .ok a := by
  cases x <;> simp [liftCipher]

theorem forall₂_of_mapM {f : α → Except ε β} {l : List α} {bs : List β} (h : l.mapM f = .ok bs) :
    List.Forall₂ (fun a b => f a = .ok b) l bs := by
  induction l generalizing bs with
  | nil =>
    cases h
    exact .nil
  | cons a l ih =>
    rw [List.mapM_cons] at h
    obtain ⟨b,hb,h⟩ := bind_eq_ok.mp h
    obtain ⟨rest,hrest,h⟩ := bind_eq_ok.mp h
    cases h
    exact .cons hb (ih hrest)

theorem mapM_eq_error {f : α → Except ε β} {fault : ε} {l : List α} (h : l.mapM f = .error fault) :
    ∃ a ∈ l, f a = .error fault := by
  induction l with
  | nil => cases h
  | cons a l ih =>
    rw [List.mapM_cons] at h
    rcases bind_eq_error.mp h with ha | ⟨c,_,h⟩
    · exact ⟨a,List.mem_cons_self,ha⟩
    · rcases bind_eq_error.mp h with hl | ⟨_,_,h⟩
      · obtain ⟨b,hb,hfault⟩ := ih hl
        exact ⟨b,List.mem_cons_of_mem _ hb,hfault⟩
      · cases h

theorem mapM_append_error {f : α → Except ε β} {fault : ε} {front back : List α} {a : α}
    (hfront : ∀ b ∈ front, ∃ c, f b = .ok c) (ha : f a = .error fault) :
    (front ++ a :: back).mapM f = .error fault := by
  induction front with
  | nil =>
    rw [List.nil_append, List.mapM_cons, ha]
    rfl
  | cons b front ih =>
    obtain ⟨⟨c,hc⟩,hrest⟩ := List.forall_mem_cons.mp hfront
    rw [List.cons_append, List.mapM_cons, hc, ih hrest]
    rfl

theorem exists_mapM_ok {f : α → Except ε β} {l : List α} (h : ∀ a ∈ l, ∃ b, f a = .ok b) :
    ∃ bs, l.mapM f = .ok bs := by
  cases hl : l.mapM f with
  | ok bs => exact ⟨bs,rfl⟩
  | error fault =>
    obtain ⟨a,ha,hfault⟩ := mapM_eq_error hl
    obtain ⟨b,hb⟩ := h a ha
    cases hfault.symm.trans hb

theorem exists_of_optionMapM {f : α → Except ε β} {o : Option α} {b : β}
    (h : o.mapM f = .ok (some b)) : ∃ a, o = some a ∧ f a = .ok b := by
  cases o with
  | none => cases h
  | some a =>
    obtain ⟨c,hc,h⟩ := map_eq_ok.mp h
    cases h
    exact ⟨a,rfl,hc⟩

section
variable {σ : Type} {x : ExceptT ε (StateM σ) α} {f : α → ExceptT ε (StateM σ) β} {t t' : σ}

theorem bind_of_ok {a : α} (h : x t = (.ok a,t')) : (x >>= f) t = f a t' := by
  simp only [bind, ExceptT.bind, ExceptT.mk, StateT.bind, h, ExceptT.bindCont]

theorem bind_of_error {fault : ε} (h : x t = (.error fault,t')) : (x >>= f) t = (.error fault,t') := by
  simp only [bind, ExceptT.bind, ExceptT.mk, StateT.bind, h, ExceptT.bindCont]
  rfl

theorem get_bind (f : σ → ExceptT ε (StateM σ) β) (t : σ) : (get >>= f) t = f t t := bind_of_ok rfl

end
end SealedRows
