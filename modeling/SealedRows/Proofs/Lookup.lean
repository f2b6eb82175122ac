import Mathlib.Data.List.Forall2
import Mathlib.Data.List.Nodup

/-! # Lookups

An element of a list whose keys are all different is found by its key.
-/
namespace SealedRows
variable {α β γ : Type}

theorem find?_of_nodup [DecidableEq β] {key : α → β} {l : List α} (hl : (l.map key).Nodup) {a : α}
    (ha : a ∈ l) : l.find? (fun b => key b = key a) = some a := by
  have hsome : (l.find? (fun b => key b = key a)).isSome :=
    List.find?_isSome.mpr ⟨a,ha,decide_eq_true rfl⟩
  obtain ⟨b,hb⟩ := Option.isSome_iff_exists.mp hsome
  have hkey : key b = key a := by simpa using List.find?_some hb
  rw [hb, List.inj_on_of_nodup_map hl (List.mem_of_find?_eq_some hb) ha hkey]

theorem lookup_of_nodup [BEq α] [LawfulBEq α] {l : List (α × β)} (hl : (l.map (·.1)).Nodup) {a : α}
    {b : β} (h : (a,b) ∈ l) : l.lookup a = some b := by
  induction l with
  | nil => cases h
  | cons entry rest ih =>
    obtain ⟨k,v⟩ := entry
    obtain ⟨hk,hrest⟩ := List.nodup_cons.mp hl
    rcases List.mem_cons.mp h with heq | hmem
    · cases heq
      rw [List.lookup_cons_self]
    · have hne : (a == k) = false := by
        rw [beq_eq_false_iff_ne]
        rintro rfl
        exact hk (List.mem_map.mpr ⟨_,hmem,rfl⟩)
      rw [List.lookup_cons, hne]
      exact ih hrest hmem

theorem exists_of_forall₂ {R : α → β → Prop} {l : List α} {m : List β} (h : List.Forall₂ R l m) {a : α}
    (ha : a ∈ l) : ∃ b ∈ m, R a b := by
  induction h with
  | nil => cases ha
  | cons hr _ ih =>
    rcases List.mem_cons.mp ha with rfl | ha
    · exact ⟨_,List.mem_cons_self ..,hr⟩
    · obtain ⟨b,hb,hab⟩ := ih ha
      exact ⟨b,List.mem_cons_of_mem _ hb,hab⟩

end SealedRows
