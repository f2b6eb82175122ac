import Mathlib.Data.List.Induction
import SealedRows.Proofs.Reference.Visit

/-! # Roots that are resolved in turn

Each root is entered and its foreign keys are followed before those of the next one. The depth that the
shelf allows suffices, and a larger one makes no difference.
-/
namespace SealedRows.Traversal
variable {catalog : Catalog} {schemas : List Schema} {shelf : Shelf} {start : Heap}
  {roots rest : List (RecordId × Schema)} {t t' : Traversal (List FetchCall)} {s : Schema}
  {id : RecordId} {source : Source (List FetchCall)}

/-- How far the resolution of references comes with some roots. -/
def after (catalog : Catalog) (shelf : Shelf) (t : Traversal (List FetchCall))
    (roots : List (RecordId × Schema)) : Traversal (List FetchCall) :=
  (resolveAll catalog shelf.source roots t).2

/-- Whether the resolution of references succeeds, with the same outcome whatever depth is allowed from
the length of the shelf on. -/
def Ends (catalog : Catalog) (shelf : Shelf) (t : Traversal (List FetchCall))
    (roots : List (RecordId × Schema)) : Prop :=
  ∀ source : Source (List FetchCall), source.fetch = shelf.source.fetch →
    (∀ calls, shelf.length ≤ source.depth calls) →
    resolveAll catalog source roots t = (.ok (),after catalog shelf t roots)

theorem resolveAll_append (h : resolveAll catalog source roots t = (.ok (),t')) :
    resolveAll catalog source (roots ++ rest) t = resolveAll catalog source rest t' := by
  induction roots generalizing t with
  | nil =>
    cases h
    rfl
  | cons root roots ih =>
    obtain ⟨id,s⟩ := root
    rw [resolveAll] at h
    rw [List.cons_append, resolveAll]
    generalize hresolve : resolve catalog source id s t = result at h
    rcases result with ⟨_ | _,middle⟩
    · simp only [bind, ExceptT.bind, ExceptT.mk, StateT.bind, hresolve, ExceptT.bindCont] at h
      cases h
    · rw [bind_of_ok hresolve] at h ⊢
      exact ih h

theorem invariant_start {registry : Registry} (h : Registry.Built catalog registry) (heap : Heap) :
    Invariant catalog schemas shelf heap [] ⟨registry,heap,[],[]⟩ where
  built := h
  keyed := nofun
  length_le := Nat.le_refl _
  old := .refl heap
  new := fun _ _ ha hr' => absurd (List.getElem?_eq_some_iff.mp hr').1 ha.not_gt
  visited := nofun
  met := nofun
  searched := fun _ _ _ _ _ => ⟨Nat.zero_le _,fun _ => rfl⟩

section Root
variable (h : Invariant catalog schemas shelf start roots t) (hschemas : Navigable catalog schemas)
  (hs : s ∈ schemas) {r : Record} (hr : start[id]? = some r) (hof : r.IsOf s) (hkeyed : r.Keyed s)
include h hschemas hs hr hof hkeyed

theorem Invariant.of_root {visited : Visited} (hmore : t.visited <+: visited)
    (hvisited : ∀ e ∈ visited, e ∈ t.visited ∨ e = ((s.name,r.primary s),id) ∧ (r.primary s).IsKey)
    (hmet : ∀ key : Value, key.IsKey → (r.primary s).isSameKey key →
      (visited.find? s.name key).isSome) :
    Invariant catalog schemas shelf start (roots ++ [(id,s)]) { t with visited := visited } := by
  have hroot : (id,s) ∈ roots ++ [(id,s)] := List.mem_append_right _ (List.mem_singleton_self _)
  obtain ⟨r',hr',hrenavigated⟩ := h.old id r hr
  refine ⟨h.built,?_,h.length_le,h.old,h.new,?_,?_,?_⟩
  · intro root hmem
    rcases List.mem_append.mp hmem with hold | hnew
    · exact h.keyed root hold
    · cases List.mem_singleton.mp hnew
      exact ⟨hs,r,hr,hof,hkeyed⟩
  · intro e he
    rcases hvisited e he with hold | ⟨rfl,hkey⟩
    · obtain ⟨u,hu,hname,hkey,hknown,horigin,hrecord⟩ := h.visited e hold
      refine ⟨u,hu,hname,hkey,hknown.mono _,horigin.imp_left fun hmem => ?_,hrecord⟩
      rw [List.map_append]
      exact List.mem_append_left _ hmem
    · have hsame := hkey.isSameKey_self
      refine ⟨s,hs,rfl,hkey,Or.inr ⟨(id,s),hroot,rfl,r,hr,hsame⟩,
        Or.inl (List.mem_map.mpr ⟨(id,s),hroot,rfl⟩),r',hr',hrenavigated.isOf.mpr hof,
        hrenavigated.keyed hschemas hs hof hkeyed,?_⟩
      rw [hrenavigated.primary_eq hschemas hs hof]
      exact hsame
  · intro root hmem r'' hr'' key hkey hsame
    rcases List.mem_append.mp hmem with hold | hnew
    · exact Visited.isSome_mono hmore (h.met root hold r'' hr'' key hkey hsame)
    · cases List.mem_singleton.mp hnew
      cases hr.symm.trans hr''
      exact hmet key hkey hsame
  · intro u hu key hkey hholds
    obtain ⟨hone,hnone⟩ := h.searched u hu key hkey hholds
    exact ⟨hone,fun hfind => hnone (Visited.eq_none_of_later hmore hfind)⟩

/-- A root is entered, and all its foreign keys are to be followed. -/
theorem Invariant.enter (hshelf : shelf.Keyed schemas) :
    Pending catalog schemas shelf start (roots ++ [(id,s)]) (t.entered id s) s id s.foreignKeys := by
  obtain ⟨r',hr',hrenavigated⟩ := h.old id r hr
  have hof' := hrenavigated.isOf.mpr hof
  have hkeyed' := hrenavigated.keyed hschemas hs hof hkeyed
  obtain ⟨c,_,hc⟩ := hschemas.primaryKey hs
  have hentered : t.entered id s = if (r.primary s).isNone then t
      else { t with visited := t.visited.note s.name (r.primary s) id } := by
    unfold entered
    rw [hc]
    dsimp only
    rw [hkeyed'.heap_primary hr' hc, hrenavigated.primary_eq hschemas hs hof]
  refine ⟨hschemas,hshelf,?_,hs,⟨r',?_,hof',hkeyed'⟩,List.suffix_rfl⟩
  · rw [hentered]
    rcases hkeyed.primary with hkey | hnone
    · rw [hkey.isNone_eq, if_neg Bool.false_ne_true]
      refine h.of_root hschemas hs hr hof hkeyed Visited.prefix_note (fun e he => ?_) ?_
      · exact (Visited.mem_note he).imp_right fun heq => ⟨heq,hkey⟩
      · exact fun key => Visited.find?_note_of_same (fun _ => h.isKey_of_mem) hkey
    · rw [hnone, Value.isNone, if_pos rfl]
      refine h.of_root hschemas hs hr hof hkeyed (List.prefix_refl _) (fun _ => Or.inl) ?_
      intro key hother hsame
      rw [hnone] at hsame
      have hsameKey := (Value.isSameKey_iff (Or.inr rfl) hother).mp hsame
      exact absurd rfl (hsameKey.isKey (Or.inr rfl)).ne_none
  · rw [entered_heap]
    exact hr'

end Root

theorem unmet_le_length (visited : Visited) : unmet schemas shelf visited ≤ shelf.length :=
  List.countP_le_length

section Resolve
variable (h : Invariant catalog schemas shelf start roots t) (hschemas : Navigable catalog schemas)
  (hshelf : shelf.Keyed schemas) (hs : s ∈ schemas) (hid : start.HasKeyed s id)
include h hschemas hshelf hs hid

/-- The outcome is the same for all sources that allow the depth. -/
theorem resolve_eq : ∃ t', Follows catalog shelf (t.entered id s) id s.foreignKeys t' ∧
    ∀ source : Source (List FetchCall), source.fetch = shelf.source.fetch →
      (∀ calls, shelf.length ≤ source.depth calls) →
      resolve catalog source id s t = (.ok (),t') := by
  obtain ⟨r,hr,hof,hkeyed⟩ := hid
  have hpending := h.enter hschemas hs hr hof hkeyed hshelf
  have hrun (source : Source (List FetchCall)) (hfetch : source.fetch = shelf.source.fetch)
      (hdepth : ∀ calls, shelf.length ≤ source.depth calls) :
      ∃ t', Follows catalog shelf (t.entered id s) id s.foreignKeys t' ∧
        resolve catalog source id s t = (.ok (),t') := by
    have hpaid : unmet schemas shelf (t.entered id s).visited < source.depth t.source + 1 :=
      Nat.lt_succ_of_le ((unmet_le_length _).trans (hdepth t.source))
    obtain ⟨t',hfollows,hvisit⟩ := visit_eq hfetch _ t s id hpending hpaid
    refine ⟨t',hfollows,?_⟩
    rw [resolve, get_bind]
    exact hvisit
  obtain ⟨t',hfollows,_⟩ := hrun shelf.source rfl fun _ => Nat.le_refl _
  refine ⟨t',hfollows,fun source hfetch hdepth => ?_⟩
  obtain ⟨t'',hfollows',hresolve⟩ := hrun source hfetch hdepth
  cases hfollows.unique hfollows'
  exact hresolve

end Resolve

section After
variable {registry : Registry} {heap : Heap} (hschemas : Navigable catalog schemas)
  (hshelf : shelf.Keyed schemas)
include hschemas hshelf

theorem after_append_singleton {begin : Traversal (List FetchCall)}
    (hends : Ends catalog shelf begin roots)
    (h : Invariant catalog schemas shelf start roots (after catalog shelf begin roots))
    (hs : s ∈ schemas) (hid : start.HasKeyed s id) :
    Follows catalog shelf ((after catalog shelf begin roots).entered id s) id s.foreignKeys
      (after catalog shelf begin (roots ++ [(id,s)])) ∧
    Ends catalog shelf begin (roots ++ [(id,s)]) := by
  obtain ⟨t',hfollows,hresolve⟩ := resolve_eq h hschemas hshelf hs hid
  have hrun (source : Source (List FetchCall)) (hfetch : source.fetch = shelf.source.fetch)
      (hdepth : ∀ calls, shelf.length ≤ source.depth calls) :
      resolveAll catalog source (roots ++ [(id,s)]) begin = (.ok (),t') := by
    rw [resolveAll_append (hends source hfetch hdepth), resolveAll,
      bind_of_ok (hresolve source hfetch hdepth)]
    rfl
  have hafter : after catalog shelf begin (roots ++ [(id,s)]) = t' := by
    rw [after, hrun shelf.source rfl fun _ => Nat.le_refl _]
  rw [hafter]
  exact ⟨hfollows,fun source hfetch hdepth => by rw [hafter]; exact hrun source hfetch hdepth⟩

theorem invariant_after (hbuilt : Registry.Built catalog registry)
    (hroots : ∀ root ∈ roots, root.2 ∈ schemas ∧ heap.HasKeyed root.2 root.1) :
    Ends catalog shelf ⟨registry,heap,[],[]⟩ roots ∧ Invariant catalog schemas shelf heap roots
      (after catalog shelf ⟨registry,heap,[],[]⟩ roots) := by
  induction roots using List.reverseRecOn with
  | nil => exact ⟨fun _ _ _ => rfl,invariant_start hbuilt heap⟩
  | append_singleton roots root ih =>
    obtain ⟨hends,hinvariant⟩ := ih fun other hother => hroots other (List.mem_append_left _ hother)
    obtain ⟨id,s⟩ := root
    obtain ⟨hs,hid⟩ := hroots (id,s) (List.mem_append_right _ (List.mem_singleton_self _))
    obtain ⟨hfollows,hends'⟩ := after_append_singleton hschemas hshelf hends hinvariant hs hid
    obtain ⟨r,hr,hof,hkeyed⟩ := hid
    exact ⟨hends',hfollows.invariant (hinvariant.enter hschemas hs hr hof hkeyed hshelf)⟩

end After
end SealedRows.Traversal
