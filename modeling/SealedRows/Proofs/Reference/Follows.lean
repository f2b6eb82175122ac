import SealedRows.Proofs.Reference.Keyed

/-! # Foreign keys that are followed

What following the foreign keys of a record comes to, without a bound on the depth: each one is passed
over, leads to a record that was met before, leads nowhere, or leads to a new record, of which the
foreign keys are followed at once. The outcome is unique. It keeps all records but the new ones and
the navigation fields of the one whose foreign keys are followed.
-/
namespace SealedRows.Traversal
variable {σ : Type}

def navigated (t : Traversal σ) (id : RecordId) (field : Text) (found : Option RecordId) : Traversal σ :=
  { t with heap := t.heap.assign id field ((found.map .record).getD (.value .none)) }

def entered (t : Traversal σ) (id : RecordId) (s : Schema) : Traversal σ :=
  match s.primaryKey with
  | .error _ => t
  | .ok c =>
    if (t.heap.value id c.fieldName).isNone then t
    else { t with visited := t.visited.note s.name (t.heap.value id c.fieldName) id }

def received (t : Traversal σ) (id : RecordId) (k : ForeignKey) (key : Value) (r : Record) :
    Traversal σ :=
  { t with heap := Heap.assign (t.heap ++ [r]) id k.navigationField (.record t.heap.length),
           visited := t.visited.note k.referencedTable key t.heap.length }

def asked (catalog : Catalog) (t : Traversal (List FetchCall)) (k : ForeignKey) (s : Schema)
    (key : Value) : Traversal (List FetchCall) :=
  { t with registry := (t.registry.schemaFor catalog k.referencedType).2,
           source := t.source ++ [⟨s.name,k.referencedColumn,key⟩] }

/-- What becomes of a traversal when the given foreign keys of a record are followed. -/
inductive Follows (catalog : Catalog) (shelf : Shelf) : Traversal (List FetchCall) → RecordId →
    List ForeignKey → Traversal (List FetchCall) → Prop where
  | nil (t : Traversal (List FetchCall)) (id : RecordId) : Follows catalog shelf t id [] t
  | skip {t t' : Traversal (List FetchCall)} {id : RecordId} {k : ForeignKey} {rest : List ForeignKey}
      (hskip : ¬(k.autoResolve ∧ t.heap.value id k.fieldName ≠ .none))
      (hrest : Follows catalog shelf t id rest t') : Follows catalog shelf t id (k :: rest) t'
  | met {t t' : Traversal (List FetchCall)} {id found : RecordId} {k : ForeignKey}
      {rest : List ForeignKey} (hkey : k.autoResolve ∧ t.heap.value id k.fieldName ≠ .none)
      (hfound : t.visited.find? k.referencedTable (t.heap.value id k.fieldName) = some found)
      (hrest : Follows catalog shelf (t.navigated id k.navigationField (some found)) id rest t') :
      Follows catalog shelf t id (k :: rest) t'
  | missing {t t' : Traversal (List FetchCall)} {id : RecordId} {k : ForeignKey}
      {rest : List ForeignKey} {s : Schema} {key : Value} (hvalue : t.heap.value id k.fieldName = key)
      (hkey : k.autoResolve ∧ key ≠ .none)
      (hnew : t.visited.find? k.referencedTable key = none)
      (hs : (t.registry.schemaFor catalog k.referencedType).1 = .ok s)
      (hfind : shelf.find? s.record.name (Shelf.fieldOf s k.referencedColumn) key = .ok none)
      (hrest : Follows catalog shelf ((t.asked catalog k s key).navigated id k.navigationField none) id
        rest t') : Follows catalog shelf t id (k :: rest) t'
  | loaded {t middle t' : Traversal (List FetchCall)} {id : RecordId} {k : ForeignKey}
      {rest : List ForeignKey} {s : Schema} {r : Record} {key : Value}
      (hvalue : t.heap.value id k.fieldName = key) (hkey : k.autoResolve ∧ key ≠ .none)
      (hnew : t.visited.find? k.referencedTable key = none)
      (hs : (t.registry.schemaFor catalog k.referencedType).1 = .ok s)
      (hfind : shelf.find? s.record.name (Shelf.fieldOf s k.referencedColumn) key = .ok (some r))
      (hvisit : Follows catalog shelf
        (((t.asked catalog k s key).received id k key r).entered t.heap.length s) t.heap.length
        s.foreignKeys middle)
      (hrest : Follows catalog shelf middle id rest t') : Follows catalog shelf t id (k :: rest) t'

variable {catalog : Catalog} {shelf : Shelf} {t t' t'' : Traversal (List FetchCall)} {id : RecordId}
  {ks : List ForeignKey}

theorem Follows.unique (h : Follows catalog shelf t id ks t') (h' : Follows catalog shelf t id ks t'') :
    t' = t'' := by
  induction h generalizing t'' with
  | nil =>
    cases h'
    rfl
  | skip hskip _ ih =>
    cases h' with
    | skip _ hrest => exact ih hrest
    | met hkey => exact absurd hkey hskip
    | missing hvalue hkey => exact absurd (hvalue ▸ hkey) hskip
    | loaded hvalue hkey => exact absurd (hvalue ▸ hkey) hskip
  | met hkey hfound _ ih =>
    cases h' with
    | skip hskip => exact absurd hkey hskip
    | met _ hfound' hrest =>
      cases hfound.symm.trans hfound'
      exact ih hrest
    | missing hvalue _ hnew =>
      subst hvalue
      cases hfound.symm.trans hnew
    | loaded hvalue _ hnew =>
      subst hvalue
      cases hfound.symm.trans hnew
  | missing hvalue hkey hnew hs hfind _ ih =>
    subst hvalue
    cases h' with
    | skip hskip => exact absurd hkey hskip
    | met _ hfound => cases hfound.symm.trans hnew
    | missing hvalue' _ _ hs' _ hrest =>
      subst hvalue'
      cases hs.symm.trans hs'
      exact ih hrest
    | loaded hvalue' _ _ hs' hfind' =>
      subst hvalue'
      cases hs.symm.trans hs'
      cases hfind.symm.trans hfind'
  | loaded hvalue hkey hnew hs hfind _ _ ihvisit ihrest =>
    subst hvalue
    cases h' with
    | skip hskip => exact absurd hkey hskip
    | met _ hfound => cases hfound.symm.trans hnew
    | missing hvalue' _ _ hs' hfind' =>
      subst hvalue'
      cases hs.symm.trans hs'
      cases hfind.symm.trans hfind'
    | loaded hvalue' _ _ hs' hfind' hvisit hrest =>
      subst hvalue'
      cases hs.symm.trans hs'
      cases hfind.symm.trans hfind'
      cases ihvisit hvisit
      exact ihrest hrest

theorem getElem?_assign (heap : Heap) (field : Text) (content : Content) (a : RecordId) :
    (heap.assign id field content)[a]? =
      if id = a then heap[a]?.map (·.withField field content) else heap[a]? := by
  rw [Heap.assign, List.getElem?_modify]
  split
  · rfl
  · cases heap[a]? <;> rfl

theorem entered_heap {σ : Type} (t : Traversal σ) (id : RecordId) (s : Schema) :
    (t.entered id s).heap = t.heap := by
  unfold entered
  split
  · rfl
  · split <;> rfl

theorem visited_entered {σ : Type} (t : Traversal σ) (id : RecordId) (s : Schema) :
    t.visited <+: (t.entered id s).visited := by
  unfold entered
  split
  · exact List.prefix_refl _
  · split
    · exact List.prefix_refl _
    · exact Visited.prefix_note

/-- What a traversal keeps while foreign keys of a record are followed: only their navigation fields
are set, and what was met stays met. -/
structure Extends (id : RecordId) (ks : List ForeignKey) (t t' : Traversal (List FetchCall)) : Prop where
  length_le : t.heap.length ≤ t'.heap.length
  visited : t.visited <+: t'.visited
  record : ∀ a r, t.heap[a]? = some r → ∃ r', t'.heap[a]? = some r' ∧ r'.type = r.type ∧
    ∀ field, (a = id → ∀ k ∈ ks, k.navigationField ≠ field) → r'.content? field = r.content? field

namespace Extends

theorem refl (t : Traversal (List FetchCall)) : Extends id ks t t :=
  ⟨Nat.le_refl _,List.prefix_refl _,fun _ r hr => ⟨r,hr,rfl,fun _ _ => rfl⟩⟩

theorem weaken {k : ForeignKey} (h : Extends id ks t t') : Extends id (k :: ks) t t' := by
  refine ⟨h.length_le,h.visited,fun a r hr => ?_⟩
  obtain ⟨r',hr',htype,hsame⟩ := h.record a r hr
  exact ⟨r',hr',htype,fun field hfield =>
    hsame field fun ha k' hk' => hfield ha k' (List.mem_cons_of_mem _ hk')⟩

theorem trans_new {other : RecordId} {ls : List ForeignKey} (h : Extends id ks t t')
    (h' : Extends other ls t' t'') (hother : t.heap.length ≤ other) : Extends id ks t t'' := by
  refine ⟨h.length_le.trans h'.length_le,h.visited.trans h'.visited,fun a r hr => ?_⟩
  have ha : a < t.heap.length := (List.getElem?_eq_some_iff.mp hr).1
  obtain ⟨r',hr',htype,hsame⟩ := h.record a r hr
  obtain ⟨r'',hr'',htype',hsame'⟩ := h'.record a r' hr'
  have hne : a ≠ other := Nat.ne_of_lt (ha.trans_le hother)
  refine ⟨r'',hr'',htype'.trans htype,fun field hfield => ?_⟩
  rw [hsame' field fun heq => absurd heq hne, hsame field hfield]

theorem trans (h : Extends id ks t t') (h' : Extends id ks t' t'') : Extends id ks t t'' := by
  refine ⟨h.length_le.trans h'.length_le,h.visited.trans h'.visited,fun a r hr => ?_⟩
  obtain ⟨r',hr',htype,hsame⟩ := h.record a r hr
  obtain ⟨r'',hr'',htype',hsame'⟩ := h'.record a r' hr'
  exact ⟨r'',hr'',htype'.trans htype,fun field hfield => by rw [hsame' field hfield, hsame field hfield]⟩

theorem of_assign {k : ForeignKey} (new : List Record) (content : Content)
    (hheap : t'.heap = Heap.assign (t.heap ++ new) id k.navigationField content)
    (hvisited : t.visited <+: t'.visited) : Extends id (k :: ks) t t' := by
  refine ⟨?_,hvisited,fun a r hr => ?_⟩
  · rw [hheap, Heap.assign, List.length_modify, List.length_append]
    exact Nat.le_add_right ..
  · have ha : a < t.heap.length := (List.getElem?_eq_some_iff.mp hr).1
    rw [hheap, getElem?_assign, List.getElem?_append_left ha, hr]
    by_cases hid : id = a
    · rw [if_pos hid]
      refine ⟨_,rfl,rfl,fun field hfield => ?_⟩
      rw [Record.content?_withField, if_neg]
      exact (hfield hid.symm k (List.mem_cons_self ..)).symm
    · rw [if_neg hid]
      exact ⟨r,rfl,rfl,fun _ _ => rfl⟩

end Extends

theorem extends_navigated (t' : Traversal (List FetchCall)) {k : ForeignKey} (found : Option RecordId)
    (hheap : t'.heap = t.heap) (hvisited : t'.visited = t.visited) :
    Extends id (k :: ks) t (t'.navigated id k.navigationField found) := by
  refine .of_assign [] ((found.map .record).getD (.value .none)) ?_ (hvisited ▸ List.prefix_refl _)
  rw [List.append_nil, ← hheap]
  rfl

theorem extends_received (t' : Traversal (List FetchCall)) (k : ForeignKey) (s : Schema) (key : Value)
    (r : Record) (hheap : t'.heap = t.heap) (hvisited : t'.visited = t.visited) :
    Extends id (k :: ks) t ((t'.received id k key r).entered t.heap.length s) := by
  refine .of_assign [r] (.record t.heap.length) ?_ ?_
  · rw [entered_heap, received, hheap]
  · rw [← hvisited]
    exact Visited.prefix_note.trans (visited_entered (t'.received id k key r) _ s)

theorem extends_loaded {middle : Traversal (List FetchCall)} {k : ForeignKey} {s : Schema} {key : Value}
    {r : Record} {ls : List ForeignKey}
    (hvisit : Extends t.heap.length ls
      (((t.asked catalog k s key).received id k key r).entered t.heap.length s) middle) :
    Extends id (k :: ks) t middle := by
  have hreceived : Extends id (k :: ks) t _ :=
    extends_received (t.asked catalog k s key) k s key r rfl rfl
  exact hreceived.trans_new hvisit (Nat.le_refl _)

theorem Follows.extends (h : Follows catalog shelf t id ks t') : Extends id ks t t' := by
  induction h with
  | nil t => exact .refl t
  | skip _ _ ih => exact ih.weaken
  | met _ _ _ ih => exact (extends_navigated _ _ rfl rfl).trans ih.weaken
  | @missing t _ id k rest s key _ _ _ _ _ _ ih =>
    have hasked : Extends id (k :: rest) t _ := extends_navigated (t.asked catalog k s key) none rfl rfl
    exact hasked.trans ih.weaken
  | loaded _ _ _ _ _ _ _ ihvisit ihrest => exact (extends_loaded ihvisit).trans ihrest.weaken

end SealedRows.Traversal
