import SealedRows.Proofs.Reference.Invariant

/-! # Foreign keys that are still to be followed

Each way to follow the first of them keeps the invariant: the record was met before, there is none, or
a new record is made like the first one on the shelf that has the key.
-/
namespace SealedRows.Traversal
variable {catalog : Catalog} {schemas : List Schema} {shelf : Shelf} {start : Heap}
  {roots : List (RecordId × Schema)} {t t' middle : Traversal (List FetchCall)} {s u : Schema}
  {id : RecordId} {k : ForeignKey} {ks : List ForeignKey} {key : Value}

structure Pending (catalog : Catalog) (schemas : List Schema) (shelf : Shelf) (start : Heap)
    (roots : List (RecordId × Schema)) (t : Traversal (List FetchCall)) (s : Schema) (id : RecordId)
    (ks : List ForeignKey) : Prop where
  navigable : Navigable catalog schemas
  keyed : shelf.Keyed schemas
  invariant : Invariant catalog schemas shelf start roots t
  schema : s ∈ schemas
  record : t.heap.HasKeyed s id
  keys : ks <:+ s.foreignKeys

structure Target (catalog : Catalog) (schemas : List Schema) (t : Traversal (List FetchCall))
    (k : ForeignKey) (u : Schema) : Prop where
  mem : u ∈ schemas
  type_eq : u.record.name = k.referencedType
  table_eq : u.name = k.referencedTable
  schemaFor_eq : (t.registry.schemaFor catalog k.referencedType).1 = .ok u
  built : Registry.Built catalog (t.registry.schemaFor catalog k.referencedType).2
  primaryKey : ∃ c, u.primaryKey = .ok c ∧ c ∈ u.columns ∧
    Shelf.fieldOf u k.referencedColumn = c.fieldName

/-- A search either finds nothing, if the shelf has no record of the type with the key, or such a
record. -/
theorem Target.find?_cases (hu : Target catalog schemas t k u) (hshelf : shelf.Keyed schemas)
    (hkey : key.IsKey) :
    (¬shelf.Holds u key ∧
      shelf.find? u.record.name (Shelf.fieldOf u k.referencedColumn) key = .ok none) ∨
    ∃ r ∈ shelf, r.IsOf u ∧ (r.primary u).isSameKey key ∧
      shelf.find? u.record.name (Shelf.fieldOf u k.referencedColumn) key = .ok (some r) := by
  obtain ⟨c,hc,_,hfield⟩ := hu.primaryKey
  rw [hfield]
  exact Shelf.find?_primary_cases (fun r hr => hshelf r hr u hu.mem) hc hkey

theorem entered_eq {r : Record} (hvisited : ∀ e ∈ t.visited, e.1.2.IsKey) (hid : t.heap[id]? = some r)
    (hr : r.Keyed s) (hkey : key.IsKey) (hprimary : (r.primary s).isSameKey key)
    (hmet : (t.visited.find? s.name key).isSome) : t.entered id s = t := by
  rw [← Visited.find?_congr hvisited (hr.isKey_primary hkey hprimary) hkey hprimary] at hmet
  unfold entered
  cases hc : s.primaryKey with
  | error => rfl
  | ok c =>
    dsimp only
    rw [hr.heap_primary hid hc, Visited.note, if_pos hmet, ite_self]

namespace Pending

/-- What is stored is left alone. -/
theorem content?_column (h : Pending catalog schemas shelf start roots t s id ks)
    (hextends : Extends id ks t t') {r r' : Record} (hr : t.heap[id]? = some r)
    (hr' : t'.heap[id]? = some r') {c : Column} (hc : c ∈ s.columns) :
    r'.content? c.fieldName = r.content? c.fieldName := by
  obtain ⟨r'',hr'',_,hsame⟩ := hextends.record id r hr
  cases hr'.symm.trans hr''
  exact hsame _ fun _ k' hk' =>
    h.navigable.navigation_not_stored s h.schema k' (h.keys.subset hk') c hc

variable (h : Pending catalog schemas shelf start roots t s id (k :: ks))
include h

theorem mem : k ∈ s.foreignKeys := h.keys.subset (List.mem_cons_self ..)

theorem skip : Pending catalog schemas shelf start roots t s id ks :=
  { h with keys := (List.suffix_cons k ks).trans h.keys }

theorem isKey (hkey : k.autoResolve ∧ t.heap.value id k.fieldName ≠ .none) :
    (t.heap.value id k.fieldName).IsKey := by
  obtain ⟨r,hr,_,hkeyed⟩ := h.record
  obtain ⟨⟨c,hc,hck,hfield⟩,_⟩ :=
    Schema.foreignKey_of_schemaOf (h.navigable.declared s h.schema) h.mem
  have hauto : c.isPrimaryKey ∨ ∃ k, c.foreignKey = some k ∧ k.autoResolve := Or.inr ⟨k,hck,hkey.1⟩
  have hvalue := hkeyed.heap_value hr hc hauto
  have hcases := hkeyed.valueOf hc hauto
  rw [hfield] at hvalue hcases
  rw [hvalue] at hkey ⊢
  exact hcases.resolve_right hkey.2

theorem target : ∃ u, Target catalog schemas t k u := by
  obtain ⟨u,hu,htype,htable,c,hc,hprimary,hname⟩ := h.navigable.target h.schema h.mem
  obtain ⟨hgiven,hbuilt⟩ := h.navigable.schemaFor_eq_ok h.invariant.built hu
  rw [htype] at hgiven hbuilt
  refine ⟨u,hu,htype,htable,hgiven,hbuilt,c,hprimary,hc,?_⟩
  rw [Shelf.fieldOf, ← hname, (h.navigable.sound hu).column?_name hc]
  rfl

theorem target_of_eq (hu : (t.registry.schemaFor catalog k.referencedType).1 = .ok u) :
    Target catalog schemas t k u := by
  obtain ⟨u',hu'⟩ := h.target
  cases hu.symm.trans hu'.schemaFor_eq
  exact hu'

/-- What a search for the record of the first foreign key says. -/
theorem searched (hvalue : t.heap.value id k.fieldName = key) (hkey : k.autoResolve ∧ key ≠ .none)
    (hs : (t.registry.schemaFor catalog k.referencedType).1 = .ok u) {found : Option Record}
    (hfind : shelf.find? u.record.name (Shelf.fieldOf u k.referencedColumn) key = .ok found) :
    key.IsKey ∧ Target catalog schemas t k u ∧ (found = none → ¬shelf.Holds u key) ∧
      ∀ r, found = some r → r ∈ shelf ∧ r.IsOf u ∧ (r.primary u).isSameKey key := by
  subst hvalue
  have hu := h.target_of_eq hs
  refine ⟨h.isKey hkey,hu,?_⟩
  rcases hu.find?_cases h.keyed (h.isKey hkey) with ⟨hnone,hfind'⟩ | ⟨r,hr,hof,hprimary,hfind'⟩
  · cases hfind.symm.trans hfind'
    exact ⟨fun _ => hnone,nofun⟩
  · cases hfind.symm.trans hfind'
    exact ⟨nofun,fun _ hsome => by cases hsome; exact ⟨hr,hof,hprimary⟩⟩

theorem rest (hextends : Extends id (k :: ks) t t')
    (hinvariant : Invariant catalog schemas shelf start roots t') :
    Pending catalog schemas shelf start roots t' s id ks := by
  obtain ⟨r,hr,hof,hkeyed⟩ := h.record
  obtain ⟨r',hr',htype,_⟩ := hextends.record id r hr
  refine { h.skip with
    invariant := hinvariant
    record := ⟨r',hr',?_,fun c hc hkey => ?_⟩ }
  · rw [Record.IsOf, htype]
    exact hof
  · rw [h.content?_column hextends hr hr' hc]
    exact hkeyed c hc hkey

theorem navigated (hauto : k.autoResolve) (found : Option RecordId) :
    Pending catalog schemas shelf start roots (t.navigated id k.navigationField found) s id ks := by
  refine h.rest (extends_navigated t found rfl rfl) ?_
  have hheap := Heap.renavigated_assign h.schema h.record h.mem hauto []
    ((found.map .record).getD (.value .none))
  have hlength : (t.navigated id k.navigationField found).heap.length = t.heap.length :=
    List.length_modify ..
  rw [List.append_nil] at hheap
  refine h.invariant.of_heap h.navigable hheap hlength.ge fun a r' ha hr' => ?_
  have hlt := (List.getElem?_eq_some_iff.mp hr').1
  exact absurd (hlt.trans_le hlength.le) ha.not_gt

theorem missing (hvalue : t.heap.value id k.fieldName = key) (hkey : k.autoResolve ∧ key ≠ .none)
    (hs : (t.registry.schemaFor catalog k.referencedType).1 = .ok u)
    (hfind : shelf.find? u.record.name (Shelf.fieldOf u k.referencedColumn) key = .ok none) :
    Pending catalog schemas shelf start roots
      ((t.asked catalog k u key).navigated id k.navigationField none) s id ks := by
  obtain ⟨hisKey,hu,hnone,_⟩ := h.searched hvalue hkey hs hfind
  have hasked : Invariant catalog schemas shelf start roots (t.asked catalog k u key) := by
    refine h.invariant.of_search h.navigable hu.built hu.mem fun other hother hsame hholds => ?_
    exact absurd ((h.keyed.holds_congr hu.mem hisKey hother hsame).mpr hholds) (hnone rfl)
  exact navigated { h with invariant := hasked, record := h.record } hkey.1 none

theorem lt_length : id < t.heap.length := by
  obtain ⟨_,hid,_⟩ := h.record
  exact (List.getElem?_eq_some_iff.mp hid).1

theorem getElem?_received (key : Value) (r : Record) :
    (t.received id k key r).heap[t.heap.length]? = some r := by
  rw [received, getElem?_assign, if_neg (Nat.ne_of_lt h.lt_length), List.getElem?_concat_length]

theorem received (hauto : k.autoResolve) (hu : u ∈ schemas) (hname : u.name = k.referencedTable)
    (hkey : key.IsKey) {r : Record} (hr : r ∈ shelf) (hof : r.IsOf u)
    (hprimary : (r.primary u).isSameKey key) :
    Invariant catalog schemas shelf start roots (t.received id k key r) := by
  have hheap := Heap.renavigated_assign h.schema h.record h.mem hauto [r] (.record t.heap.length)
  have hlast := h.getElem?_received key r
  have hlength : (t.received id k key r).heap.length = t.heap.length + 1 :=
    (List.length_modify ..).trans List.length_append
  have hmade : Invariant catalog schemas shelf start roots
      { t with heap := (t.received id k key r).heap } := by
    refine h.invariant.of_heap h.navigable hheap ?_ fun a r' ha hr' => ?_
    · exact (Nat.le_succ _).trans hlength.ge
    · have hlt := (List.getElem?_eq_some_iff.mp hr').1
      cases Nat.le_antisymm (Nat.le_of_lt_succ (hlt.trans_le hlength.le)) ha
      cases hlast.symm.trans hr'
      exact ⟨r,hr,⟨u,hu,hof⟩,.refl r⟩
  have hnoted := hmade.of_note hu hkey (Or.inl ⟨r,hr,hof,hprimary⟩) (Or.inr h.invariant.length_le)
    hlast hof (h.keyed r hr u hu hof) hprimary
  rw [hname] at hnoted
  exact hnoted

/-- The first foreign key leads to a new record, of which all foreign keys are to be followed. -/
theorem loaded (hvalue : t.heap.value id k.fieldName = key) (hkey : k.autoResolve ∧ key ≠ .none)
    (hnew : t.visited.find? k.referencedTable key = none)
    (hs : (t.registry.schemaFor catalog k.referencedType).1 = .ok u) {r : Record}
    (hfind : shelf.find? u.record.name (Shelf.fieldOf u k.referencedColumn) key = .ok (some r)) :
    Pending catalog schemas shelf start roots
      (((t.asked catalog k u key).received id k key r).entered t.heap.length u) u t.heap.length
      u.foreignKeys := by
  obtain ⟨hisKey,hu,_,hfound⟩ := h.searched hvalue hkey hs hfind
  obtain ⟨hr,hof,hprimary⟩ := hfound r rfl
  have hkeyed := h.keyed r hr u hu.mem hof
  have hlast := h.getElem?_received key r
  have hreceived := h.received hkey.1 hu.mem hu.table_eq hisKey hr hof hprimary
  have hmet : ((t.received id k key r).visited.find? u.name key).isSome := by
    rw [hu.table_eq]
    exact Visited.find?_note_isSome hisKey.isSameKey_self
  -- The foreign key was noted first and is the primary key, so entering the record notes nothing.
  have hentered := entered_eq (t := (t.asked catalog k u key).received id k key r)
    (fun _ => hreceived.isKey_of_mem) hlast hkeyed hisKey hprimary hmet
  rw [hentered]
  refine ⟨h.navigable,h.keyed,?_,hu.mem,⟨r,hlast,hof,hkeyed⟩,List.suffix_rfl⟩
  refine hreceived.of_search h.navigable hu.built hu.mem fun other hother hsame hholds => ⟨?_,?_⟩
  · refine (h.invariant.searched u hu.mem other hother hholds).2 ?_
    rw [hu.table_eq, ← Visited.find?_congr (fun _ => h.invariant.isKey_of_mem) hisKey hother hsame]
    exact hnew
  · rw [← Visited.find?_congr (fun _ => hreceived.isKey_of_mem) hisKey hother hsame]
    exact hmet

end Pending

theorem Follows.invariant (h : Follows catalog shelf t id ks t')
    (hpending : Pending catalog schemas shelf start roots t s id ks) :
    Invariant catalog schemas shelf start roots t' := by
  induction h generalizing s with
  | nil => exact hpending.invariant
  | skip _ _ ih => exact ih hpending.skip
  | met hkey _ _ ih => exact ih (hpending.navigated hkey.1 _)
  | missing hvalue hkey _ hs hfind _ ih => exact ih (hpending.missing hvalue hkey hs hfind)
  | loaded hvalue hkey hnew hs hfind hvisit _ ihvisit ihrest =>
    exact ihrest (hpending.rest (extends_loaded hvisit.extends)
      (ihvisit (hpending.loaded hvalue hkey hnew hs hfind)))

end SealedRows.Traversal
