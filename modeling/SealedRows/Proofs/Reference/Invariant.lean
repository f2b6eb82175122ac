import SealedRows.Proofs.Reference.Follows

/-! # What holds while references are resolved

All along, the records of the heap are those that were there and new ones like those on the shelf, but
for what their foreign keys lead to, and whatever was met is such a record under its table and its key.
A record on the shelf that was searched for was searched for once and has been met.
-/
namespace SealedRows

def Heap.HasKeyed (heap : Heap) (s : Schema) (id : RecordId) : Prop :=
  ∃ r : Record, heap[id]? = some r ∧ r.IsOf s ∧ r.Keyed s

def Heap.Renavigated (schemas : List Schema) (heap later : Heap) : Prop :=
  ∀ (a : RecordId) (r : Record), heap[a]? = some r →
    ∃ r' : Record, later[a]? = some r' ∧ Record.Renavigated schemas r r'

namespace Heap
variable {catalog : Catalog} {schemas : List Schema} {heap later last : Heap} {s : Schema}
  {id : RecordId}

theorem Renavigated.refl (heap : Heap) : Renavigated schemas heap heap :=
  fun _ r hr => ⟨r,hr,.refl r⟩

theorem Renavigated.trans (h : Renavigated schemas heap later) (h' : Renavigated schemas later last) :
    Renavigated schemas heap last := by
  intro a r hr
  obtain ⟨r',hr',hsame⟩ := h a r hr
  obtain ⟨r'',hr'',hsame'⟩ := h' a r' hr'
  exact ⟨r'',hr'',hsame.trans hsame'⟩

theorem renavigated_assign (hs : s ∈ schemas) (hid : heap.HasKeyed s id) {k : ForeignKey}
    (hk : k ∈ s.foreignKeys) (hauto : k.autoResolve) (new : List Record) (content : Content) :
    Renavigated schemas heap (Heap.assign (heap ++ new) id k.navigationField content) := by
  intro a r hr
  have ha : a < heap.length := (List.getElem?_eq_some_iff.mp hr).1
  rw [Traversal.getElem?_assign, List.getElem?_append_left ha, hr]
  by_cases hid' : id = a
  · subst hid'
    obtain ⟨r',hr',hof,_⟩ := hid
    cases hr.symm.trans hr'
    rw [if_pos rfl]
    exact ⟨_,rfl,.withField hs hof hk hauto content⟩
  · rw [if_neg hid']
    exact ⟨r,rfl,.refl r⟩

end Heap

theorem Visited.isSome_mono {visited later : Visited} (h : visited <+: later) {table : Text}
    {key : Value} (hsome : (visited.find? table key).isSome) : (later.find? table key).isSome := by
  obtain ⟨id,hid⟩ := Option.isSome_iff_exists.mp hsome
  rw [find?_mono h hid]
  rfl

theorem Visited.eq_none_of_later {visited later : Visited} (h : visited <+: later) {table : Text}
    {key : Value} (hnone : later.find? table key = none) : visited.find? table key = none := by
  rw [← Option.not_isSome_iff_eq_none] at hnone ⊢
  exact fun hsome => hnone (isSome_mono h hsome)

namespace Traversal

def Known (shelf : Shelf) (start : Heap) (roots : List (RecordId × Schema)) (s : Schema) (key : Value) :
    Prop :=
  shelf.Holds s key ∨ ∃ root ∈ roots, root.2 = s ∧ ∃ r : Record, start[root.1]? = some r ∧
    (r.primary s).isSameKey key

def searches (t : Traversal (List FetchCall)) (table : Text) (key : Value) : Nat :=
  t.source.countP fun c => c.table = table && c.key.isSameKey key

/-- What holds of a traversal that began with a heap and has come to the last of some roots. -/
structure Invariant (catalog : Catalog) (schemas : List Schema) (shelf : Shelf) (start : Heap)
    (roots : List (RecordId × Schema)) (t : Traversal (List FetchCall)) : Prop where
  built : Registry.Built catalog t.registry
  keyed : ∀ root ∈ roots, root.2 ∈ schemas ∧ start.HasKeyed root.2 root.1
  length_le : start.length ≤ t.heap.length
  old : Heap.Renavigated schemas start t.heap
  new : ∀ (a : RecordId) (r' : Record), start.length ≤ a → t.heap[a]? = some r' →
    ∃ r ∈ shelf, (∃ s ∈ schemas, r.IsOf s) ∧ Record.Renavigated schemas r r'
  visited : ∀ e ∈ t.visited, ∃ s ∈ schemas, e.1.1 = s.name ∧ e.1.2.IsKey ∧
    Known shelf start roots s e.1.2 ∧ (e.2 ∈ roots.map (·.1) ∨ start.length ≤ e.2) ∧
    ∃ r : Record, t.heap[e.2]? = some r ∧ r.IsOf s ∧ r.Keyed s ∧ (r.primary s).isSameKey e.1.2
  met : ∀ root ∈ roots, ∀ r : Record, start[root.1]? = some r → ∀ key : Value, key.IsKey →
    (r.primary root.2).isSameKey key → (t.visited.find? root.2.name key).isSome
  searched : ∀ s ∈ schemas, ∀ key : Value, key.IsKey → shelf.Holds s key →
    t.searches s.name key ≤ 1 ∧ (t.visited.find? s.name key = none → t.searches s.name key = 0)

variable {catalog : Catalog} {schemas : List Schema} {shelf : Shelf} {start : Heap}
  {roots : List (RecordId × Schema)} {t : Traversal (List FetchCall)}

theorem Known.mono {s : Schema} {key : Value} (h : Known shelf start roots s key)
    (root : RecordId × Schema) : Known shelf start (roots ++ [root]) s key := by
  refine h.imp_right ?_
  rintro ⟨other,hother,hsame⟩
  exact ⟨other,List.mem_append_left _ hother,hsame⟩

namespace Invariant
variable (h : Invariant catalog schemas shelf start roots t)
include h

theorem isKey_of_mem {e : (Text × Value) × RecordId} (he : e ∈ t.visited) : e.1.2.IsKey := by
  obtain ⟨_,_,_,hkey,_⟩ := h.visited e he
  exact hkey

variable (hschemas : Navigable catalog schemas)
include hschemas

theorem of_heap {heap : Heap} (hheap : Heap.Renavigated schemas t.heap heap)
    (hlength : t.heap.length ≤ heap.length)
    (hnew : ∀ (a : RecordId) (r' : Record), t.heap.length ≤ a → heap[a]? = some r' →
      ∃ r ∈ shelf, (∃ s ∈ schemas, r.IsOf s) ∧ Record.Renavigated schemas r r') :
    Invariant catalog schemas shelf start roots { t with heap := heap } := by
  refine ⟨h.built,h.keyed,h.length_le.trans hlength,h.old.trans hheap,?_,?_,h.met,h.searched⟩
  · intro a r' ha hr'
    by_cases hlt : a < t.heap.length
    · have hr := List.getElem?_eq_getElem hlt
      obtain ⟨r,hshelf,hof,hsame⟩ := h.new a _ ha hr
      obtain ⟨r'',hr'',hsame'⟩ := hheap a _ hr
      cases hr'.symm.trans hr''
      exact ⟨r,hshelf,hof,hsame.trans hsame'⟩
    · exact hnew a r' (Nat.le_of_not_lt hlt) hr'
  · intro e he
    obtain ⟨s,hs,htable,hkey,hknown,horigin,r,hr,hof,hkeyed,hprimary⟩ := h.visited e he
    obtain ⟨r',hr',hsame⟩ := hheap e.2 r hr
    refine ⟨s,hs,htable,hkey,hknown,horigin,r',hr',hsame.isOf.mpr hof,?_⟩
    refine ⟨hsame.keyed hschemas hs hof hkeyed,?_⟩
    rw [hsame.primary_eq hschemas hs hof]
    exact hprimary

omit hschemas in
theorem of_note {s : Schema} (hs : s ∈ schemas) {key : Value} (hkey : key.IsKey)
    (hknown : Known shelf start roots s key) {id : RecordId}
    (horigin : id ∈ roots.map (·.1) ∨ start.length ≤ id) {r : Record} (hr : t.heap[id]? = some r)
    (hof : r.IsOf s) (hkeyed : r.Keyed s) (hprimary : (r.primary s).isSameKey key) :
    Invariant catalog schemas shelf start roots
      { t with visited := t.visited.note s.name key id } := by
  refine ⟨h.built,h.keyed,h.length_le,h.old,h.new,?_,?_,?_⟩
  · intro e he
    rcases Visited.mem_note he with he | rfl
    · exact h.visited e he
    · exact ⟨s,hs,rfl,hkey,hknown,horigin,r,hr,hof,hkeyed,hprimary⟩
  · intro root hroot r hr key hkey hsame
    exact Visited.isSome_mono Visited.prefix_note (h.met root hroot r hr key hkey hsame)
  · intro u hu other hother hholds
    obtain ⟨hone,hnone⟩ := h.searched u hu other hother hholds
    exact ⟨hone,fun hfind => hnone (Visited.eq_none_of_later Visited.prefix_note hfind)⟩

/-- A record may be searched for that was not searched for before, and that is met now if there is
one. -/
theorem of_search {registry : Registry} (hbuilt : Registry.Built catalog registry) {s : Schema}
    (hs : s ∈ schemas) {key : Value} {column : Text}
    (hfirst : ∀ other : Value, other.IsKey → key.isSameKey other → shelf.Holds s other →
      t.searches s.name other = 0 ∧ (t.visited.find? s.name other).isSome) :
    Invariant catalog schemas shelf start roots
      { t with registry := registry, source := t.source ++ [⟨s.name,column,key⟩] } := by
  refine ⟨hbuilt,h.keyed,h.length_le,h.old,h.new,h.visited,h.met,?_⟩
  intro u hu other hother hholds
  have hcount : searches { t with registry := registry, source := t.source ++ [⟨s.name,column,key⟩] }
      u.name other =
        t.searches u.name other + if s.name = u.name ∧ key.isSameKey other then 1 else 0 := by
    rw [searches, List.countP_append, List.countP_singleton, searches]
    simp only [Bool.and_eq_true, decide_eq_true_eq]
  rw [hcount]
  split
  · next hsame =>
    cases hschemas.eq_of_table hs hu hsame.1
    obtain ⟨hzero,hsome⟩ := hfirst other hother hsame.2 hholds
    refine ⟨by rw [hzero],fun hnone => ?_⟩
    rw [Option.isSome_iff_ne_none] at hsome
    exact absurd hnone hsome
  · exact h.searched u hu other hother hholds

end Invariant

end Traversal
end SealedRows
