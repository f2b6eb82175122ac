import Mathlib.Data.List.Find
import SealedRows.Proofs.Schema.Navigable
import SealedRows.Proofs.Value.Key
import SealedRows.Reference.Shelf

/-! # Records with keys

The fields that records are found by hold keys or nothing. Those fields are stored, so setting what a
foreign key leads to leaves them alone, and records can be looked up by their keys all the time.
-/
namespace SealedRows

namespace Record

/-- Whether a record is one of the type of a schema. -/
def IsOf (s : Schema) (r : Record) : Prop := r.type.name = s.record.name

def primary (s : Schema) (r : Record) : Value :=
  match s.primaryKey with
  | .ok c => Shelf.valueOf r c.fieldName
  | .error _ => .none

/-- Whether the primary key and the foreign keys that are to be resolved hold keys or null, or hold
nothing. -/
def Keyed (s : Schema) (r : Record) : Prop :=
  ∀ c ∈ s.columns, (c.isPrimaryKey ∨ ∃ k, c.foreignKey = some k ∧ k.autoResolve) →
    r.content? c.fieldName = none ∨ ∃ v, r.content? c.fieldName = some (.value v) ∧ (v.IsKey ∨ v = .none)

theorem lookup_filter_ne {α : Type} (l : List (Text × α)) {field other : Text} (h : other ≠ field) :
    (l.filter fun e => e.1 ≠ field).lookup other = l.lookup other := by
  induction l with
  | nil => rfl
  | cons e rest ih =>
    obtain ⟨name,a⟩ := e
    by_cases hname : name = field
    · subst hname
      have hne : (other == name) = false := beq_eq_false_iff_ne.mpr h
      rw [List.filter_cons_of_neg (by simp), List.lookup_cons, hne]
      exact ih
    · rw [List.filter_cons_of_pos (by simpa using hname), List.lookup_cons, List.lookup_cons, ih]

theorem content?_withField (r : Record) (field : Text) (content : Content) (other : Text) :
    (r.withField field content).content? other =
      if other = field then some content else r.content? other := by
  unfold content? withField
  by_cases h : other = field
  · rw [if_pos h, h, List.lookup_cons_self]
  · have hne : (other == field) = false := beq_eq_false_iff_ne.mpr h
    rw [if_neg h, List.lookup_cons, hne, lookup_filter_ne _ h]

/-- Whether a record differs from another at most in what foreign keys of its type lead to. -/
structure Renavigated (schemas : List Schema) (r r' : Record) : Prop where
  type_eq : r'.type = r.type
  navigation : ∀ field, r'.content? field ≠ r.content? field → ∃ s ∈ schemas, r.IsOf s ∧
    ∃ k ∈ s.foreignKeys, k.autoResolve ∧ k.navigationField = field

namespace Renavigated
variable {catalog : Catalog} {schemas : List Schema} {r r' r'' : Record}

theorem refl (r : Record) : Renavigated schemas r r := ⟨rfl,fun _ h => absurd rfl h⟩

theorem trans (h : Renavigated schemas r r') (h' : Renavigated schemas r' r'') :
    Renavigated schemas r r'' := by
  refine ⟨h'.type_eq.trans h.type_eq,fun field hne => ?_⟩
  by_cases hfirst : r'.content? field = r.content? field
  · rw [← hfirst] at hne
    obtain ⟨s,hs,hof,hk⟩ := h'.navigation field hne
    rw [IsOf, h.type_eq] at hof
    exact ⟨s,hs,hof,hk⟩
  · exact h.navigation field hfirst

theorem withField {s : Schema} (hs : s ∈ schemas) (hof : r.IsOf s) {k : ForeignKey}
    (hk : k ∈ s.foreignKeys) (hauto : k.autoResolve) (content : Content) :
    Renavigated schemas r (r.withField k.navigationField content) := by
  refine ⟨rfl,fun field hne => ?_⟩
  rw [content?_withField] at hne
  split at hne
  · next hfield => exact ⟨s,hs,hof,k,hk,hauto,hfield.symm⟩
  · exact absurd rfl hne

theorem isOf (h : Renavigated schemas r r') {s : Schema} : r'.IsOf s ↔ r.IsOf s := by
  rw [IsOf, IsOf, h.type_eq]

variable (hschemas : Navigable catalog schemas) (h : Renavigated schemas r r') {s : Schema}
  (hs : s ∈ schemas) (hof : r.IsOf s)
include hschemas h hs hof

theorem content?_column {c : Column} (hc : c ∈ s.columns) :
    r'.content? c.fieldName = r.content? c.fieldName := by
  by_contra hne
  obtain ⟨t,ht,hof',k,hk,_,hfield⟩ := h.navigation _ hne
  cases hschemas.eq_of_type hs ht (hof.symm.trans hof')
  exact hschemas.navigation_not_stored s hs k hk c hc hfield

theorem valueOf_column {c : Column} (hc : c ∈ s.columns) :
    Shelf.valueOf r' c.fieldName = Shelf.valueOf r c.fieldName := by
  rw [Shelf.valueOf, h.content?_column hschemas hs hof hc, ← Shelf.valueOf]

theorem primary_eq : r'.primary s = r.primary s := by
  unfold primary Schema.primaryKey
  cases hfind : s.columns.find? (·.isPrimaryKey) with
  | none => rfl
  | some c => exact h.valueOf_column hschemas hs hof (List.mem_of_find?_eq_some hfind)

theorem keyed (hkeyed : r.Keyed s) : r'.Keyed s := by
  intro c hc hkey
  rw [h.content?_column hschemas hs hof hc]
  exact hkeyed c hc hkey

end Renavigated

variable {s : Schema} {r : Record}

theorem Keyed.valueOf (h : r.Keyed s) {c : Column} (hc : c ∈ s.columns)
    (hkey : c.isPrimaryKey ∨ ∃ k, c.foreignKey = some k ∧ k.autoResolve) :
    (Shelf.valueOf r c.fieldName).IsKey ∨ Shelf.valueOf r c.fieldName = .none := by
  unfold Shelf.valueOf
  rcases h c hc hkey with hnone | ⟨v,hv,hvalue⟩
  · rw [hnone]
    exact Or.inr rfl
  · rw [hv]
    exact hvalue

theorem Keyed.primary (h : r.Keyed s) : (r.primary s).IsKey ∨ r.primary s = .none := by
  unfold Record.primary Schema.primaryKey
  cases hfind : s.columns.find? (·.isPrimaryKey) with
  | none => exact Or.inr rfl
  | some c =>
    exact h.valueOf (List.mem_of_find?_eq_some hfind) (Or.inl (by simpa using List.find?_some hfind))

/-- A primary key that is the same as a key is one. -/
theorem Keyed.isKey_primary (h : r.Keyed s) {key : Value} (hkey : key.IsKey)
    (hsame : (r.primary s).isSameKey key) : (r.primary s).IsKey :=
  ((Value.isSameKey_iff h.primary hkey).mp hsame).isKey h.primary

/-- A record has keys if all values that it holds or that its type gives to it are such. -/
theorem keyed_of_values {r : Record}
    (hcontents : ∀ e ∈ r.contents, ∃ v : Value, e.2 = .value v ∧ (v.IsKey ∨ v = .none))
    (hshared : ∀ e ∈ r.type.shared, e.2.IsKey ∨ e.2 = .none) (s : Schema) : r.Keyed s := by
  intro c _ _
  unfold content?
  cases hlookup : r.contents.lookup c.fieldName with
  | some content =>
    obtain ⟨before,after,hsplit,_⟩ := List.lookup_eq_some_iff.mp hlookup
    have hmem : (c.fieldName,content) ∈ r.contents := by
      rw [hsplit]
      exact List.mem_append_right _ (List.mem_cons_self ..)
    obtain ⟨v,hv,hkey⟩ := hcontents _ hmem
    exact Or.inr ⟨v,congrArg some hv,hkey⟩
  | none =>
    unfold RecordType.shared?
    cases hlookup : r.type.shared.lookup c.fieldName with
    | none => exact Or.inl rfl
    | some v =>
      obtain ⟨before,after,hsplit,_⟩ := List.lookup_eq_some_iff.mp hlookup
      have hmem : (c.fieldName,v) ∈ r.type.shared := by
        rw [hsplit]
        exact List.mem_append_right _ (List.mem_cons_self ..)
      exact Or.inr ⟨v,rfl,hshared _ hmem⟩

theorem Keyed.isSameKey_congr (h : r.Keyed s) {key other : Value} (hkey : key.IsKey)
    (hother : other.IsKey) (hsame : key.isSameKey other) :
    (r.primary s).isSameKey key ↔ (r.primary s).isSameKey other := by
  rw [Value.isSameKey_iff (Or.inl hkey) hother] at hsame
  rw [Value.isSameKey_iff h.primary hkey, Value.isSameKey_iff h.primary hother]
  exact ⟨fun h => h.trans hsame,fun h => h.trans hsame.symm⟩

theorem Keyed.heap_value (h : r.Keyed s) {heap : Heap} {id : RecordId} (hid : heap[id]? = some r)
    {c : Column} (hc : c ∈ s.columns)
    (hkey : c.isPrimaryKey ∨ ∃ k, c.foreignKey = some k ∧ k.autoResolve) :
    heap.value id c.fieldName = Shelf.valueOf r c.fieldName := by
  have hcontent : heap.content? id c.fieldName = r.content? c.fieldName := by
    rw [Heap.content?, hid, Option.bind_some]
  rw [Heap.value, hcontent, Shelf.valueOf]
  rcases h c hc hkey with hnone | ⟨v,hv,_⟩
  · rw [hnone]
    rfl
  · rw [hv]
    rfl

theorem Keyed.heap_primary (h : r.Keyed s) {heap : Heap} {id : RecordId} (hid : heap[id]? = some r)
    {c : Column} (hc : s.primaryKey = .ok c) : heap.value id c.fieldName = r.primary s := by
  rw [Record.primary, hc]
  unfold Schema.primaryKey at hc
  split at hc
  · next hfind =>
    cases hc
    have hkey := List.find?_some hfind
    exact h.heap_value hid (List.mem_of_find?_eq_some hfind) (Or.inl hkey)
  · cases hc

end Record

namespace Shelf
variable {catalog : Catalog} {schemas : List Schema} {shelf : Shelf} {s : Schema}

def Keyed (schemas : List Schema) (shelf : Shelf) : Prop :=
  ∀ r ∈ shelf, ∀ s ∈ schemas, r.IsOf s → r.Keyed s

/-- Whether there is a record of a type with a key. -/
def Holds (shelf : Shelf) (s : Schema) (key : Value) : Prop :=
  ∃ r ∈ shelf, r.IsOf s ∧ (r.primary s).isSameKey key

theorem Keyed.holds_congr (h : shelf.Keyed schemas) (hs : s ∈ schemas) {key other : Value}
    (hkey : key.IsKey) (hother : other.IsKey) (hsame : key.isSameKey other) :
    shelf.Holds s key ↔ shelf.Holds s other :=
  exists_congr fun r => and_congr_right fun hr => and_congr_right fun hof =>
    (h r hr s hs hof).isSameKey_congr hkey hother hsame

/-- A search by the primary key never fails, since all keys can be compared. -/
theorem find?_primary (hshelf : ∀ r ∈ shelf, r.IsOf s → r.Keyed s) {c : Column}
    (hc : s.primaryKey = .ok c) {key : Value} (hkey : key.IsKey) :
    shelf.find? s.record.name c.fieldName key =
      .ok (List.find? (fun r => r.type.name = s.record.name && (r.primary s).isSameKey key) shelf) := by
  induction shelf with
  | nil => rfl
  | cons r rest ih =>
    have hrest := ih fun r hr => hshelf r (List.mem_cons_of_mem _ hr)
    rw [find?, List.find?_cons]
    by_cases hof : r.type.name = s.record.name
    · have hvalue := (hshelf r (List.mem_cons_self ..) hof).primary
      have hprimary : r.primary s = valueOf r c.fieldName := by rw [Record.primary, hc]
      obtain ⟨b,hequals,_⟩ := Value.IsKey.equals_eq hvalue hkey
      rw [if_pos hof, ← hprimary, Value.isSameKey, hequals, decide_eq_true hof, Bool.true_and]
      cases b with
      | false => exact hrest
      | true => rfl
    · rw [if_neg hof, decide_eq_false hof, Bool.false_and]
      exact hrest

theorem find?_primary_cases (hshelf : ∀ r ∈ shelf, r.IsOf s → r.Keyed s) {c : Column}
    (hc : s.primaryKey = .ok c) {key : Value} (hkey : key.IsKey) :
    (¬shelf.Holds s key ∧ shelf.find? s.record.name c.fieldName key = .ok none) ∨
      ∃ r ∈ shelf, r.IsOf s ∧ (r.primary s).isSameKey key ∧
        shelf.find? s.record.name c.fieldName key = .ok (some r) := by
  rw [find?_primary hshelf hc hkey]
  generalize hfind : List.find? _ shelf = found
  cases found with
  | none =>
    refine Or.inl ⟨fun ⟨r,hr,hof,hsame⟩ => ?_,rfl⟩
    exact List.find?_eq_none.mp hfind r hr (Bool.and_eq_true_iff.mpr ⟨decide_eq_true hof,hsame⟩)
  | some r =>
    have hfound := List.find?_some hfind
    rw [Bool.and_eq_true, decide_eq_true_eq] at hfound
    exact Or.inr ⟨r,List.mem_of_find?_eq_some hfind,hfound.1,hfound.2,rfl⟩

end Shelf
namespace Visited
variable {visited later : Visited} {table : Text} {key other : Value} {id : RecordId}

theorem find?_eq_some (h : visited.find? table key = some id) :
    ∃ e ∈ visited, e.1.1 = table ∧ e.1.2.isSameKey key ∧ e.2 = id := by
  obtain ⟨e,he,hid⟩ := Option.map_eq_some_iff.mp h
  have hfound := List.find?_some he
  rw [Bool.and_eq_true, decide_eq_true_eq] at hfound
  exact ⟨e,List.mem_of_find?_eq_some he,hfound.1,hfound.2,hid⟩

theorem find?_isSome_of_mem {e : (Text × Value) × RecordId} (he : e ∈ visited)
    (hsame : e.1.2.isSameKey key) : (visited.find? e.1.1 key).isSome := by
  rw [find?, Option.isSome_map, List.find?_isSome]
  exact ⟨e,he,Bool.and_eq_true_iff.mpr ⟨decide_eq_true rfl,hsame⟩⟩

theorem find?_mono (h : visited <+: later) (hid : visited.find? table key = some id) :
    later.find? table key = some id := by
  obtain ⟨rest,rfl⟩ := h
  obtain ⟨e,he,hid⟩ := Option.map_eq_some_iff.mp hid
  rw [find?, List.find?_append, he]
  exact congrArg some hid

theorem prefix_note : visited <+: visited.note table key id := by
  unfold note
  split
  · exact List.prefix_refl _
  · exact List.prefix_append ..

theorem mem_note {e : (Text × Value) × RecordId} (he : e ∈ visited.note table key id) :
    e ∈ visited ∨ e = ((table,key),id) := by
  unfold note at he
  split at he
  · exact Or.inl he
  · exact (List.mem_append.mp he).imp_right List.mem_singleton.mp

theorem find?_note_isSome (hsame : key.isSameKey key) :
    ((visited.note table key id).find? table key).isSome := by
  unfold note
  split
  · next h => exact h
  · exact find?_isSome_of_mem (List.mem_append_right _ (List.mem_singleton_self ((table,key),id))) hsame

theorem find?_note_of_none (hnone : visited.find? table key = none) (hsame : key.isSameKey key) :
    (visited.note table key id).find? table key = some id := by
  rw [note, if_neg (by simp [hnone]), find?, List.find?_append, Option.map_eq_none_iff.mp hnone]
  simp [hsame]

/-- Keys that are the same find the same record, if only keys were noted. -/
theorem find?_congr (hvisited : ∀ e ∈ visited, e.1.2.IsKey) (hkey : key.IsKey) (hother : other.IsKey)
    (hsame : key.isSameKey other) : visited.find? table key = visited.find? table other := by
  have hiff : ∀ e ∈ visited, e.1.2.isSameKey key = e.1.2.isSameKey other := by
    intro e he
    have hk := Or.inl (b := e.1.2 = .none) (hvisited e he)
    have hko := (Value.isSameKey_iff (Or.inl hkey) hother).mp hsame
    rw [Bool.eq_iff_iff, Value.isSameKey_iff hk hkey, Value.isSameKey_iff hk hother]
    exact ⟨fun h => h.trans hko,fun h => h.trans hko.symm⟩
  rw [find?, find?, List.find?_congr fun e he => by rw [hiff e he]]

theorem find?_note_of_same (hvisited : ∀ e ∈ visited, e.1.2.IsKey) (hkey : key.IsKey)
    (hother : other.IsKey) (hsame : key.isSameKey other) :
    ((visited.note table key id).find? table other).isSome := by
  have hnoted : ∀ e ∈ visited.note table key id, e.1.2.IsKey := by
    intro e he
    rcases mem_note he with he | rfl
    · exact hvisited e he
    · exact hkey
  rw [← find?_congr hnoted hkey hother hsame]
  exact find?_note_isSome hkey.isSameKey_self

end Visited
end SealedRows
