import SealedRows.Proofs.Reference.Pending

/-! # What foreign keys lead to

A foreign key that was followed leads to the record that was met under its table and its key, and to
nothing only if there is no such record. That stays so while other foreign keys are followed.
-/
namespace SealedRows

/-- Whether a foreign key of a record leads to the record that was met, if one is known, and to nothing
otherwise. -/
def Record.Linked (schemas : List Schema) (visited : Visited) (known : Schema → Value → Prop)
    (r : Record) (k : ForeignKey) : Prop :=
  (Shelf.valueOf r k.fieldName).IsKey ∧
  ∃ u ∈ schemas, u.record.name = k.referencedType ∧ u.name = k.referencedTable ∧
    ((∃ b, r.content? k.navigationField = some (.record b) ∧
        visited.find? u.name (Shelf.valueOf r k.fieldName) = some b ∧
        known u (Shelf.valueOf r k.fieldName)) ∨
      r.content? k.navigationField = some (.value .none) ∧ ¬known u (Shelf.valueOf r k.fieldName))

/-- Whether all foreign keys of a record that are to be resolved and hold something were followed. -/
def Record.Resolved (schemas : List Schema) (visited : Visited) (known : Schema → Value → Prop)
    (r : Record) : Prop :=
  ∀ s ∈ schemas, r.IsOf s → ∀ k ∈ s.foreignKeys, k.autoResolve →
    Shelf.valueOf r k.fieldName ≠ .none → r.Linked schemas visited known k

theorem Record.Resolved.of_same {schemas : List Schema} {visited later : Visited}
    {known : Schema → Value → Prop} {r r' : Record} (h : r.Resolved schemas visited known)
    (hvisited : visited <+: later) (htype : r'.type = r.type)
    (hsame : ∀ field, r'.content? field = r.content? field) : r'.Resolved schemas later known := by
  have hvalue : ∀ field, Shelf.valueOf r' field = Shelf.valueOf r field := fun field => by
    rw [Shelf.valueOf, hsame, ← Shelf.valueOf]
  intro s hs hof k hk hauto hkey
  rw [IsOf, htype] at hof
  rw [hvalue] at hkey
  obtain ⟨hisKey,u,hu,htype',htable,hcases⟩ := h s hs hof k hk hauto hkey
  rw [← hvalue] at hisKey
  refine ⟨hisKey,u,hu,htype',htable,?_⟩
  rw [hvalue, hsame]
  refine hcases.imp_left ?_
  rintro ⟨b,hb,hfind,hknown⟩
  exact ⟨b,hb,Visited.find?_mono hvisited hfind,hknown⟩

namespace Traversal
variable {catalog : Catalog} {schemas : List Schema} {shelf : Shelf} {start : Heap}
  {roots : List (RecordId × Schema)} {t t' later : Traversal (List FetchCall)} {s u : Schema}
  {id : RecordId} {k : ForeignKey} {ks : List ForeignKey} {key : Value}

namespace Invariant
variable (h : Invariant catalog schemas shelf start roots t)
  (hschemas : Navigable catalog schemas) (hu : u ∈ schemas) (hkey : key.IsKey)
include h hu hkey

theorem known_congr (hshelf : shelf.Keyed schemas) {other : Value} (hother : other.IsKey)
    (hsame : key.isSameKey other) :
    Known shelf start roots u key ↔ Known shelf start roots u other := by
  refine or_congr (hshelf.holds_congr hu hkey hother hsame) (exists_congr fun root => ?_)
  refine and_congr_right fun hroot => and_congr_right fun htype => exists_congr fun r => ?_
  refine and_congr_right fun hr => ?_
  obtain ⟨_,r',hr',_,hkeyed⟩ := h.keyed root hroot
  cases hr.symm.trans hr'
  rw [htype] at hkeyed
  exact hkeyed.isSameKey_congr hkey hother hsame

include hschemas

theorem known_of_find? (hshelf : shelf.Keyed schemas) {b : RecordId}
    (hfind : t.visited.find? u.name key = some b) :
    Known shelf start roots u key ∧ (b ∈ roots.map (·.1) ∨ start.length ≤ b) ∧
      ∃ r : Record, t.heap[b]? = some r ∧ r.IsOf u ∧ (r.primary u).isSameKey key := by
  obtain ⟨e,he,htable,hsame,rfl⟩ := Visited.find?_eq_some hfind
  obtain ⟨s,hs,hname,hother,hknown,horigin,r,hr,hof,hkeyed,hprimary⟩ := h.visited e he
  cases hschemas.eq_of_table hs hu (hname.symm.trans htable)
  exact ⟨(h.known_congr hu hother hshelf hkey hsame).mp hknown,horigin,r,hr,hof,
    (hkeyed.isSameKey_congr hother hkey hsame).mp hprimary⟩

omit hschemas hu in
theorem not_known (hnew : t.visited.find? u.name key = none) (hnone : ¬shelf.Holds u key) :
    ¬Known shelf start roots u key := by
  rintro (hholds | ⟨root,hroot,rfl,r,hr,hsame⟩)
  · exact hnone hholds
  · have hmet := h.met root hroot r hr key hkey hsame
    rw [hnew] at hmet
    cases hmet

end Invariant

/-- Following the rest of the foreign keys of a record keeps what was set for one of them. -/
theorem Pending.content?_navigation (h : Pending catalog schemas shelf start roots t s id (k :: ks))
    (new : List Record) {content : Content}
    (hheap : later.heap = Heap.assign (t.heap ++ new) id k.navigationField content)
    (hkept : ∀ r : Record, later.heap[id]? = some r → ∃ r' : Record, t'.heap[id]? = some r' ∧
      ∀ field, (∀ k' ∈ ks, k'.navigationField ≠ field) → r'.content? field = r.content? field)
    {r' : Record} (hr' : t'.heap[id]? = some r') : r'.content? k.navigationField = some content := by
  obtain ⟨r,hr,_⟩ := h.record
  have hset : later.heap[id]? = some (r.withField k.navigationField content) := by
    rw [hheap, getElem?_assign, if_pos rfl, List.getElem?_append_left h.lt_length, hr]
    rfl
  obtain ⟨r'',hr'',hsame⟩ := hkept _ hset
  cases hr'.symm.trans hr''
  have hnodup := (h.navigable.navigation_nodup s h.schema).sublist
    (h.keys.sublist.map (·.navigationField))
  have hother : k.navigationField ∉ ks.map (·.navigationField) := (List.nodup_cons.mp hnodup).1
  rw [hsame k.navigationField fun k' hk' heq => hother (List.mem_map.mpr ⟨k',hk',heq⟩),
    Record.content?_withField, if_pos rfl]

theorem Pending.valueOf_eq (h : Pending catalog schemas shelf start roots t s id ks)
    (hextends : Extends id ks t t') (hk : k ∈ s.foreignKeys) (hauto : k.autoResolve) {r' : Record}
    (hr' : t'.heap[id]? = some r') : Shelf.valueOf r' k.fieldName = t.heap.value id k.fieldName := by
  obtain ⟨r,hr,_,hkeyed⟩ := h.record
  obtain ⟨⟨c,hc,hck,hfield⟩,_⟩ := Schema.foreignKey_of_schemaOf (h.navigable.declared s h.schema) hk
  rw [← hfield, hkeyed.heap_value hr hc (Or.inr ⟨k,hck,hauto⟩)]
  rw [Shelf.valueOf, h.content?_column hextends hr hr' hc, ← Shelf.valueOf]

theorem Extends.kept (h : Extends id ks t t') (r : Record) (hr : t.heap[id]? = some r) :
    ∃ r' : Record, t'.heap[id]? = some r' ∧
      ∀ field, (∀ k ∈ ks, k.navigationField ≠ field) → r'.content? field = r.content? field := by
  obtain ⟨r',hr',_,hsame⟩ := h.record id r hr
  exact ⟨r',hr',fun field hfield => hsame field fun _ => hfield⟩

theorem Extends.kept_of_ne {other : RecordId} {ls : List ForeignKey} (h : Extends other ls t later)
    (hother : id ≠ other) (h' : Extends id ks later t') (r : Record) (hr : t.heap[id]? = some r) :
    ∃ r' : Record, t'.heap[id]? = some r' ∧
      ∀ field, (∀ k ∈ ks, k.navigationField ≠ field) → r'.content? field = r.content? field := by
  obtain ⟨r',hr',_,hsame⟩ := h.record id r hr
  obtain ⟨r'',hr'',hsame'⟩ := h'.kept r' hr'
  refine ⟨r'',hr'',fun field hfield => ?_⟩
  rw [hsame' field hfield, hsame field fun heq => absurd heq hother]

theorem Follows.rest (h : Follows catalog shelf t id (k :: ks) t')
    (hpending : Pending catalog schemas shelf start roots t s id (k :: ks)) :
    ∃ later, Pending catalog schemas shelf start roots later s id ks ∧
      Follows catalog shelf later id ks t' := by
  cases h with
  | skip _ hrest => exact ⟨_,hpending.skip,hrest⟩
  | met hkey _ hrest => exact ⟨_,hpending.navigated hkey.1 _,hrest⟩
  | missing hvalue hkey _ hs hfind hrest => exact ⟨_,hpending.missing hvalue hkey hs hfind,hrest⟩
  | loaded hvalue hkey hnew hs hfind hvisit hrest =>
    exact ⟨_,hpending.rest (extends_loaded hvisit.extends)
      (hvisit.invariant (hpending.loaded hvalue hkey hnew hs hfind)),hrest⟩

theorem Target.linked_found {visited : Visited} {known : Schema → Value → Prop} {r : Record}
    {b : RecordId} (hu : Target catalog schemas t k u) (hkey : key.IsKey)
    (hvalue : Shelf.valueOf r k.fieldName = key)
    (hcontent : r.content? k.navigationField = some (.record b))
    (hfind : visited.find? k.referencedTable key = some b) (hknown : known u key) :
    r.Linked schemas visited known k := by
  subst hvalue
  rw [← hu.table_eq] at hfind
  exact ⟨hkey,u,hu.mem,hu.type_eq,hu.table_eq,Or.inl ⟨b,hcontent,hfind,hknown⟩⟩

theorem Target.linked_nowhere {visited : Visited} {known : Schema → Value → Prop} {r : Record}
    (hu : Target catalog schemas t k u) (hkey : key.IsKey) (hvalue : Shelf.valueOf r k.fieldName = key)
    (hcontent : r.content? k.navigationField = some (.value .none)) (hunknown : ¬known u key) :
    r.Linked schemas visited known k := by
  subst hvalue
  exact ⟨hkey,u,hu.mem,hu.type_eq,hu.table_eq,Or.inr ⟨hcontent,hunknown⟩⟩

theorem Follows.linked_first (h : Follows catalog shelf t id (k :: ks) t')
    (hpending : Pending catalog schemas shelf start roots t s id (k :: ks)) {r' : Record}
    (hr' : t'.heap[id]? = some r') (hauto : k.autoResolve)
    (hvalue : Shelf.valueOf r' k.fieldName ≠ .none) :
    r'.Linked schemas t'.visited (Known shelf start roots) k := by
  have hsame := hpending.valueOf_eq h.extends hpending.mem hauto hr'
  rw [hsame] at hvalue
  have hisKey := hpending.isKey ⟨hauto,hvalue⟩
  have hnavigable := hpending.navigable
  cases h with
  | skip hskip => exact absurd ⟨hauto,hvalue⟩ hskip
  | @met _ _ _ found _ _ _ hfound hrest =>
    obtain ⟨u,hu⟩ := hpending.target
    have hcontent : r'.content? k.navigationField = some (.record found) := by
      refine hpending.content?_navigation [] ?_ hrest.extends.kept hr'
      rw [List.append_nil]
      rfl
    have hlast := Visited.find?_mono hrest.extends.visited hfound
    rw [← hu.table_eq] at hfound
    have hknown := hpending.invariant.known_of_find? hnavigable hu.mem hisKey hpending.keyed hfound
    exact hu.linked_found hisKey hsame hcontent hlast hknown.1
  | missing hkey _ hnew hs hfind hrest =>
    subst hkey
    obtain ⟨_,hu,hnone,_⟩ := hpending.searched rfl ⟨hauto,hvalue⟩ hs hfind
    have hcontent : r'.content? k.navigationField = some (.value .none) := by
      refine hpending.content?_navigation [] ?_ hrest.extends.kept hr'
      rw [List.append_nil]
      rfl
    rw [← hu.table_eq] at hnew
    exact hu.linked_nowhere hisKey hsame hcontent (hpending.invariant.not_known hisKey hnew (hnone rfl))
  | @loaded _ _ _ _ _ _ u r _ hkey _ hnew hs hfind hvisit hrest =>
    subst hkey
    obtain ⟨_,hu,_,hfound⟩ := hpending.searched rfl ⟨hauto,hvalue⟩ hs hfind
    obtain ⟨hr,hof,hprimary⟩ := hfound r rfl
    have hcontent : r'.content? k.navigationField = some (.record t.heap.length) := by
      refine hpending.content?_navigation [r] ?_
        (hvisit.extends.kept_of_ne (Nat.ne_of_lt hpending.lt_length) hrest.extends) hr'
      rw [entered_heap]
      rfl
    have hfirst : (t.visited.note k.referencedTable (t.heap.value id k.fieldName) t.heap.length).find?
        k.referencedTable (t.heap.value id k.fieldName) = some t.heap.length :=
      Visited.find?_note_of_none hnew hisKey.isSameKey_self
    have hlast := Visited.find?_mono
      (((visited_entered ..).trans hvisit.extends.visited).trans hrest.extends.visited) hfirst
    exact hu.linked_found hisKey hsame hcontent hlast (Or.inl ⟨r,hr,hof,hprimary⟩)

/-- The foreign keys of a record that were followed lead to what they should. -/
theorem Follows.linked (h : Follows catalog shelf t id ks t')
    (hpending : Pending catalog schemas shelf start roots t s id ks) {r' : Record}
    (hr' : t'.heap[id]? = some r') (hk : k ∈ ks) (hauto : k.autoResolve)
    (hvalue : Shelf.valueOf r' k.fieldName ≠ .none) :
    r'.Linked schemas t'.visited (Known shelf start roots) k := by
  induction ks generalizing t with
  | nil => cases hk
  | cons first ks ih =>
    rcases List.mem_cons.mp hk with rfl | hk
    · exact h.linked_first hpending hr' hauto hvalue
    · obtain ⟨later,hrest,hfollows⟩ := h.rest hpending
      exact ih hfollows hrest hk

theorem Follows.resolved (h : Follows catalog shelf t id s.foreignKeys t')
    (hpending : Pending catalog schemas shelf start roots t s id s.foreignKeys) {r' : Record}
    (hr' : t'.heap[id]? = some r') : r'.Resolved schemas t'.visited (Known shelf start roots) := by
  intro s' hs' hof' k hk hauto hvalue
  obtain ⟨r,hr,hof,_⟩ := hpending.record
  obtain ⟨r'',hr'',htype,_⟩ := h.extends.record id r hr
  cases hr'.symm.trans hr''
  rw [Record.IsOf, htype] at hof'
  cases hpending.navigable.eq_of_type hpending.schema hs' (hof.symm.trans hof')
  exact h.linked hpending hr' hk hauto hvalue

theorem Extends.resolved {known : Schema → Value → Prop} (h : Extends id ks t t') {a : RecordId}
    (ha : a ≠ id) {r r' : Record} (hr : t.heap[a]? = some r) (hr' : t'.heap[a]? = some r')
    (hresolved : r.Resolved schemas t.visited known) : r'.Resolved schemas t'.visited known := by
  obtain ⟨r'',hr'',htype,hsame⟩ := h.record a r hr
  cases hr'.symm.trans hr''
  exact hresolved.of_same h.visited htype fun field => hsame field fun heq => absurd heq ha

/-- All foreign keys of the new records were followed. -/
theorem Follows.resolved_new (h : Follows catalog shelf t id ks t')
    (hpending : Pending catalog schemas shelf start roots t s id ks) {a : RecordId} {r' : Record}
    (ha : t.heap.length ≤ a) (hr' : t'.heap[a]? = some r') :
    r'.Resolved schemas t'.visited (Known shelf start roots) := by
  induction h generalizing s r' with
  | nil => exact absurd (List.getElem?_eq_some_iff.mp hr').1 ha.not_gt
  | skip _ _ ih => exact ih hpending.skip ha hr'
  | met hkey _ _ ih =>
    refine ih (hpending.navigated hkey.1 _) ?_ hr'
    exact (List.length_modify ..).trans_le ha
  | missing hvalue hkey _ hs hfind _ ih =>
    refine ih (hpending.missing hvalue hkey hs hfind) ?_ hr'
    exact (List.length_modify ..).trans_le ha
  -- A new record is this one, or was made while it was visited or by a later foreign key.
  | @loaded t middle _ id k ks u r _ hvalue hkey hnew hs hfind hvisit hrest ihvisit ihrest =>
    have hloaded := hpending.loaded hvalue hkey hnew hs hfind
    have hnext := hpending.rest (extends_loaded hvisit.extends) (hvisit.invariant hloaded)
    by_cases hmiddle : middle.heap.length ≤ a
    · exact ihrest hnext hmiddle hr'
    · have hr := List.getElem?_eq_getElem (Nat.lt_of_not_le hmiddle)
      have hother : a ≠ id := Nat.ne_of_gt (hpending.lt_length.trans_le ha)
      refine hrest.extends.resolved hother hr hr' ?_
      rcases Nat.eq_or_lt_of_le ha with rfl | hlt
      · exact hvisit.resolved hloaded hr
      · refine ihvisit hloaded ?_ hr
        rw [entered_heap]
        exact ((List.length_modify ..).trans List.length_append).trans_le hlt

end Traversal
end SealedRows
