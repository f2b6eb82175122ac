import SealedRows.Proofs.Reference.Linked
import SealedRows.Proofs.Reference.Roots

/-! # The graph that resolution builds

Every record that can be reached from the roots is resolved in the turn of one of them. From then on
its foreign keys lead to the records of their tables and keys that were there at that time.
-/
namespace SealedRows

/-- The tables and the keys of which a record holds a foreign key that is to be resolved, each with the
record that it leads to. -/
inductive Heap.Leads (schemas : List Schema) (heap : Heap) (a : RecordId) :
    Text → Value → RecordId → Prop where
  | intro {b : RecordId} {r : Record} {s : Schema} {k : ForeignKey} (hr : heap[a]? = some r)
      (hs : s ∈ schemas) (hof : r.IsOf s) (hk : k ∈ s.foreignKeys) (hauto : k.autoResolve)
      (hvalue : Shelf.valueOf r k.fieldName ≠ .none)
      (hb : r.content? k.navigationField = some (.record b)) :
      Leads schemas heap a k.referencedTable (Shelf.valueOf r k.fieldName) b

inductive Heap.Reachable (schemas : List Schema) (heap : Heap) (roots : List (RecordId × Schema)) :
    RecordId → Prop where
  | root {a : RecordId} (h : a ∈ roots.map (·.1)) : Reachable schemas heap roots a
  | led {a b : RecordId} {table : Text} {key : Value} (ha : Reachable schemas heap roots a)
      (h : heap.Leads schemas a table key b) : Reachable schemas heap roots b

/-- Whether a foreign key of a record leads to a record of its type with its key if one is known, and
to nothing otherwise. -/
def Record.LeadsTo (schemas : List Schema) (heap : Heap) (known : Schema → Value → Prop) (r : Record)
    (k : ForeignKey) : Prop :=
  ∃ u ∈ schemas, u.record.name = k.referencedType ∧ u.name = k.referencedTable ∧
    (known u (Shelf.valueOf r k.fieldName) → ∃ b r', heap[b]? = some r' ∧ r'.IsOf u ∧
      (r'.primary u).isSameKey (Shelf.valueOf r k.fieldName) ∧
      r.content? k.navigationField = some (.record b)) ∧
    (¬known u (Shelf.valueOf r k.fieldName) → r.content? k.navigationField = some (.value .none))

namespace Traversal
variable {catalog : Catalog} {schemas : List Schema} {shelf : Shelf} {registry : Registry} {heap : Heap}
  {begin : Traversal (List FetchCall)} {roots : List (RecordId × Schema)} {s : Schema} {a : RecordId}
  {r : Record}

/-- Whether a record is resolved in the turn of a root, and not again in that of a later one: it is the
root itself or it is made then. -/
def InTurn (catalog : Catalog) (shelf : Shelf) (begin : Traversal (List FetchCall))
    (done : List (RecordId × Schema)) (root : RecordId × Schema) (rest : List (RecordId × Schema))
    (a : RecordId) : Prop :=
  (a = root.1 ∧ a ∉ rest.map (·.1)) ∨
    ((after catalog shelf begin done).heap.length ≤ a ∧
      a < (after catalog shelf begin (done ++ [root])).heap.length)

/-- What the resolution of references comes to. -/
structure BuildsGraph (catalog : Catalog) (schemas : List Schema) (shelf : Shelf)
    (begin : Traversal (List FetchCall)) (roots : List (RecordId × Schema)) : Prop where
  ends : Ends catalog shelf begin roots
  /-- What is on the shelf is fetched once at most. -/
  searched_once : ∀ s ∈ schemas, ∀ key : Value, key.IsKey → shelf.Holds s key →
    (after catalog shelf begin roots).searches s.name key ≤ 1
  navigated : ∀ a, Heap.Reachable schemas (after catalog shelf begin roots).heap roots a →
    ∃ done root rest, roots = done ++ root :: rest ∧ InTurn catalog shelf begin done root rest a ∧
      ∃ r : Record, (after catalog shelf begin roots).heap[a]? = some r ∧
        ∃ s ∈ schemas, r.IsOf s ∧ ∀ k ∈ s.foreignKeys, k.autoResolve →
          Shelf.valueOf r k.fieldName ≠ .none →
          r.LeadsTo schemas (after catalog shelf begin roots).heap
            (Known shelf begin.heap (done ++ [root])) k
  shared : ∀ a a', Heap.Reachable schemas (after catalog shelf begin roots).heap roots a →
    Heap.Reachable schemas (after catalog shelf begin roots).heap roots a' →
    ∀ (table : Text) (key key' : Value) (b b' : RecordId), key.isSameKey key' →
      (after catalog shelf begin roots).heap.Leads schemas a table key b →
      (after catalog shelf begin roots).heap.Leads schemas a' table key' b' → b = b'
  old : Heap.Renavigated schemas begin.heap (after catalog shelf begin roots).heap
  new : ∀ (a : RecordId) (r' : Record), begin.heap.length ≤ a →
    (after catalog shelf begin roots).heap[a]? = some r' →
    ∃ r ∈ shelf, Record.Renavigated schemas r r'

section
variable (hschemas : Navigable catalog schemas) (hbuilt : Registry.Built catalog registry)
  (hshelf : shelf.Keyed schemas)
  (hroots : ∀ root ∈ roots, root.2 ∈ schemas ∧ heap.HasKeyed root.2 root.1)
include hschemas hbuilt hshelf hroots

/-- Roots and new records are resolved in some turn. -/
theorem resolved_after (hr : (after catalog shelf ⟨registry,heap,[],[]⟩ roots).heap[a]? = some r)
    (ha : a ∈ roots.map (·.1) ∨ heap.length ≤ a) :
    ∃ done root rest, roots = done ++ root :: rest ∧
      InTurn catalog shelf ⟨registry,heap,[],[]⟩ done root rest a ∧
      r.Resolved schemas (after catalog shelf ⟨registry,heap,[],[]⟩ roots).visited
        (Known shelf heap (done ++ [root])) := by
  induction roots using List.reverseRecOn generalizing r with
  | nil =>
    rcases ha with ha | ha
    · cases ha
    · exact absurd (List.getElem?_eq_some_iff.mp hr).1 ha.not_gt
  | append_singleton roots root ih =>
    have hbefore : ∀ other ∈ roots, other.2 ∈ schemas ∧ heap.HasKeyed other.2 other.1 :=
      fun other hother => hroots other (List.mem_append_left _ hother)
    obtain ⟨id,s⟩ := root
    obtain ⟨hs,hid⟩ := hroots (id,s) (List.mem_append_right _ (List.mem_singleton_self _))
    obtain ⟨hends,hinvariant⟩ := invariant_after hschemas hshelf hbuilt hbefore
    obtain ⟨hfollows,_⟩ := after_append_singleton hschemas hshelf hends hinvariant hs hid
    obtain ⟨r₀,hr₀,hof,hkeyed⟩ := hid
    have hpending := hinvariant.enter hschemas hs hr₀ hof hkeyed hshelf
    -- The last root and what it makes are resolved in its turn, all else was before and is kept.
    by_cases hself : a = id
    · subst hself
      exact ⟨roots,(a,s),[],rfl,Or.inl ⟨rfl,nofun⟩,hfollows.resolved hpending hr⟩
    · by_cases hnew : (after catalog shelf ⟨registry,heap,[],[]⟩ roots).heap.length ≤ a
      · refine ⟨roots,(id,s),[],rfl,Or.inr ⟨hnew,(List.getElem?_eq_some_iff.mp hr).1⟩,?_⟩
        exact hfollows.resolved_new hpending (by rw [entered_heap]; exact hnew) hr
      · obtain ⟨before,hold⟩ : ∃ before : Record,
            (after catalog shelf ⟨registry,heap,[],[]⟩ roots).heap[a]? = some before :=
          ⟨_,List.getElem?_eq_getElem (Nat.lt_of_not_le hnew)⟩
        have hmem : a ∈ roots.map (·.1) ∨ heap.length ≤ a := by
          rw [List.map_append, List.mem_append] at ha
          exact ha.imp_left fun hmem => hmem.resolve_right fun heq => hself (List.mem_singleton.mp heq)
        obtain ⟨done,root,rest,rfl,hturn,hresolved⟩ := ih hbefore hold hmem
        refine ⟨done,root,rest ++ [(id,s)],List.append_assoc .., ?_,?_⟩
        · refine hturn.imp_left fun ⟨hroot,hrest⟩ => ⟨hroot,fun hlater => ?_⟩
          rw [List.map_append, List.mem_append] at hlater
          exact hlater.elim hrest fun heq => hself (List.mem_singleton.mp heq)
        · have hkept := hresolved.of_same (visited_entered _ id s) rfl fun _ => rfl
          rw [← entered_heap _ id s] at hold
          exact hfollows.extends.resolved hself hold hr hkept

/-- What a root or a new record leads to was met. -/
theorem find?_of_leads {table : Text} {key : Value} {b : RecordId}
    (ha : a ∈ roots.map (·.1) ∨ heap.length ≤ a)
    (h : (after catalog shelf ⟨registry,heap,[],[]⟩ roots).heap.Leads schemas a table key b) :
    key.IsKey ∧ ∃ u ∈ schemas, u.name = table ∧
      (after catalog shelf ⟨registry,heap,[],[]⟩ roots).visited.find? u.name key = some b := by
  cases h with
  | intro hr hs hof hk hauto hvalue hb =>
    obtain ⟨_,_,_,_,_,hresolved⟩ := resolved_after hschemas hbuilt hshelf hroots hr ha
    obtain ⟨hkey,u,hu,_,htable,⟨b,hb',hfind,_⟩ | ⟨hnone,_⟩⟩ := hresolved _ hs hof _ hk hauto hvalue
    · cases hb.symm.trans hb'
      exact ⟨hkey,u,hu,htable,hfind⟩
    · cases hb.symm.trans hnone

theorem getElem?_of_reachable
    (ha : Heap.Reachable schemas (after catalog shelf ⟨registry,heap,[],[]⟩ roots).heap roots a) :
    (∃ r : Record, (after catalog shelf ⟨registry,heap,[],[]⟩ roots).heap[a]? = some r ∧
      ∃ s ∈ schemas, r.IsOf s) ∧ (a ∈ roots.map (·.1) ∨ heap.length ≤ a) := by
  obtain ⟨_,hinvariant⟩ := invariant_after hschemas hshelf hbuilt hroots
  induction ha with
  | root hroot =>
    obtain ⟨root,hmem,rfl⟩ := List.mem_map.mp hroot
    obtain ⟨hs,r,hr,hof,_⟩ := hroots root hmem
    obtain ⟨r',hr',hrenavigated⟩ := hinvariant.old root.1 r hr
    exact ⟨⟨r',hr',root.2,hs,hrenavigated.isOf.mpr hof⟩,Or.inl hroot⟩
  | led _ hleads ih =>
    obtain ⟨hkey,u,hu,_,hfind⟩ := find?_of_leads hschemas hbuilt hshelf hroots ih.2 hleads
    obtain ⟨_,horigin,r,hr,hof,_⟩ := hinvariant.known_of_find? hschemas hu hkey hshelf hfind
    exact ⟨⟨r,hr,u,hu,hof⟩,horigin⟩

theorem resolveAll_buildsGraph :
    BuildsGraph catalog schemas shelf ⟨registry,heap,[],[]⟩ roots := by
  obtain ⟨hends,hinvariant⟩ := invariant_after hschemas hshelf hbuilt hroots
  refine ⟨hends,fun s hs key hkey hholds => (hinvariant.searched s hs key hkey hholds).1,?_,?_,
    hinvariant.old,?_⟩
  · intro a ha
    obtain ⟨⟨r,hr,s,hs,hof⟩,horigin⟩ := getElem?_of_reachable hschemas hbuilt hshelf hroots ha
    obtain ⟨done,root,rest,hsplit,hturn,hresolved⟩ :=
      resolved_after hschemas hbuilt hshelf hroots hr horigin
    refine ⟨done,root,rest,hsplit,hturn,r,hr,s,hs,hof,fun k hk hauto hvalue => ?_⟩
    obtain ⟨hkey,u,hu,htype,htable,hcases⟩ := hresolved s hs hof k hk hauto hvalue
    refine ⟨u,hu,htype,htable,?_⟩
    rcases hcases with ⟨b,hb,hfind,hknown⟩ | ⟨hnone,hunknown⟩
    · obtain ⟨_,_,r',hr',hof',hsame⟩ := hinvariant.known_of_find? hschemas hu hkey hshelf hfind
      exact ⟨fun _ => ⟨b,r',hr',hof',hsame,hb⟩,fun hunknown => absurd hknown hunknown⟩
    · exact ⟨fun hknown => absurd hknown hunknown,fun _ => hnone⟩
  · intro a a' ha ha' table key key' b b' hsame hb hb'
    obtain ⟨_,ha⟩ := getElem?_of_reachable hschemas hbuilt hshelf hroots ha
    obtain ⟨_,ha'⟩ := getElem?_of_reachable hschemas hbuilt hshelf hroots ha'
    obtain ⟨hkey,_,_,htable,hfind⟩ := find?_of_leads hschemas hbuilt hshelf hroots ha hb
    obtain ⟨hkey',_,_,htable',hfind'⟩ := find?_of_leads hschemas hbuilt hshelf hroots ha' hb'
    rw [htable, Visited.find?_congr (fun _ => hinvariant.isKey_of_mem) hkey hkey' hsame] at hfind
    rw [htable'] at hfind'
    exact Option.some.inj (hfind.symm.trans hfind')
  · intro a r' ha hr'
    obtain ⟨r,hr,_,hrenavigated⟩ := hinvariant.new a r' ha hr'
    exact ⟨r,hr,hrenavigated⟩

end
end Traversal

namespace Chain

def declaration : TypeDeclaration :=
  ⟨"Link",some "links",none,true,
    [Circle.key, Circle.reference "next_id" "next", ⟨"next","Link",none,.value .none,true⟩]⟩

def type : RecordType := Catalog.typeOf none declaration

def registry : Registry := (Registry.schemaFor [type] [] "Link").2

def link (id next : Int) : Record :=
  ⟨type,[("id",.value (.int id)),("next_id",.value (.int next)),("next",.value .none)]⟩

def shelf : Shelf := [link 1 2,link 2 3,link 3 1]

/-- The first link of the circle, another that leads into it and one that leads nowhere. -/
def heap : Heap := [link 1 2,link 4 2,link 5 6]

def roots : List (RecordId × Schema) :=
  [0,1,2].flatMap fun id => registry.map fun e => (id,e.schema)

theorem keyed_link (id next : Int) (s : Schema) : (link id next).Keyed s := by
  refine Record.keyed_of_values (fun e he => ?_) (fun e he => ?_) s
  · simp only [link, List.mem_cons, List.not_mem_nil, or_false] at he
    rcases he with rfl | rfl | rfl
    · exact ⟨_,rfl,Or.inl (.int id)⟩
    · exact ⟨_,rfl,Or.inl (.int next)⟩
    · exact ⟨_,rfl,Or.inr rfl⟩
  · cases List.mem_singleton.mp he
    exact Or.inr rfl

theorem keyed_shelf : shelf.Keyed (registry.map (·.schema)) := by
  intro r hr s _ _
  simp only [shelf, List.mem_cons, List.not_mem_nil, or_false] at hr
  rcases hr with rfl | rfl | rfl <;> exact keyed_link _ _ s

set_option maxRecDepth 4000 in
theorem navigable : Navigable [type] (registry.map (·.schema)) := by
  refine .of_closed (show Catalog.ofDeclarations [declaration] = .ok [type] from rfl)
    (.schemaFor .empty "Link") ?_ ?_ ?_
  · unfold Registry.Closed
    decide
  · decide
  · decide

set_option maxRecDepth 4000 in
theorem keyed_roots : ∀ root ∈ roots,
    root.2 ∈ registry.map (·.schema) ∧ heap.HasKeyed root.2 root.1 := by
  intro root hroot
  obtain ⟨id,hid,hroot⟩ := List.mem_flatMap.mp hroot
  obtain ⟨e,he,rfl⟩ := List.mem_map.mp hroot
  have hname : ∀ e ∈ registry, e.schema.record.name = type.name := by decide
  refine ⟨List.mem_map_of_mem he,?_⟩
  simp only [List.mem_cons, List.not_mem_nil, or_false] at hid
  rcases hid with rfl | rfl | rfl
  · exact ⟨link 1 2,rfl,(hname e he).symm,keyed_link 1 2 _⟩
  · exact ⟨link 4 2,rfl,(hname e he).symm,keyed_link 4 2 _⟩
  · exact ⟨link 5 6,rfl,(hname e he).symm,keyed_link 5 6 _⟩

def next? (r : Record) : Option RecordId :=
  match r.content? "next" with
  | some (.record b) => some b
  | _ => none

set_option maxRecDepth 4000 in
/-- The first two links share the one that they refer to, and the circle ends in the first of them. -/
theorem buildsGraph_links :
    Traversal.BuildsGraph [type] (registry.map (·.schema)) shelf ⟨[],heap,[],[]⟩ roots ∧
      (Traversal.after [type] shelf ⟨[],heap,[],[]⟩ roots).heap.map next? =
        [some 3,some 3,none,some 4,some 0] :=
  ⟨Traversal.resolveAll_buildsGraph navigable nofun keyed_shelf keyed_roots,by decide +kernel⟩

end Chain
end SealedRows
