import SealedRows.Proofs.Reference.Steps
import SealedRows.Proofs.Schema.Keys

/-! # Types of what foreign keys lead to

A record that was met is known by its table and its key alone, so a foreign key can lead to a record
of any type that is declared with the table that it refers to. It leads to one of the type that it
refers to if that is the only type of the table.
-/
namespace SealedRows

/-- Whether a record is of a declared type whose table a foreign key refers to. -/
def Record.IsReferred (catalog : Catalog) (k : ForeignKey) (r : Record) : Prop :=
  ∃ u, catalog.schemaOf r.type.name = .ok u ∧ u.name = k.referencedTable

/-- Whether no type but the one that a foreign key refers to is declared with its table. -/
def ForeignKey.IsUnambiguous (catalog : Catalog) (k : ForeignKey) : Prop :=
  ∀ typeName u, catalog.schemaOf typeName = .ok u → u.name = k.referencedTable →
    typeName = k.referencedType

theorem Record.IsReferred.type_eq {catalog : Catalog} {k : ForeignKey} {r : Record}
    (h : r.IsReferred catalog k) (honly : k.IsUnambiguous catalog) : r.type.name = k.referencedType := by
  obtain ⟨u,hu,hname⟩ := h
  exact honly _ u hu hname

def Heap.Fits (catalog : Catalog) (heap : Heap) (k : ForeignKey) (content : Option Content) : Prop :=
  content = some (.value .none) ∨
    ∃ (other : RecordId) (r : Record), content = some (.record other) ∧ heap[other]? = some r ∧
      r.IsReferred catalog k

/-- Whether a record differs from another one at most in what its foreign keys were led to. -/
structure Record.Assigned (catalog : Catalog) (heap : Heap) (r r' : Record) : Prop where
  type_eq : r'.type = r.type
  content : ∀ field, r'.content? field = r.content? field ∨
    ∃ s, catalog.schemaOf r.type.name = .ok s ∧ ∃ k ∈ s.foreignKeys, k.autoResolve ∧
      k.navigationField = field ∧ heap.Fits catalog k (r'.content? field)

def Heap.KeepsTypes (heap later : Heap) : Prop :=
  ∀ (id : RecordId) (r : Record), heap[id]? = some r →
    ∃ r' : Record, later[id]? = some r' ∧ r'.type = r.type

namespace Heap
variable {catalog : Catalog} {heap later last : Heap} {k : ForeignKey} {id : RecordId}

theorem KeepsTypes.refl (heap : Heap) : heap.KeepsTypes heap := fun _ r hr => ⟨r,hr,rfl⟩

theorem KeepsTypes.trans (h : heap.KeepsTypes later) (h' : later.KeepsTypes last) :
    heap.KeepsTypes last := by
  intro id r hr
  obtain ⟨r',hr',htype⟩ := h id r hr
  obtain ⟨r'',hr'',htype'⟩ := h' id r' hr'
  exact ⟨r'',hr'',htype'.trans htype⟩

theorem keepsTypes_append (heap new : Heap) : heap.KeepsTypes (heap ++ new) := by
  intro id r hr
  have hid : id < heap.length := (List.getElem?_eq_some_iff.mp hr).1
  exact ⟨r,by rw [List.getElem?_append_left hid, hr],rfl⟩

theorem keepsTypes_assign (heap : Heap) (id : RecordId) (field : Text) (content : Content) :
    heap.KeepsTypes (heap.assign id field content) := by
  intro other r hr
  rw [Traversal.getElem?_assign, hr]
  split
  · exact ⟨_,rfl,rfl⟩
  · exact ⟨r,rfl,rfl⟩

theorem Fits.mono {content : Option Content} (h : heap.Fits catalog k content)
    (hlater : heap.KeepsTypes later) : later.Fits catalog k content := by
  rcases h with hnone | ⟨other,r,hcontent,hr,hreferred⟩
  · exact Or.inl hnone
  · obtain ⟨r',hr',htype⟩ := hlater other r hr
    refine Or.inr ⟨other,r',hcontent,hr',?_⟩
    rw [Record.IsReferred, htype]
    exact hreferred

end Heap

namespace Record.Assigned
variable {catalog : Catalog} {heap later : Heap} {r r' : Record}

theorem refl (catalog : Catalog) (heap : Heap) (r : Record) : Assigned catalog heap r r :=
  ⟨rfl,fun _ => Or.inl rfl⟩

theorem mono (h : Assigned catalog heap r r') (hlater : heap.KeepsTypes later) :
    Assigned catalog later r r' := by
  refine ⟨h.type_eq,fun field => (h.content field).imp_right ?_⟩
  rintro ⟨s,hs,k,hk,hauto,hfield,hfits⟩
  exact ⟨s,hs,k,hk,hauto,hfield,hfits.mono hlater⟩

theorem withField (h : Assigned catalog heap r r') {s : Schema}
    (hs : catalog.schemaOf r.type.name = .ok s) {k : ForeignKey} (hk : k ∈ s.foreignKeys)
    (hauto : k.autoResolve) {content : Content} (hfits : heap.Fits catalog k (some content)) :
    Assigned catalog heap r (r'.withField k.navigationField content) := by
  refine ⟨h.type_eq,fun field => ?_⟩
  rw [content?_withField]
  split
  · next hfield => exact Or.inr ⟨s,hs,k,hk,hauto,hfield.symm,hfits⟩
  · exact h.content field

end Record.Assigned

/-- Whether a source gives a record of the type of the schema that it is asked for, if any. What it
makes on the way are records of that type like those that it keeps. -/
def Source.Typed {σ : Type} (source : Source σ) (kept : Record → Prop) : Prop :=
  ∀ s column key registry heap rest, ∃ new : List Record,
    (source.fetch s column key registry heap rest).2.1 = heap ++ new ∧ (∀ r ∈ new, kept r) ∧
      ∀ found, (source.fetch s column key registry heap rest).1 = .ok (some found) →
        ∃ r : Record, (heap ++ new)[found]? = some r ∧ r.IsOf s

namespace Traversal
variable {σ : Type} {catalog : Catalog} {kept : Record → Prop} {start : Heap} {source : Source σ}
  {t : Traversal σ} {id : RecordId} {s : Schema} {k : ForeignKey}

structure Typed (catalog : Catalog) (kept : Record → Prop) (start : Heap) (t : Traversal σ) : Prop where
  built : Registry.Built catalog t.registry
  length_le : start.length ≤ t.heap.length
  records : ∀ (id : RecordId) (r' : Record), t.heap[id]? = some r' →
    ∃ r, (start[id]? = some r ∨ start.length ≤ id ∧ kept r) ∧ Record.Assigned catalog t.heap r r'
  visited : ∀ e ∈ t.visited, ∃ (r : Record) (u : Schema), t.heap[e.2]? = some r ∧
    catalog.schemaOf r.type.name = .ok u ∧ u.name = e.1.1

def Stands (catalog : Catalog) (t : Traversal σ) (id : RecordId) (s : Schema) : Prop :=
  catalog.schemaOf s.record.name = .ok s ∧ ∃ r : Record, t.heap[id]? = some r ∧ r.IsOf s

theorem Stands.mono {t' : Traversal σ} (h : Stands catalog t id s) (hlater : t.heap.KeepsTypes t'.heap) :
    Stands catalog t' id s := by
  obtain ⟨hs,r,hr,hof⟩ := h
  obtain ⟨r',hr',htype⟩ := hlater id r hr
  exact ⟨hs,r',hr',by rw [Record.IsOf, htype]; exact hof⟩

namespace Typed
variable (h : Typed catalog kept start t)
include h

theorem note (hid : Stands catalog t id s) (key : Value) :
    Typed catalog kept start { t with visited := t.visited.note s.name key id } := by
  obtain ⟨hs,r,hr,hof⟩ := hid
  refine ⟨h.built,h.length_le,h.records,fun e he => ?_⟩
  rcases Visited.mem_note he with hold | rfl
  · exact h.visited e hold
  · exact ⟨r,s,hr,by rw [hof]; exact hs,rfl⟩

theorem registered (typeName : Text) : Typed catalog kept start (t.registered catalog typeName) :=
  ⟨(h.built.schemaFor typeName).1,h.length_le,h.records,h.visited⟩

theorem append {new : List Record} (hnew : ∀ r ∈ new, kept r) (rest : σ) :
    Typed catalog kept start { t with heap := t.heap ++ new, source := rest } := by
  have hkeeps : t.heap.KeepsTypes (t.heap ++ new) := Heap.keepsTypes_append _ _
  refine ⟨h.built,?_,?_,?_⟩
  · rw [List.length_append]
    exact h.length_le.trans (Nat.le_add_right _ _)
  · intro id r' hr'
    rcases Nat.lt_or_ge id t.heap.length with hid | hid
    · rw [List.getElem?_append_left hid] at hr'
      obtain ⟨r,hr,hassigned⟩ := h.records id r' hr'
      exact ⟨r,hr,hassigned.mono hkeeps⟩
    · rw [List.getElem?_append_right hid] at hr'
      refine ⟨r',Or.inr ⟨h.length_le.trans hid,hnew r' (List.mem_of_getElem? hr')⟩,.refl _ _ _⟩
  · intro e he
    obtain ⟨r,u,hr,hu,hname⟩ := h.visited e he
    obtain ⟨r',hr',htype⟩ := hkeeps e.2 r hr
    exact ⟨r',u,hr',by rw [htype]; exact hu,hname⟩

theorem navigated (hid : Stands catalog t id s) (hk : k ∈ s.foreignKeys) (hauto : k.autoResolve)
    {found : Option RecordId}
    (hfound : ∀ other, found = some other →
      ∃ r : Record, t.heap[other]? = some r ∧ r.IsReferred catalog k) :
    Typed catalog kept start (t.navigated id k.navigationField found) := by
  obtain ⟨hs,r₀,hr₀,hof⟩ := hid
  generalize hcontent : (found.map Content.record).getD (.value .none) = content
  have hkeeps : t.heap.KeepsTypes (t.heap.assign id k.navigationField content) :=
    Heap.keepsTypes_assign _ _ _ _
  have hfits : t.heap.Fits catalog k (some content) := by
    cases found with
    | none =>
      subst hcontent
      exact Or.inl rfl
    | some other =>
      obtain ⟨r,hr,hreferred⟩ := hfound other rfl
      subst hcontent
      exact Or.inr ⟨other,r,rfl,hr,hreferred⟩
  have hheap : (t.navigated id k.navigationField found).heap =
      t.heap.assign id k.navigationField content := by
    rw [Traversal.navigated, hcontent]
  refine ⟨h.built,?_,?_,?_⟩
  · rw [hheap, Heap.assign, List.length_modify]
    exact h.length_le
  · rw [hheap]
    intro other r' hr'
    rw [getElem?_assign] at hr'
    split at hr'
    · next heq =>
      subst heq
      rw [hr₀] at hr'
      cases hr'
      obtain ⟨r,hr,hassigned⟩ := h.records id r₀ hr₀
      have hschema : catalog.schemaOf r.type.name = .ok s := by
        rw [← hassigned.type_eq, hof]
        exact hs
      exact ⟨r,hr,(hassigned.withField hschema hk hauto hfits).mono hkeeps⟩
    · obtain ⟨r,hr,hassigned⟩ := h.records other r' hr'
      exact ⟨r,hr,hassigned.mono hkeeps⟩
  · rw [hheap]
    intro e he
    obtain ⟨r,u,hr,hu,hname⟩ := h.visited e he
    obtain ⟨r',hr',htype⟩ := hkeeps e.2 r hr
    exact ⟨r',u,hr',by rw [htype]; exact hu,hname⟩

theorem asked (hsource : source.Typed kept) (u : Schema) (column : Text) (key : Value) :
    Typed catalog kept start (fetch source u column key t).2 ∧
      t.heap.KeepsTypes (fetch source u column key t).2.heap ∧
      ∀ found, (fetch source u column key t).1 = .ok (some found) →
        ∃ r : Record, (fetch source u column key t).2.heap[found]? = some r ∧ r.IsOf u := by
  obtain ⟨new,hheap,hnew,hfound⟩ := hsource u column key t.registry t.heap t.source
  have hstate : (fetch source u column key t).2 = { t with
      heap := t.heap ++ new
      source := (source.fetch u column key t.registry t.heap t.source).2.2 } := by
    rw [← hheap]
    rfl
  rw [hstate]
  exact ⟨h.append hnew _,Heap.keepsTypes_append _ _,hfound⟩

end Typed

/-- Every step keeps the types, whatever the records come from. -/
theorem kept_typed (hsource : source.Typed kept) :
    Kept catalog source (Typed catalog kept start) (fun t t' => t.heap.KeepsTypes t'.heap)
      (Stands catalog) where
  refl t := .refl t.heap
  trans := .trans
  stands_mono := .mono
  enter := by
    intro t id s h hid
    rcases enter_cases id s t with henter | ⟨key,henter⟩
    · rw [henter]
      exact ⟨h,.refl _⟩
    · rw [henter]
      exact ⟨h.note hid key,.refl _⟩
  load := by
    intro onward honward t id s k h hid hk hauto key
    obtain ⟨_,hrefers⟩ := Schema.foreignKey_of_schemaOf hid.1 hk
    have hregistered := h.registered k.referencedType
    generalize houtcome : load catalog source onward id k key t = outcome
    have hloads : Loads catalog source onward id k key t outcome := houtcome ▸ load_loads
    cases hloads with
    | refused => exact ⟨h,.refl _⟩
    | @met found hmet =>
      -- What was met is known to be of the table, and no more.
      obtain ⟨e,he,htable,_,rfl⟩ := Visited.find?_eq_some hmet
      refine ⟨h.navigated hid hk hauto ?_,Heap.keepsTypes_assign _ _ _ _⟩
      rintro other ⟨⟩
      obtain ⟨r,u,hr,hu,hname⟩ := h.visited e he
      exact ⟨r,hr,u,hu,hname.trans htable⟩
    | unregistered => exact ⟨hregistered,.refl _⟩
    | @failed u _ _ _ hfetch =>
      obtain ⟨hasked,hkeeps,_⟩ := hregistered.asked hsource u k.referencedColumn key
      rw [hfetch] at hasked hkeeps
      exact ⟨hasked,hkeeps⟩
    | @missing u _ _ hfetch =>
      obtain ⟨hasked,hkeeps,_⟩ := hregistered.asked hsource u k.referencedColumn key
      rw [hfetch] at hasked hkeeps
      refine ⟨hasked.navigated (hid.mono hkeeps) hk hauto nofun,?_⟩
      exact hkeeps.trans (Heap.keepsTypes_assign _ _ _ _)
    | @loaded u asked found hs hfetch =>
      obtain ⟨hasked,hkeeps,hfound⟩ := hregistered.asked hsource u k.referencedColumn key
      rw [hfetch] at hasked hkeeps hfound
      obtain ⟨hu,hname⟩ := (Registry.Built.schemaFor h.built k.referencedType).2 u hs
      obtain ⟨r,hr,hof⟩ := hfound found rfl
      have hdeclared : catalog.schemaOf r.type.name = .ok u := by
        rw [hof, hname]
        exact hu
      have htable := (hrefers.target hu).1
      have hreferred : ∀ other, some found = some other →
          ∃ r : Record, asked.heap[other]? = some r ∧ r.IsReferred catalog k := by
        rintro other ⟨⟩
        exact ⟨r,hr,u,hdeclared,htable⟩
      -- The record is led to and noted before its own references are resolved.
      have hnavigated := hasked.navigated (hid.mono hkeeps) hk hauto hreferred
      have hassign := Heap.keepsTypes_assign asked.heap id k.navigationField (.record found)
      have hstands : Stands catalog (asked.navigated id k.navigationField (some found)) found u :=
        Stands.mono ⟨by rw [hname]; exact hu,r,hr,hof⟩ hassign
      have hnoted := hnavigated.note hstands key
      rw [htable] at hnoted
      obtain ⟨hafter,hgrows⟩ := honward (t := asked.reached id k key found) hnoted hstands
      exact ⟨hafter,hkeeps.trans (hassign.trans hgrows)⟩

/-- Whatever comes of the resolution, records keep their types, and the field of a foreign key stays as
it was or receives null or a record of a type of the table that the foreign key refers to; so it is of
the very type that the foreign key refers to unless other types are declared with that table. -/
theorem resolveAll_typed (hsource : source.Typed kept) {registry : Registry}
    (hbuilt : Registry.Built catalog registry)
    (hnavigation : ∀ typeName s, catalog.schemaOf typeName = .ok s →
      (s.foreignKeys.map (·.navigationField)).Nodup)
    {roots : List (RecordId × Schema)}
    (hroots : ∀ root ∈ roots, catalog.schemaOf root.2.record.name = .ok root.2 ∧
      ∃ r : Record, start[root.1]? = some r ∧ r.IsOf root.2) (rest : σ) :
    let after := (resolveAll catalog source roots ⟨registry,start,[],rest⟩).2
    ∀ (id : RecordId) (r' : Record), after.heap[id]? = some r' →
      ∃ r, (start[id]? = some r ∨ start.length ≤ id ∧ kept r) ∧ r'.type = r.type ∧
        ∀ s, catalog.schemaOf r.type.name = .ok s → ∀ k ∈ s.foreignKeys,
          r'.content? k.navigationField = r.content? k.navigationField ∨ k.autoResolve ∧
            (r'.content? k.navigationField = some (.value .none) ∨
              ∃ (other : RecordId) (o : Record),
                r'.content? k.navigationField = some (.record other) ∧ after.heap[other]? = some o ∧
                  o.IsReferred catalog k ∧
                    (k.IsUnambiguous catalog → o.type.name = k.referencedType)) := by
  intro after id r' hr'
  have hstart : Typed catalog kept start (⟨registry,start,[],rest⟩ : Traversal σ) :=
    ⟨hbuilt,Nat.le_refl _,fun id r hr => ⟨r,Or.inl hr,.refl _ _ r⟩,nofun⟩
  obtain ⟨htyped,_⟩ := (kept_typed hsource).resolveAll hstart hroots
  obtain ⟨r,hr,hassigned⟩ := htyped.records id r' hr'
  refine ⟨r,hr,hassigned.type_eq,fun s hs k hk => (hassigned.content k.navigationField).imp_right ?_⟩
  rintro ⟨s',hs',k',hk',hauto,hfield,hfits⟩
  cases hs.symm.trans hs'
  cases List.inj_on_of_nodup_map (hnavigation _ s hs) hk' hk hfield
  refine ⟨hauto,hfits.imp_right ?_⟩
  rintro ⟨other,o,hcontent,ho,hreferred⟩
  exact ⟨other,o,hcontent,ho,hreferred,hreferred.type_eq⟩

end Traversal

namespace Shelf

theorem find?_typed {shelf : Shelf} {typeName field : Text} {key : Value} {r : Record}
    (h : shelf.find? typeName field key = .ok (some r)) : r ∈ shelf ∧ r.type.name = typeName := by
  induction shelf with
  | nil => cases h
  | cons first rest ih =>
    rw [find?] at h
    split at h
    · next htype =>
      obtain ⟨same,_,h⟩ := bind_eq_ok.mp h
      cases same with
      | true =>
        cases h
        exact ⟨List.mem_cons_self,htype⟩
      | false => exact (ih h).imp_left (List.mem_cons_of_mem _)
    · exact (ih h).imp_left (List.mem_cons_of_mem _)

/-- A shelf gives records of the types that it is asked for. -/
theorem source_typed (shelf : Shelf) : shelf.source.Typed (· ∈ shelf) := by
  intro s column key registry heap calls
  cases hfind : shelf.find? s.record.name (fieldOf s column) key with
  | error fault =>
    refine ⟨[],?_,nofun,?_⟩ <;> simp only [source, hfind, List.append_nil]
    exact nofun
  | ok found =>
    cases found with
    | none =>
      refine ⟨[],?_,nofun,?_⟩ <;> simp only [source, hfind, List.append_nil]
      exact nofun
    | some r =>
      obtain ⟨hr,htype⟩ := find?_typed hfind
      refine ⟨[r],?_,?_,?_⟩
      · simp only [source, hfind, Heap.add]
      · exact List.forall_mem_singleton.mpr hr
      · simp only [source, hfind, Heap.add]
        rintro found ⟨⟩
        exact ⟨r,List.getElem?_concat_length,htype⟩

end Shelf

namespace Signed

def declarations : List TypeDeclaration :=
  [⟨"Author",some "authors",none,true,[Circle.key]⟩,
    ⟨"Signature",some "authors",none,true,[Circle.key]⟩,
    ⟨"Book",some "books",none,true,
      [Circle.key, Circle.reference "author_id" "author", Circle.reference "signature_id" "signature",
        ⟨"author","Author",none,.value .none,true⟩, ⟨"signature","Signature",none,.value .none,true⟩]⟩]

def catalog : Catalog := declarations.map (Catalog.typeOf none)

def registry : Registry := (Registry.schemaFor catalog [] "Book").2

def records (typeName : Text) (numbers : List (Text × Int)) : List Record :=
  (catalog.find? typeName).toList.map fun type => ⟨type,numbers.map fun e => (e.1,.value (.int e.2))⟩

def shelf : Shelf := records "Author" [("id",7)] ++ records "Signature" [("id",7)]

def heap : Heap := records "Book" [("id",1),("author_id",7),("signature_id",7)]

def roots : List (RecordId × Schema) :=
  (registry.filter fun e => e.typeName = ("Book" : Text)).map fun e => (0,e.schema)

def after : Heap := (Traversal.resolveAll catalog shelf.source roots ⟨registry,heap,[],[]⟩).2.heap

theorem built : Registry.Built catalog registry :=
  (Registry.Built.schemaFor (fun _ he => (List.not_mem_nil he).elim) "Book").1

set_option maxRecDepth 4000 in
theorem nodup_navigationFields (typeName : Text) (s : Schema) (hs : catalog.schemaOf typeName = .ok s) :
    (s.foreignKeys.map (·.navigationField)).Nodup := by
  obtain ⟨r,hfind,hr⟩ := Catalog.schemaOf_eq_ok.mp hs
  have hall : ∀ r ∈ catalog, (Schema.ofRecordType catalog r).toOption.all fun s =>
      decide (s.foreignKeys.map (·.navigationField)).Nodup := by decide +kernel
  have hnodup := hall r (List.mem_of_find?_eq_some hfind)
  rw [hr] at hnodup
  exact of_decide_eq_true hnodup

set_option maxRecDepth 4000 in
theorem typed_roots : ∀ root ∈ roots, catalog.schemaOf root.2.record.name = .ok root.2 ∧
    ∃ r : Record, heap[root.1]? = some r ∧ r.IsOf root.2 := by
  intro root hroot
  obtain ⟨e,he,rfl⟩ := List.mem_map.mp hroot
  obtain ⟨he,hname⟩ := List.mem_filter.mp he
  have hheap : heap.map (·.type.name) = (["Book"] : List Text) := by decide +kernel
  obtain ⟨r,hr,htype⟩ := List.map_eq_singleton_iff.mp hheap
  refine ⟨built e he,r,by rw [hr]; rfl,?_⟩
  exact htype.trans (of_decide_eq_true hname).symm

/-- Whatever the book refers to is of a type of the table of authors. -/
theorem after_typed : ∃ book book' : Record, heap[0]? = some book ∧ after[0]? = some book' ∧
    book'.type = book.type ∧ ∀ s, catalog.schemaOf book.type.name = .ok s → ∀ k ∈ s.foreignKeys,
      book'.content? k.navigationField = book.content? k.navigationField ∨ k.autoResolve ∧
        (book'.content? k.navigationField = some (.value .none) ∨
          ∃ (other : RecordId) (o : Record),
            book'.content? k.navigationField = some (.record other) ∧ after[other]? = some o ∧
              o.IsReferred catalog k ∧ (k.IsUnambiguous catalog → o.type.name = k.referencedType)) := by
  have hlength : after.length = 2 := by decide +kernel
  have hafter : after[0]? = some after[0] := List.getElem?_eq_getElem _
  have htyped := Traversal.resolveAll_typed (Shelf.source_typed shelf) built nodup_navigationFields
    typed_roots [] 0 after[0] hafter
  obtain ⟨book,hbook | ⟨hlate,_⟩,htype,hkeys⟩ := htyped
  · exact ⟨book,after[0],hbook,hafter,htype,hkeys⟩
  · exact absurd hlate (by decide +kernel)

def leadsAstray (r : Record) (k : ForeignKey) : Bool :=
  match r.content? k.navigationField with
  | some (.record other) => (after[other]?).any (·.type.name ≠ k.referencedType)
  | _ => false

theorem forall_contents_value : ∀ r ∈ heap ++ shelf, ∀ e ∈ r.contents, ∃ v, e.2 = .value v := by
  have hrecords : ∀ typeName numbers, ∀ r ∈ records typeName numbers,
      ∀ e ∈ r.contents, ∃ v, e.2 = .value v := by
    intro typeName numbers r hr e he
    obtain ⟨type,_,rfl⟩ := List.mem_map.mp hr
    obtain ⟨e,_,rfl⟩ := List.mem_map.mp he
    exact ⟨_,rfl⟩
  simp only [heap, shelf, List.mem_append]
  rintro r (hr | hr | hr) <;> exact hrecords _ _ r hr

set_option maxRecDepth 4000 in
/-- A book whose signature has the key of its author refers to the author twice. -/
theorem not_resolveAll_typed : ¬∀ (ds : List TypeDeclaration) (catalog : Catalog) (registry : Registry)
    (shelf : Shelf) (heap : Heap) (roots : List (RecordId × Schema)),
    Catalog.ofDeclarations ds = .ok catalog → Registry.Built catalog registry →
    (∀ typeName s, catalog.schemaOf typeName = .ok s →
      (s.foreignKeys.map (·.navigationField)).Nodup) →
    (∀ root ∈ roots, catalog.schemaOf root.2.record.name = .ok root.2 ∧
      ∃ r : Record, heap[root.1]? = some r ∧ r.IsOf root.2) →
    (∀ r ∈ heap ++ shelf, ∀ e ∈ r.contents, ∃ v, e.2 = .value v) →
    let after := (Traversal.resolveAll catalog shelf.source roots ⟨registry,heap,[],[]⟩).2.heap
    ∀ r ∈ after, ∀ s, catalog.schemaOf r.type.name = .ok s → ∀ k ∈ s.foreignKeys,
      ∀ (other : RecordId) (o : Record), r.content? k.navigationField = some (.record other) →
        after[other]? = some o → o.type.name = k.referencedType := by
  intro h
  have htyped := h declarations catalog registry shelf heap roots rfl built nodup_navigationFields
    typed_roots forall_contents_value
  have hastray : ∃ r ∈ after, ∃ e ∈ registry, e.typeName = r.type.name ∧
      ∃ k ∈ e.schema.foreignKeys, leadsAstray r k := by decide +kernel
  obtain ⟨r,hr,e,he,hname,k,hk,hastray⟩ := hastray
  unfold leadsAstray at hastray
  split at hastray
  · next other hcontent =>
    cases ho : after[other]? with
    | none =>
      rw [ho] at hastray
      cases hastray
    | some o =>
      rw [ho] at hastray
      have hdeclared : catalog.schemaOf r.type.name = .ok e.schema := by
        rw [← hname]
        exact built e he
      exact of_decide_eq_true hastray (htyped r hr _ hdeclared k hk other o hcontent ho)
  · cases hastray

end Signed
end SealedRows
