import SealedRows.Proofs.Row.Recorded
import SealedRows.Proofs.Session.Made
import SealedRows.Proofs.Session.Opens

/-! # Where records come from

While references are resolved, every new record is made of a row that the database gives in answer to a
statement that reads all columns of its table. A foreign key leads to such a record or to one of those
whose references are resolved, if that has a primary key, and to no other one.
-/
namespace SealedRows

namespace Database
variable {db : Database} {sent more : List LogEntry} {table : Text} {row : Row} {rows : List Row}

/-- Whether a database is going to give rows in one of its answers. -/
def Gives (db : Database) (i : Nat) (rows : List Row) : Prop :=
  ∃ rowCount lastRow names values,
    (db.replies.drop i).headD .empty = .success rowCount lastRow names values ∧
      values.mapM (Row.ofValues names) = .ok rows

/-- Whether a database gives a row in answer to a statement that reads all columns of a table. -/
def GivesWhole (db : Database) (sent : List LogEntry) (table : Text) (row : Row) : Prop :=
  ∃ (i : Nat) (e : LogEntry) (clause orderBy : Option Text) (sortOrder : SortOrder) (limit : Option Int)
    (ps : List Value) (rows : List Row), sent[i]? = some e ∧
      e.request = .statement (Sql.select table clause [] orderBy sortOrder limit) ps ∧
        db.Gives i rows ∧ row ∈ rows

theorem after_injective (h : db.after sent = db.after more) : sent = more :=
  List.append_cancel_left (congrArg log h)

theorem gives_after {i : Nat} : (db.after sent).Gives i rows ↔ db.Gives (sent.length + i) rows := by
  simp only [Gives, after, List.drop_drop]

theorem gives_of_query {sql : Text} {ps : List Value} (h : (query sql ps db).1 = .ok rows) :
    db.Gives 0 rows := by
  have hask := ask_eq (.statement sql ps) (.querying sql) db
  unfold query at h
  cases hreply : db.replies.headD .empty with
  | failure message =>
    rw [hreply] at hask
    rw [bind_of_error hask] at h
    cases h
  | success rowCount lastRow names values =>
    rw [hreply] at hask
    rw [bind_of_ok hask] at h
    refine ⟨rowCount,lastRow,names,values,hreply,?_⟩
    dsimp only at h
    cases hrows : values.mapM (Row.ofValues names) with
    | error fault =>
      rw [hrows] at h
      cases h
    | ok found =>
      rw [hrows] at h
      cases h
      rfl

theorem GivesWhole.append (h : db.GivesWhole sent table row) (more : List LogEntry) :
    db.GivesWhole (sent ++ more) table row := by
  obtain ⟨i,e,clause,orderBy,sortOrder,limit,ps,rows,he,hrequest,hgives,hrow⟩ := h
  have hi : i < sent.length := (List.getElem?_eq_some_iff.mp he).1
  refine ⟨i,e,clause,orderBy,sortOrder,limit,ps,rows,?_,hrequest,hgives,hrow⟩
  rw [List.getElem?_append_left hi, he]

theorem GivesWhole.of_after (h : (db.after sent).GivesWhole more table row) :
    db.GivesWhole (sent ++ more) table row := by
  obtain ⟨i,e,clause,orderBy,sortOrder,limit,ps,rows,he,hrequest,hgives,hrow⟩ := h
  refine ⟨sent.length + i,e,clause,orderBy,sortOrder,limit,ps,rows,?_,hrequest,gives_after.mp hgives,hrow⟩
  rw [List.getElem?_append_right (Nat.le_add_right _ _), Nat.add_sub_cancel_left, he]

end Database

namespace Session
variable {catalog : Catalog}

/-- A lookup makes records of whole rows alone, and gives one of them. -/
theorem fetchReferenced_rows (ring : KeyRing) (u : Schema) (column : Text) (key : Value)
    (registry : Registry) (heap : Heap) (db : Database) : ∃ (more : List LogEntry) (new : List Record),
      (fetchReferenced ring u column key registry heap db).2 = (heap ++ new,db.after more) ∧
        (∀ r ∈ new, ∃ row, db.GivesWhole more u.name row ∧ r.IsOfRow ring (entryOf registry u) row) ∧
          ∀ found, (fetchReferenced ring u column key registry heap db).1 = .ok (some found) →
            found ∈ List.range' heap.length new.length := by
  have hnothing : (heap,db) = (heap ++ [],db.after []) := by
    rw [List.append_nil, Database.after_nil]
  unfold fetchReferenced
  cases u.column? column with
  | none => exact ⟨[],[],hnothing,nofun,nofun⟩
  | some c =>
    dsimp only
    cases lookupParameters c key with
    | error fault => exact ⟨[],[],hnothing,nofun,nofun⟩
    | ok ps =>
      dsimp only
      have hafter := Database.query_after (referenceQuery u c key) ps db
      have hgives : ∀ rows, (Database.query (referenceQuery u c key) ps db).1 = .ok rows → db.Gives 0 rows :=
        fun _ => Database.gives_of_query
      generalize Database.query (referenceQuery u c key) ps db = answer at hafter hgives
      obtain ⟨result,later⟩ := answer
      dsimp only at hafter
      subst hafter
      have hkept : ∀ sent, (heap,db.after sent) = (heap ++ [],db.after sent) := fun _ => by
        rw [List.append_nil]
      rcases result with fault | _ | ⟨row,rows⟩
      · exact ⟨_,[],hkept _,nofun,nofun⟩
      · exact ⟨_,[],hkept _,nofun,nofun⟩
      · dsimp only
        rcases Heap.addRows_table heap ring (entryOf registry u) (row :: rows) with
          ⟨fault,hrows⟩ | ⟨new,hrows,hnew⟩
        · rw [hrows]
          exact ⟨_,[],hkept _,nofun,nofun⟩
        · rw [hrows]
          refine ⟨_,new,rfl,?_,?_⟩
          · intro r hr
            obtain ⟨row',hrow,hof⟩ := exists_of_forall₂ hnew.flip hr
            exact ⟨row',⟨0,_,_,_,_,_,_,_,rfl,rfl,hgives _ rfl,hrow⟩,hof⟩
          · intro found hfound
            have hfirst := Option.join_eq_some_iff.mp (Except.ok.inj hfound)
            obtain ⟨cells,hcells,hmem⟩ := List.mem_flatten.mp (List.mem_of_head? hfirst)
            obtain ⟨id,hid,rfl⟩ := List.mem_map.mp hcells
            cases List.mem_singleton.mp hmem
            exact hid

end Session

def Schema.Navigates (s : Schema) (field : Text) : Prop :=
  ∃ k ∈ s.foreignKeys, k.autoResolve ∧ k.navigationField = field

/-- Whether a record has a primary key, or what a reference has put in its place. -/
def Record.IsIdentified (catalog : Catalog) (r : Record) : Prop :=
  ∃ s c, catalog.schemaOf r.type.name = .ok s ∧ s.primaryKey = .ok c ∧ (s.Navigates c.fieldName ∨
    ∃ content, r.content? c.fieldName = some content ∧ content ≠ .value .none)

/-- Whether a record differs from another one at most in what its foreign keys were led to, which are
records of a kind. -/
structure Record.Led (catalog : Catalog) (within : RecordId → Prop) (r r' : Record) : Prop where
  type_eq : r'.type = r.type
  content : ∀ field, r'.content? field = r.content? field ∨
    (∃ s, catalog.schemaOf r.type.name = .ok s ∧ s.Navigates field) ∧
      ∀ other, r'.content? field = some (.record other) → within other

namespace Record.Led
variable {catalog : Catalog} {within within' : RecordId → Prop} {r r' : Record}

theorem refl (r : Record) : Led catalog within r r := ⟨rfl,fun _ => Or.inl rfl⟩

theorem imp (h : Led catalog within r r') (hwithin : ∀ id, within id → within' id) :
    Led catalog within' r r' := by
  refine ⟨h.type_eq,fun field => (h.content field).imp_right ?_⟩
  rintro ⟨hnavigates,hcontent⟩
  exact ⟨hnavigates,fun other hother => hwithin other (hcontent other hother)⟩

theorem withField (h : Led catalog within r r') {s : Schema} (hs : catalog.schemaOf r.type.name = .ok s)
    {k : ForeignKey} (hk : k ∈ s.foreignKeys) (hauto : k.autoResolve) {content : Content}
    (hcontent : ∀ other, content = .record other → within other) :
    Led catalog within r (r'.withField k.navigationField content) := by
  refine ⟨h.type_eq,fun field => ?_⟩
  rw [content?_withField]
  split
  · next hfield =>
    refine Or.inr ⟨⟨s,hs,k,hk,hauto,hfield.symm⟩,?_⟩
    rintro other ⟨⟩
    exact hcontent other rfl
  · exact h.content field

theorem isIdentified_iff (h : Led catalog within r r') :
    r'.IsIdentified catalog ↔ r.IsIdentified catalog := by
  unfold IsIdentified
  rw [h.type_eq]
  refine exists_congr fun s => exists_congr fun c => and_congr_right fun hs => and_congr_right fun _ => ?_
  rcases h.content c.fieldName with hsame | ⟨⟨s',hs',hnavigates⟩,_⟩
  · rw [hsame]
  · cases hs.symm.trans hs'
    exact iff_of_true (Or.inl hnavigates) (Or.inl hnavigates)

end Record.Led

namespace Traversal
variable {catalog : Catalog} {ring : KeyRing} {first t : Traversal Database} {ids : List RecordId}
  {id : RecordId} {s u : Schema} {k : ForeignKey}

def IsNew (first t : Traversal Database) (id : RecordId) : Prop :=
  first.heap.length ≤ id ∧ id < t.heap.length

def Within (first t : Traversal Database) (ids : List RecordId) (id : RecordId) : Prop :=
  id ∈ ids ∨ IsNew first t id

/-- Whether a record is one of those whose references are resolved and has a primary key, or is a new one. -/
def Meets (catalog : Catalog) (first t : Traversal Database) (ids : List RecordId) (id : RecordId) : Prop :=
  (id ∈ ids ∧ ∃ r : Record, first.heap[id]? = some r ∧ r.IsIdentified catalog) ∨ IsNew first t id

def IsFetched (catalog : Catalog) (ring : KeyRing) (first : Traversal Database) (sent : List LogEntry)
    (r : Record) : Prop :=
  ∃ u row, catalog.schemaOf u.record.name = .ok u ∧ first.source.GivesWhole sent u.name row ∧
    r.IsOfRow ring ⟨u,first.registry.tableKey u.record.name⟩ row

/-- What is known of all records and of those that were met, since a traversal began. -/
structure Attributed (catalog : Catalog) (ring : KeyRing) (first : Traversal Database)
    (ids : List RecordId) (t : Traversal Database) : Prop where
  built : Registry.Built catalog t.registry
  tableKey_eq : ∀ typeName, t.registry.tableKey typeName = first.registry.tableKey typeName
  length_le : first.heap.length ≤ t.heap.length
  visited : ∀ e ∈ t.visited, Meets catalog first t ids e.2
  records : ∃ sent, t.source = first.source.after sent ∧
    ∀ (id : RecordId) (r' : Record), t.heap[id]? = some r' →
      ∃ r, (first.heap[id]? = some r ∨ first.heap.length ≤ id ∧ IsFetched catalog ring first sent r) ∧
        Record.Led catalog (Meets catalog first t ids) r r'

section
variable {t' : Traversal Database} (hlater : t.heap.KeepsTypes t'.heap)
include hlater

theorem IsNew.mono (h : IsNew first t id) : IsNew first t' id := by
  obtain ⟨r,hr,_⟩ := hlater id _ (List.getElem?_eq_getElem h.2)
  exact ⟨h.1,(List.getElem?_eq_some_iff.mp hr).1⟩

theorem Within.mono (h : Within first t ids id) : Within first t' ids id := h.imp_right (·.mono hlater)

theorem Meets.mono (h : Meets catalog first t ids id) : Meets catalog first t' ids id :=
  h.imp_right (·.mono hlater)

end

theorem Meets.within (h : Meets catalog first t ids id) : Within first t ids id := h.imp_left And.left

theorem IsFetched.append {sent : List LogEntry} {r : Record} (h : IsFetched catalog ring first sent r)
    (more : List LogEntry) : IsFetched catalog ring first (sent ++ more) r := by
  obtain ⟨u,row,hu,hgives,hof⟩ := h
  exact ⟨u,row,hu,hgives.append more,hof⟩

namespace Attributed
variable (h : Attributed catalog ring first ids t)
include h

theorem note (hid : Meets catalog first t ids id) (table : Text) (key : Value) :
    Attributed catalog ring first ids { t with visited := t.visited.note table key id } := by
  refine ⟨h.built,h.tableKey_eq,h.length_le,fun e he => ?_,h.records⟩
  rcases Visited.mem_note he with hold | rfl
  · exact h.visited e hold
  · exact hid

/-- A record that is entered has a primary key. -/
theorem entered (hid : Within first t ids id) (hstands : Stands catalog t id s) :
    Attributed catalog ring first ids (enter id s t).2 := by
  rcases enter_noted id s t with henter | ⟨c,hc,hkey,henter⟩
  · rw [henter]
    exact h
  · rw [henter]
    refine h.note ?_ s.name _
    obtain ⟨hs,r',hr',hof⟩ := hstands
    rcases hid with hid | hnew
    · obtain ⟨_,_,hrecords⟩ := h.records
      obtain ⟨r,hr | ⟨hnew,_⟩,hled⟩ := hrecords id r' hr'
      · refine Or.inl ⟨hid,r,hr,hled.isIdentified_iff.mp ⟨s,c,by rw [hof]; exact hs,hc,Or.inr ?_⟩⟩
        rw [Heap.value, Heap.content?, hr', Option.bind_some] at hkey
        cases hcontent : r'.content? c.fieldName with
        | none =>
          rw [hcontent] at hkey
          exact absurd rfl hkey
        | some content =>
          refine ⟨content,rfl,?_⟩
          rintro rfl
          rw [hcontent] at hkey
          exact absurd rfl hkey
      · exact Or.inr ⟨hnew,(List.getElem?_eq_some_iff.mp hr').1⟩
    · exact Or.inr hnew

theorem registered (typeName : Text) : Attributed catalog ring first ids (t.registered catalog typeName) := by
  refine ⟨(h.built.schemaFor typeName).1,fun other => ?_,h.length_le,h.visited,h.records⟩
  exact (Registry.tableKey_schemaFor catalog t.registry typeName other).trans (h.tableKey_eq other)

theorem navigated (hid : Stands catalog t id s) (hk : k ∈ s.foreignKeys) (hauto : k.autoResolve)
    {found : Option RecordId} (hfound : ∀ other, found = some other → Meets catalog first t ids other) :
    Attributed catalog ring first ids (t.navigated id k.navigationField found) := by
  obtain ⟨hs,r₀,hr₀,hof⟩ := hid
  have hlength : (t.navigated id k.navigationField found).heap.length = t.heap.length :=
    List.length_modify _ _ _
  have hmeets : ∀ other, Meets catalog first t ids other →
      Meets catalog first (t.navigated id k.navigationField found) ids other := fun other hother => by
    rwa [Meets, IsNew, hlength]
  obtain ⟨sent,hsource,hrecords⟩ := h.records
  refine ⟨h.built,h.tableKey_eq,hlength ▸ h.length_le,fun e he => hmeets _ (h.visited e he),sent,hsource,?_⟩
  intro other r' hr'
  unfold Traversal.navigated at hr'
  rw [getElem?_assign] at hr'
  split at hr'
  · next heq =>
    subst heq
    rw [hr₀] at hr'
    cases hr'
    obtain ⟨r,hr,hled⟩ := hrecords id r₀ hr₀
    have hschema : catalog.schemaOf r.type.name = .ok s := by
      rw [← hled.type_eq, hof]
      exact hs
    refine ⟨r,hr,(hled.imp hmeets).withField hschema hk hauto ?_⟩
    cases found with
    | none => nofun
    | some found =>
      rintro other ⟨⟩
      exact hmeets found (hfound found rfl)
  · obtain ⟨r,hr,hled⟩ := hrecords other r' hr'
    exact ⟨r,hr,hled.imp hmeets⟩

theorem append {more : List LogEntry} {new : List Record}
    (hnew : ∀ r ∈ new, ∃ row, t.source.GivesWhole more u.name row ∧
      r.IsOfRow ring (Session.entryOf t.registry u) row)
    (hu : catalog.schemaOf u.record.name = .ok u) :
    Attributed catalog ring first ids { t with heap := t.heap ++ new, source := t.source.after more } := by
  have hkeeps : t.heap.KeepsTypes (t.heap ++ new) := Heap.keepsTypes_append _ _
  obtain ⟨sent,hsource,hrecords⟩ := h.records
  refine ⟨h.built,h.tableKey_eq,?_,fun e he => (h.visited e he).mono hkeeps,sent ++ more,?_,?_⟩
  · rw [List.length_append]
    exact h.length_le.trans (Nat.le_add_right _ _)
  · rw [hsource, Database.after_append]
  · intro id r' hr'
    rcases Nat.lt_or_ge id t.heap.length with hid | hid
    · rw [List.getElem?_append_left hid] at hr'
      obtain ⟨r,hr,hled⟩ := hrecords id r' hr'
      exact ⟨r,hr.imp_right fun hfetched => ⟨hfetched.1,hfetched.2.append more⟩,
        hled.imp fun _ hmeets => hmeets.mono hkeeps⟩
    · rw [List.getElem?_append_right hid] at hr'
      obtain ⟨row,hgives,hof⟩ := hnew r' (List.mem_of_getElem? hr')
      rw [Session.entryOf_eq h.built hu, h.tableKey_eq] at hof
      rw [hsource] at hgives
      exact ⟨r',Or.inr ⟨h.length_le.trans hid,u,row,hu,hgives.of_after,hof⟩,.refl r'⟩

/-- What is fetched is new and of the type that is asked for. -/
theorem fetched (hu : catalog.schemaOf u.record.name = .ok u) (column : Text) (key : Value) :
    Attributed catalog ring first ids (fetch (Session.source ring) u column key t).2 ∧
      t.heap.KeepsTypes (fetch (Session.source ring) u column key t).2.heap ∧
      ∀ found, (fetch (Session.source ring) u column key t).1 = .ok (some found) →
        IsNew first (fetch (Session.source ring) u column key t).2 found ∧
          Stands catalog (fetch (Session.source ring) u column key t).2 found u := by
  obtain ⟨more,new,hmade,hnew,hfound⟩ :=
    Session.fetchReferenced_rows ring u column key t.registry t.heap t.source
  generalize hfetched : Session.fetchReferenced ring u column key t.registry t.heap t.source = outcome
    at hmade hfound
  have hfetch : fetch (Session.source ring) u column key t =
      (outcome.1,{ t with heap := outcome.2.1, source := outcome.2.2 }) := by
    rw [← hfetched]
    rfl
  rw [hfetch, hmade]
  refine ⟨h.append hnew hu,Heap.keepsTypes_append _ _,fun found hresult => ?_⟩
  obtain ⟨r,hr,hplace⟩ := Heap.exists_of_mem_range' (hfound found hresult)
  obtain ⟨row,_,values,_,hvalues⟩ := hnew r hr
  have hlt : found < (t.heap ++ new).length := (List.getElem?_eq_some_iff.mp hplace).1
  have hle := (List.mem_range'_1.mp (hfound found hresult)).1
  refine ⟨⟨h.length_le.trans hle,hlt⟩,hu,r,hplace,?_⟩
  rw [Record.IsOf, Record.type_of_ofValues hvalues, Session.typeName_entryOf]

/-- Fields lead only to records that were met, if those that are resolved led to none before. -/
theorem meets_of_content (hplain : ∀ id ∈ ids, ∀ r : Record, first.heap[id]? = some r → r.IsPlain)
    {field : Text} {other : RecordId} (hid : Within first t ids id)
    (hother : t.heap.content? id field = some (.record other)) : Meets catalog first t ids other := by
  obtain ⟨r',hr',hcontent⟩ := Option.bind_eq_some_iff.mp hother
  obtain ⟨_,_,hrecords⟩ := h.records
  obtain ⟨r,hr,hled⟩ := hrecords id r' hr'
  have hrplain : r.IsPlain := by
    rcases hr with hold | ⟨_,u,row,_,_,hof⟩
    · rcases hid with hid | ⟨hnew,_⟩
      · exact hplain id hid r hold
      · exact absurd hnew (Nat.not_le_of_lt (List.getElem?_eq_some_iff.mp hold).1)
    · exact hof.isPlain
  rcases hled.content field with hsame | ⟨_,hmeets⟩
  · rw [hsame] at hcontent
    obtain ⟨v,hv⟩ := hrplain field _ hcontent
    cases hv
  · exact hmeets other hcontent

end Attributed

/-- Resolving references leads only to records that are resolved or fetched. -/
theorem kept_attributed : Kept catalog (Session.source ring) (Attributed catalog ring first ids)
    (fun t t' => t.heap.KeepsTypes t'.heap)
    (fun t id s => Within first t ids id ∧ Stands catalog t id s) where
  refl t := .refl t.heap
  trans := .trans
  stands_mono hid hlater := ⟨hid.1.mono hlater,hid.2.mono hlater⟩
  enter := by
    intro t id s h hid
    refine ⟨h.entered hid.1 hid.2,?_⟩
    rcases enter_cases id s t with henter | ⟨_,henter⟩ <;> rw [henter] <;> exact .refl _
  load := by
    intro onward honward t id s k h hid hk hauto key
    have hregistered := h.registered k.referencedType
    -- Whatever comes of the lookup, it was one of a declared type.
    have hfetched : ∀ u, (t.registry.schemaFor catalog k.referencedType).1 = .ok u →
        catalog.schemaOf u.record.name = .ok u := by
      intro u hs
      obtain ⟨hu,hname⟩ := (Registry.Built.schemaFor h.built k.referencedType).2 u hs
      rw [hname]
      exact hu
    generalize houtcome : load catalog (Session.source ring) onward id k key t = outcome
    have hloads : Loads catalog (Session.source ring) onward id k key t outcome := houtcome ▸ load_loads
    cases hloads with
    | refused => exact ⟨h,.refl _⟩
    | @met found hmet =>
      obtain ⟨e,he,_,_,rfl⟩ := Visited.find?_eq_some hmet
      refine ⟨h.navigated hid.2 hk hauto ?_,Heap.keepsTypes_assign _ _ _ _⟩
      rintro other ⟨⟩
      exact h.visited e he
    | unregistered => exact ⟨hregistered,.refl _⟩
    | @failed u _ _ hs hfetch =>
      obtain ⟨hasked,hkeeps,_⟩ := hregistered.fetched (hfetched u hs) k.referencedColumn key
      rw [hfetch] at hasked hkeeps
      exact ⟨hasked,hkeeps⟩
    | @missing u _ hs hfetch =>
      obtain ⟨hasked,hkeeps,_⟩ := hregistered.fetched (hfetched u hs) k.referencedColumn key
      rw [hfetch] at hasked hkeeps
      refine ⟨hasked.navigated (hid.2.mono hkeeps) hk hauto nofun,?_⟩
      exact hkeeps.trans (Heap.keepsTypes_assign _ _ _ _)
    | @loaded u asked found hs hfetch =>
      obtain ⟨hasked,hkeeps,hfound⟩ := hregistered.fetched (hfetched u hs) k.referencedColumn key
      rw [hfetch] at hasked hkeeps hfound
      obtain ⟨hnew,hstands⟩ := hfound found rfl
      have hassign := Heap.keepsTypes_assign asked.heap id k.navigationField (.record found)
      have hled : ∀ other, some found = some other → Meets catalog first asked ids other := by
        rintro other ⟨⟩
        exact Or.inr hnew
      have hnavigated := hasked.navigated (hid.2.mono hkeeps) hk hauto hled
      -- The record is noted before its own references are resolved.
      have hnoted := hnavigated.note (Or.inr (hnew.mono hassign)) k.referencedTable key
      obtain ⟨hafter,hgrows⟩ := honward (t := asked.reached id k key found) hnoted
        ⟨Or.inr (hnew.mono hassign),hstands.mono hassign⟩
      exact ⟨hafter,hkeeps.trans (hassign.trans hgrows)⟩

end Traversal
end SealedRows
