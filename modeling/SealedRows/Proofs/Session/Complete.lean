import SealedRows.Proofs.Session.Attributed

/-! # Complete records

Records that references lead to are fetched with all their columns, so they hold all values of their rows.
The records of a statement that reads some columns are not complete, and if the primary key is among those,
a reference to one of them leads to it as it is. All other records that are reached are complete, and so are
all records when all columns are read.
-/
namespace SealedRows

/-- The records that fields of some records lead to, directly or through others. -/
inductive Heap.Reaches (heap : Heap) (ids : List RecordId) : RecordId → Prop where
  | direct {id other : RecordId} {field : Text} (hid : id ∈ ids)
      (hother : heap.content? id field = some (.record other)) : Reaches heap ids other
  | onward {id other : RecordId} {field : Text} (hid : Reaches heap ids id)
      (hother : heap.content? id field = some (.record other)) : Reaches heap ids other

/-- Whether a record holds the decoded values of all columns of a row, but for fields that references were
led to. -/
structure Record.IsWhole (ring : KeyRing) (e : RegistryEntry) (row : Row) (r : Record) : Prop where
  type_eq : r.type = e.schema.record
  values : ∃ values, row.decode ring e = .ok values ∧
    ∀ c ∈ e.schema.columns, c.name ∈ row.map (·.name) → ∃ v, values.lookup c.fieldName = some v ∧
      (r.content? c.fieldName = some (.value v) ∨ e.schema.Navigates c.fieldName)

namespace Record
variable {catalog : Catalog} {ring : KeyRing} {e : RegistryEntry} {row : Row} {r r' : Record}

/-- A record holds what it was made of, whatever its references are led to. -/
theorem IsOfRow.isWhole {ds : List TypeDeclaration} (hcatalog : Catalog.ofDeclarations ds = .ok catalog)
    (hs : catalog.schemaOf e.schema.record.name = .ok e.schema) (hnames : (row.map (·.name)).Nodup)
    (h : r.IsOfRow ring e row) {within : RecordId → Prop} (hled : Led catalog within r r') :
    r'.IsWhole ring e row := by
  obtain ⟨values,hdecode,hmade⟩ := h
  obtain ⟨type,hfind,hbuilt⟩ := Catalog.schemaOf_eq_ok.mp hs
  obtain ⟨hints,hschema⟩ := Schema.exists_isSchemaOf hbuilt
  have hsound := Schema.sound_of_ofRecordType
    (Catalog.hasDistinctFields_of_mem hcatalog (List.mem_of_find?_eq_some hfind)) hbuilt
  have htype := type_of_ofValues hmade
  refine ⟨hled.type_eq.trans htype,values,hdecode,fun c hc hname => ?_⟩
  obtain ⟨⟨_,raw⟩,hcell,rfl⟩ := List.mem_map.mp hname
  obtain ⟨v,_,hv⟩ := Row.lookup_decoded hsound hnames hdecode hc hcell
  refine ⟨v,hv,?_⟩
  rcases hled.content c.fieldName with hsame | ⟨⟨s,hs',hnavigates⟩,_⟩
  · rw [hsame]
    refine Or.inl (content?_of_ofValues hmade hv ?_)
    rw [hschema.record_eq]
    exact hschema.fieldNames_sublist.subset (List.mem_map_of_mem hc)
  · rw [htype, hs] at hs'
    cases hs'
    exact Or.inr hnavigates

end Record

/-- The rows of a database that holds tables, as far as it was asked for whole rows. -/
structure Database.Holds (stored : Text → List Row) (db : Database) (sent : List LogEntry) : Prop where
  names : ∀ table, ∀ row ∈ stored table, (row.map (·.name)).Nodup
  whole : ∀ table row, db.GivesWhole sent table row → row ∈ stored table

namespace Session
variable {catalog : Catalog} {session later : Session} {s : Schema} {ids : List RecordId}
  {stored : Text → List Row}

/-- Whether a record holds all values of a stored row of its table. -/
def IsComplete (catalog : Catalog) (stored : Text → List Row) (session : Session) (id : RecordId) : Prop :=
  ∃ r u row, session.heap[id]? = some r ∧ catalog.schemaOf u.record.name = .ok u ∧ row ∈ stored u.name ∧
    r.IsWhole session.ring (entryOf session.registry u) row

def begun (session : Session) : Traversal Database := ⟨session.registry,session.heap,[],session.database⟩

theorem resolve_attributed (hready : Ready catalog session) (hs : catalog.schemaOf s.record.name = .ok s)
    (hids : ∀ id ∈ ids, ∃ r : Record, session.heap[id]? = some r ∧ r.IsOf s) :
    ∃ t, Traversal.Attributed catalog session.ring session.begun ids t ∧
      (resolve (ids.map fun id => (id,s)) session).2 =
        { session with registry := t.registry, heap := t.heap, database := t.source } := by
  have hbegun : Traversal.Attributed catalog session.ring session.begun ids session.begun :=
    ⟨hready.built,fun _ => rfl,Nat.le_refl _,nofun,[],(Database.after_nil _).symm,
      fun _ r hr => ⟨r,Or.inl hr,.refl r⟩⟩
  refine ⟨_,(Traversal.kept_attributed.resolveAll hbegun ?_).1,by rw [← hready.catalog_eq]; rfl⟩
  intro root hroot
  obtain ⟨id,hid,rfl⟩ := List.mem_map.mp hroot
  exact ⟨Or.inl hid,hs,hids id hid⟩

/-- What a session has made of rows of a table: one record of each, and what their references lead to. -/
structure HasRead (catalog : Catalog) (session : Session) (s : Schema) (rows : List Row)
    (ids : List RecordId) (later : Session) (new : List Record) (t : Traversal Database) : Prop where
  made : List.Forall₂ (Record.IsOfRow session.ring (entryOf session.registry s)) rows new
  ids_eq : ids = List.range' session.heap.length new.length
  attributed : Traversal.Attributed catalog session.ring
    { session.begun with heap := session.heap ++ new } ids t
  later_eq : later = { session with registry := t.registry, heap := t.heap, database := t.source }

theorem recordsOf_eq_ok (hready : Ready catalog session) (hs : catalog.schemaOf s.record.name = .ok s)
    {rows : List Row} (hrecords : recordsOf s rows session = (.ok ids,later)) :
    ∃ new t, HasRead catalog session s rows ids later new t := by
  unfold recordsOf at hrecords
  rcases Heap.addRows_table session.heap session.ring (entryOf session.registry s) rows with
    ⟨fault,hmade⟩ | ⟨new,hmade,hnew⟩
  · have hbuild : build [s] false rows session = (.error fault,session) := by
      rw [build, List.map_singleton, hmade]
    rw [bind_of_error hbuild] at hrecords
    cases hrecords
  · generalize hids : List.range' session.heap.length new.length = places at hmade
    have hbuild : build [s] false rows session =
        (.ok (places.map fun id => [some id]),{ session with heap := session.heap ++ new }) := by
      rw [build, List.map_singleton, hmade]
    rw [bind_of_ok hbuild, Heap.filterMap_places] at hrecords
    generalize hgrown : { session with heap := session.heap ++ new } = grown at hrecords
    have hgrownReady : Ready catalog grown := hgrown ▸ ⟨hready.catalog_eq,hready.built⟩
    have hroots : ∀ id ∈ places, ∃ r : Record, grown.heap[id]? = some r ∧ r.IsOf s := by
      intro id hid
      rw [← hids] at hid
      obtain ⟨r,hr,hplace⟩ := Heap.exists_of_mem_range' hid
      obtain ⟨row,_,values,_,hvalues⟩ := exists_of_forall₂ hnew.flip hr
      refine ⟨r,by rw [← hgrown, hplace],?_⟩
      rw [Record.IsOf, Record.type_of_ofValues hvalues, typeName_entryOf]
    obtain ⟨t,hattributed,hresolved⟩ := resolve_attributed hgrownReady hs hroots
    generalize hrun : resolve (places.map fun id => (id,s)) grown = outcome at hresolved
    obtain ⟨result,last⟩ := outcome
    dsimp only at hresolved
    subst hresolved
    cases result with
    | error fault =>
      rw [bind_of_error hrun] at hrecords
      cases hrecords
    | ok _ =>
      rw [bind_of_ok hrun] at hrecords
      cases hrecords
      subst hgrown
      exact ⟨new,t,hnew,hids.symm,hattributed,rfl⟩

theorem read_eq_ok (hready : Ready catalog session) (hs : catalog.schemaOf s.record.name = .ok s)
    {sql : Text} {ps : List Value} (hread : read s sql ps session = (.ok ids,later)) :
    ∃ asked rows new t,
      asked = { session with database := session.database.after [⟨.statement sql ps,.none⟩] } ∧
        session.database.Gives 0 rows ∧ HasRead catalog asked s rows ids later new t := by
  unfold read at hread
  generalize hasked : { session with database := session.database.after [⟨.statement sql ps,.none⟩] } =
    asked
  have hquery : onDatabase (Database.query sql ps) session =
      ((Database.query sql ps session.database).1.mapError .storage,asked) := by
    rw [← hasked, ← Database.query_after]
    rfl
  cases hrows : (Database.query sql ps session.database).1 with
  | error fault =>
    rw [hrows] at hquery
    rw [bind_of_error hquery] at hread
    cases hread
  | ok rows =>
    rw [hrows] at hquery
    rw [bind_of_ok hquery] at hread
    have haskedReady : Ready catalog asked := hasked ▸ ⟨hready.catalog_eq,hready.built⟩
    obtain ⟨new,t,hhas⟩ := recordsOf_eq_ok haskedReady hs hread
    exact ⟨asked,rows,new,t,rfl,Database.gives_of_query hrows,hhas⟩

namespace HasRead
variable {rows : List Row} {new : List Record} {t : Traversal Database}
  (h : HasRead catalog session s rows ids later new t)
include h

theorem exists_new {id : RecordId} (hid : id ∈ ids) : ∃ r ∈ new, (session.heap ++ new)[id]? = some r := by
  rw [h.ids_eq] at hid
  exact Heap.exists_of_mem_range' hid

theorem exists_row {r : Record} (hr : r ∈ new) :
    ∃ row ∈ rows, r.IsOfRow session.ring (entryOf session.registry s) row :=
  exists_of_forall₂ h.made.flip hr

/-- What is reached was met, one step after the other. -/
theorem meets_of_reaches {id : RecordId} (hid : later.heap.Reaches ids id) :
    Traversal.Meets catalog { session.begun with heap := session.heap ++ new } t ids id := by
  have hplain : ∀ id ∈ ids, ∀ r : Record, (session.heap ++ new)[id]? = some r → r.IsPlain := by
    intro id hid r hr
    obtain ⟨r',hnew,hr'⟩ := h.exists_new hid
    cases hr.symm.trans hr'
    obtain ⟨row,_,hof⟩ := h.exists_row hnew
    exact hof.isPlain
  rw [h.later_eq] at hid
  induction hid with
  | direct hid hother => exact h.attributed.meets_of_content hplain (Or.inl hid) hother
  | onward _ hother ih => exact h.attributed.meets_of_content hplain ih.within hother

/-- Records are still there, but for what their references were led to. -/
theorem exists_led {id : RecordId} {r : Record} (hr : (session.heap ++ new)[id]? = some r) :
    ∃ r' within, t.heap[id]? = some r' ∧ Record.Led catalog within r r' := by
  obtain ⟨_,_,hrecords⟩ := h.attributed.records
  have hplace : id < (session.heap ++ new).length := (List.getElem?_eq_some_iff.mp hr).1
  have hr' := List.getElem?_eq_getElem (Nat.lt_of_lt_of_le hplace h.attributed.length_le)
  obtain ⟨first,hfirst | ⟨hnewer,_⟩,hled⟩ := hrecords id _ hr'
  · cases hr.symm.trans hfirst
    exact ⟨_,_,hr',hled⟩
  · exact absurd hplace (Nat.not_lt_of_le hnewer)

section
variable {ds : List TypeDeclaration} (hcatalog : Catalog.ofDeclarations ds = .ok catalog)
  (hnames : ∀ table, ∀ row ∈ stored table, (row.map (·.name)).Nodup)
include hcatalog hnames

theorem isComplete_of_row {u : Schema} (hu : catalog.schemaOf u.record.name = .ok u) {row : Row}
    (hrow : row ∈ stored u.name) {r r' : Record} {within : RecordId → Prop} {id : RecordId}
    (hof : r.IsOfRow session.ring ⟨u,session.registry.tableKey u.record.name⟩ row)
    (hled : Record.Led catalog within r r') (hr' : t.heap[id]? = some r') :
    IsComplete catalog stored later id := by
  rw [h.later_eq]
  refine ⟨r',u,row,hr',hu,hrow,?_⟩
  have hkey : t.registry.tableKey u.record.name = session.registry.tableKey u.record.name :=
    h.attributed.tableKey_eq _
  rw [entryOf_eq h.attributed.built hu, hkey]
  exact hof.isWhole hcatalog hu (hnames _ _ hrow) hled

/-- A record that is new was fetched. -/
theorem isComplete_of_fetched {rest : List LogEntry} (hrest : later.database = session.database.after rest)
    (hwhole : ∀ table row, session.database.GivesWhole rest table row → row ∈ stored table)
    {id : RecordId} (hid : Traversal.IsNew { session.begun with heap := session.heap ++ new } t id) :
    IsComplete catalog stored later id := by
  obtain ⟨hnewer,hplace⟩ := hid
  obtain ⟨sent,hsource,hrecords⟩ := h.attributed.records
  have hsent : sent = rest := by
    rw [h.later_eq] at hrest
    exact Database.after_injective (hsource.symm.trans hrest)
  have hr' := List.getElem?_eq_getElem hplace
  obtain ⟨r,hr | ⟨_,u,row,hu,hgives,hof⟩,hled⟩ := hrecords id _ hr'
  · exact absurd hnewer (Nat.not_le_of_lt (List.getElem?_eq_some_iff.mp hr).1)
  · exact h.isComplete_of_row hcatalog hnames hu (hwhole _ _ (hsent ▸ hgives)) hof hled hr'

/-- A record that is read is complete if its row is a stored one. -/
theorem isComplete_of_read (hready : Ready catalog session) (hs : catalog.schemaOf s.record.name = .ok s)
    (hrows : ∀ row ∈ rows, row ∈ stored s.name) {id : RecordId} (hid : id ∈ ids) :
    IsComplete catalog stored later id := by
  obtain ⟨r,hnew,hr⟩ := h.exists_new hid
  obtain ⟨row,hrow,hof⟩ := h.exists_row hnew
  rw [entryOf_eq hready.built hs] at hof
  obtain ⟨r',within,hr',hled⟩ := h.exists_led hr
  exact h.isComplete_of_row hcatalog hnames hs (hrows row hrow) hof hled hr'

end

end HasRead

/-- What is reached from the records of a statement is one of them with its primary key or complete, and they
are complete as well if the statement reads all columns. -/
theorem read_complete {ds : List TypeDeclaration} (hcatalog : Catalog.ofDeclarations ds = .ok catalog)
    (hready : Ready catalog session) (hs : catalog.schemaOf s.record.name = .ok s) {sql : Text}
    {ps : List Value} (hread : read s sql ps session = (.ok ids,later)) :
    ∃ sent, later.database = session.database.after sent ∧ (session.database.Holds stored sent →
      (∀ id, later.heap.Reaches ids id →
        (id ∈ ids ∧ ∃ r : Record, later.heap[id]? = some r ∧ r.IsIdentified catalog) ∨
          IsComplete catalog stored later id) ∧
        ∀ clause orderBy sortOrder limit, sql = Sql.select s.name clause [] orderBy sortOrder limit →
          ∀ id ∈ ids, IsComplete catalog stored later id) := by
  obtain ⟨asked,rows,new,t,rfl,hgives,h⟩ := read_eq_ok hready hs hread
  obtain ⟨rest,hrest,_⟩ := h.attributed.records
  have hlater : later.database = (session.database.after [⟨.statement sql ps,.none⟩]).after rest := by
    rw [h.later_eq]
    exact hrest
  refine ⟨⟨.statement sql ps,.none⟩ :: rest,?_,fun hholds => ⟨?_,?_⟩⟩
  · rw [hlater, ← Database.after_append, List.singleton_append]
  · intro id hreaches
    rcases h.meets_of_reaches hreaches with ⟨hid,r,hr,hidentified⟩ | hnew
    · obtain ⟨r',within,hr',hled⟩ := h.exists_led hr
      exact Or.inl ⟨hid,r',by rw [h.later_eq, hr'],hled.isIdentified_iff.mpr hidentified⟩
    · refine Or.inr (h.isComplete_of_fetched hcatalog hholds.names hlater ?_ hnew)
      exact fun _ _ hgiven => hholds.whole _ _ hgiven.of_after
  · intro clause orderBy sortOrder limit hsql id hid
    refine h.isComplete_of_read hcatalog hholds.names ⟨hready.catalog_eq,hready.built⟩ hs ?_ hid
    intro row hrow
    exact hholds.whole _ _ ⟨0,_,clause,orderBy,sortOrder,limit,ps,rows,rfl,by rw [hsql],hgives,hrow⟩

/-- A call that prepares a statement and sends it reads what the statement reads. -/
theorem complete_of_read {ds : List TypeDeclaration} (hcatalog : Catalog.ofDeclarations ds = .ok catalog)
    {middle : Session} (hmiddle : Ready catalog middle) (hstill : Still session middle)
    (hs : catalog.schemaOf s.record.name = .ok s) {sql : Text} {ps : List Value}
    (hread : read s sql ps middle = (.ok ids,later)) {call : Action (List RecordId)}
    (hcall : call session = (.ok ids,later)) (hholds : session.database.Holds stored (session.sent call)) :
    (∀ id, later.heap.Reaches ids id →
      (id ∈ ids ∧ ∃ r : Record, later.heap[id]? = some r ∧ r.IsIdentified catalog) ∨
        IsComplete catalog stored later id) ∧
      ∀ clause orderBy sortOrder limit, sql = Sql.select s.name clause [] orderBy sortOrder limit →
        ∀ id ∈ ids, IsComplete catalog stored later id := by
  obtain ⟨sent,hsent,hcomplete⟩ := read_complete hcatalog hmiddle hs hread
  rw [hstill.database_eq] at hsent hcomplete
  have hall : session.sent call = sent := sent_of_after (by rw [hcall]; exact hsent)
  rw [hall] at hholds
  exact hcomplete hholds

section
variable {typeName : Text} {predicate : Value}

theorem select_eq_ok (hready : Ready catalog session) {fields : List Text}
    (h : select typeName predicate fields session = (.ok ids,later)) :
    ∃ s sql ps middle, catalog.schemaOf s.record.name = .ok s ∧ Ready catalog middle ∧ Still session middle ∧
      read s sql ps middle = (.ok ids,later) := by
  unfold select at h
  obtain ⟨s,first,hs,hfirst,hstill,h⟩ := (prepares_schemaFor typeName).exists_of_bind hready h
  by_cases hfields : fields.isEmpty
  · rw [if_pos hfields] at h
    cases h
  · rw [if_neg hfields] at h
    obtain ⟨clause,second,_,hsecond,hmore,h⟩ := (prepares_clauseFor s false predicate).exists_of_bind hfirst h
    obtain ⟨columns,third,_,hthird,hlast,h⟩ := (prepares_ofExcept .query _).exists_of_bind hsecond h
    exact ⟨s,_,_,third,Catalog.schemaOf_name hs,hthird,hstill.trans (hmore.trans hlast),h⟩

/-- Finding records reads all columns of their table. -/
theorem find_eq_ok (hready : Ready catalog session) {options : FindOptions}
    (h : find typeName predicate options session = (.ok ids,later)) :
    ∃ s clause orderBy limit ps middle, catalog.schemaOf s.record.name = .ok s ∧ Ready catalog middle ∧
      Still session middle ∧
        read s (Sql.select s.name clause [] orderBy options.order limit) ps middle = (.ok ids,later) := by
  unfold find at h
  obtain ⟨s,first,hs,hfirst,hstill,h⟩ := (prepares_schemaFor typeName).exists_of_bind hready h
  obtain ⟨clause,second,_,hsecond,hmore,h⟩ := (prepares_clauseFor s false predicate).exists_of_bind hfirst h
  obtain ⟨orderBy,third,_,hthird,hmore',h⟩ := (prepares_optionMapM .query _ _).exists_of_bind hsecond h
  obtain ⟨limit,fourth,_,hfourth,hmore'',h⟩ := (prepares_optionMapM id _ _).exists_of_bind hthird h
  exact ⟨s,_,orderBy,limit,_,fourth,Catalog.schemaOf_name hs,hfourth,
    hstill.trans (hmore.trans (hmore'.trans hmore'')),h⟩

/-- Reading some columns, every record that is reached through references is complete, unless it is one of
those that are read and its primary key is read with it. Finding records, all of them are complete. -/
theorem references_complete {ds : List TypeDeclaration} (hcatalog : Catalog.ofDeclarations ds = .ok catalog)
    (hready : Ready catalog session) (stored : Text → List Row) (typeName : Text) (predicate : Value) :
    (∀ fields ids later, select typeName predicate fields session = (.ok ids,later) →
      session.database.Holds stored (session.sent (select typeName predicate fields)) →
      ∀ id, later.heap.Reaches ids id →
        (id ∈ ids ∧ ∃ r : Record, later.heap[id]? = some r ∧ r.IsIdentified catalog) ∨
          IsComplete catalog stored later id) ∧
    ∀ options ids later, find typeName predicate options session = (.ok ids,later) →
      session.database.Holds stored (session.sent (find typeName predicate options)) →
      ∀ id, id ∈ ids ∨ later.heap.Reaches ids id → IsComplete catalog stored later id := by
  constructor
  · intro fields ids later hselect hholds
    obtain ⟨s,sql,ps,middle,hs,hmiddle,hstill,hread⟩ := select_eq_ok hready hselect
    exact (complete_of_read hcatalog hmiddle hstill hs hread hselect hholds).1
  · intro options ids later hfind hholds id hid
    obtain ⟨s,clause,orderBy,limit,ps,middle,hs,hmiddle,hstill,hread⟩ := find_eq_ok hready hfind
    obtain ⟨hreached,hreads⟩ := complete_of_read hcatalog hmiddle hstill hs hread hfind hholds
    have hids := hreads clause orderBy options.order limit rfl
    rcases hid with hid | hid
    · exact hids id hid
    · exact (hreached id hid).elim (fun hread => hids id hread.1) fun hcomplete => hcomplete

end

end Session

namespace Mentor
open Session

def declarations : List TypeDeclaration :=
  [⟨"Person",some "people",none,true,
    [Circle.key, ⟨"name","str | None",none,.value .none,true⟩,
      ⟨"mentor_id","int | None",some { ColumnOptions.plain with foreignKey := some ⟨"mentor",true⟩ },
        .value .none,true⟩,
      ⟨"mentor","Person | None",none,.value .none,true⟩]⟩]

def catalog : Catalog := declarations.map (Catalog.typeOf none)

def names : List Text := ["id", "name", "mentor_id"]

def ada : List Value := [.int 1,.text "Ada",.none]

def bob : List Value := [.int 2,.text "Bob",.int 1]

def stored (_ : Text) : List Row := [ada, bob].map (List.zipWith Cell.mk names)

/-- A database that is going to give parts of rows, and then the whole row of Ada. -/
def session (parts : List (List Value)) : Session :=
  .new catalog .aes256
    ⟨Database.memory,[.success 0 none ["id", "mentor_id"] parts, .success 0 none names [ada]],[]⟩ []

def predicate : Value := .condition (.comparison "id" .gt (.int 0))

/-- Names are not read. -/
def reading : Action (List RecordId) := select "Person" predicate ["id", "mentor_id"]

def adaFirst : List (List Value) := [[.int 1,.none],[.int 2,.int 1]]

def leadsTo (heap : Heap) (id : RecordId) (field : Text) (other : RecordId) : Bool :=
  match heap.content? id field with
  | some (.record found) => found = other
  | _ => false

def isNull (heap : Heap) (id : RecordId) (field : Text) : Bool :=
  match heap.content? id field with
  | some (.value .none) => true
  | _ => false

theorem content?_of_leadsTo {heap : Heap} {id other : RecordId} {field : Text}
    (h : leadsTo heap id field other) : heap.content? id field = some (.record other) := by
  unfold leadsTo at h
  split at h
  · next found hcontent =>
    rw [hcontent, of_decide_eq_true h]
  · cases h

theorem eq_none_of_isNull {heap : Heap} {id : RecordId} {field : Text} {v : Value}
    (h : isNull heap id field) (hv : heap.content? id field = some (.value v)) : v = .none := by
  unfold isNull at h
  rw [hv] at h
  cases v <;> first | rfl | cases h

def textOf : Request → Text
  | .statement sql _ => sql
  | _ => []

theorem eq_of_toOption {α β ε : Type} {p : Except ε α × β} {a : α} (h : p.1.toOption = some a) :
    p = (.ok a,p.2) := by
  obtain ⟨_ | b,_⟩ := p
  · cases h
  · cases h
    rfl

theorem take_select (table : Text) (clause orderBy : Option Text) (sortOrder : SortOrder)
    (limit : Option Int) :
    List.take 8 (Sql.select table clause [] orderBy sortOrder limit) = "SELECT *" := rfl

theorem second_of_getElem? {first t : Text} {rest : List Text} (hfirst : first ≠ t) (hrest : rest.length ≤ 1)
    {i : Nat} (h : (first :: rest)[i]? = some t) : i = 1 := by
  have hlength := (List.getElem?_eq_some_iff.mp h).1
  rw [List.length_cons] at hlength
  match i with
  | 0 => exact absurd (Option.some.inj h) hfirst
  | 1 => rfl
  | i + 2 => omega

/-- Only the second answer is one to a statement that reads all columns. -/
theorem holds {parts : List (List Value)} {first : Text} {rest : List Text}
    (hsent : ((session parts).sent reading).map (fun e => (textOf e.request).take 8) = first :: rest)
    (hfirst : first ≠ "SELECT *") (hrest : rest.length ≤ 1) :
    (session parts).database.Holds stored ((session parts).sent reading) := by
  have hnames : ∀ row ∈ stored [], (row.map (·.name)).Nodup := by decide +kernel
  refine ⟨fun _ => hnames,?_⟩
  rintro table row ⟨i,e,clause,orderBy,sortOrder,limit,ps,rows,he,hrequest,hgives,hrow⟩
  have htext : (first :: rest)[i]? = some "SELECT *" := by
    rw [← hsent, List.getElem?_map, he, Option.map_some, hrequest]
    exact congrArg some (take_select table clause orderBy sortOrder limit)
  cases second_of_getElem? hfirst hrest htext
  obtain ⟨_,_,_,_,hreply,hrows⟩ := hgives
  cases hreply
  cases hrows
  exact List.mem_cons.mpr (Or.inl (List.mem_singleton.mp hrow))

theorem ofDeclarations_eq : Catalog.ofDeclarations declarations = .ok catalog := rfl

theorem ready (parts : List (List Value)) : Ready catalog (session parts) := ready_new catalog .aes256 _ []

/-- When Bob's row comes first, his mentor is fetched and has a name. -/
theorem mentor_complete : ∃ later, reading (session adaFirst.reverse) = (.ok [0,1],later) ∧
    later.heap.Reaches [0,1] 2 ∧ IsComplete catalog stored later 2 := by
  have hreading : reading (session adaFirst.reverse) = (.ok [0,1],_) := eq_of_toOption (by decide +kernel)
  have hlead : leadsTo (reading (session adaFirst.reverse)).2.heap 0 "mentor" 2 := by decide +kernel
  have hreaches : Heap.Reaches _ [0,1] 2 := .direct List.mem_cons_self (content?_of_leadsTo hlead)
  have htexts : ((session adaFirst.reverse).sent reading).map (fun e => (textOf e.request).take 8) =
      [("SELECT i" : Text), "SELECT *"] := by decide +kernel
  have hholds := holds htexts (by decide +kernel) (Nat.le_refl 1)
  obtain ⟨hselected,_⟩ := references_complete ofDeclarations_eq (ready _) stored "Person" predicate
  have hcomplete := hselected _ _ _ hreading hholds 2 hreaches
  exact ⟨_,hreading,hreaches,hcomplete.resolve_left fun hread => absurd hread.1 (by decide)⟩

/-- What is read first of Ada has no name, whichever of her columns it is made of. -/
theorem exists_null : let later := (reading (session adaFirst)).2
    ∀ s ∈ (catalog.schemaOf "Person").toOption, ∀ row ∈ stored [],
      ∀ values ∈ (Row.decode later.ring (entryOf later.registry s) row).toOption,
        ∃ c ∈ (entryOf later.registry s).schema.columns, c.name ∈ row.map (·.name) ∧
          (∀ k ∈ (entryOf later.registry s).schema.foreignKeys, k.navigationField ≠ c.fieldName) ∧
            (values.lookup c.fieldName).all (!·.isNone) ∧ isNull later.heap 0 c.fieldName := by
  decide +kernel

/-- When Ada's row comes first, it is what Bob's mentor is, without a name. -/
theorem not_references_complete : ¬∀ (ds : List TypeDeclaration) (catalog : Catalog) (session : Session)
    (stored : Text → List Row) (typeName : Text) (predicate : Value) (fields : List Text)
    (ids : List RecordId) (later : Session), Catalog.ofDeclarations ds = .ok catalog → Ready catalog session →
    select typeName predicate fields session = (.ok ids,later) →
    session.database.Holds stored (session.sent (select typeName predicate fields)) →
      ∀ id, later.heap.Reaches ids id → IsComplete catalog stored later id := by
  intro h
  have hreading : reading (session adaFirst) = (.ok [0,1],_) := eq_of_toOption (by decide +kernel)
  have hlead : leadsTo (reading (session adaFirst)).2.heap 1 "mentor" 0 := by decide +kernel
  have hreaches : Heap.Reaches _ [0,1] 0 :=
    .direct (List.mem_cons_of_mem 0 List.mem_cons_self) (content?_of_leadsTo hlead)
  have htexts : ((session adaFirst).sent reading).map (fun e => (textOf e.request).take 8) =
      [("SELECT i" : Text)] := by decide +kernel
  have hholds := holds htexts (by decide +kernel) (Nat.zero_le 1)
  obtain ⟨r,u,row,hr,hu,hrow,htype,values,hdecode,hcolumns⟩ :=
    h declarations catalog (session adaFirst) stored "Person" predicate _ _ _ ofDeclarations_eq (ready _)
      hreading hholds 0 hreaches
  have hperson : (reading (session adaFirst)).2.heap[0]?.map (·.type.name) = some ("Person" : Text) := by
    decide +kernel
  rw [hr, Option.map_some, htype, typeName_entryOf] at hperson
  rw [Option.some.inj hperson] at hu
  obtain ⟨c,hc,hname,hfree,hnamed,hnull⟩ :=
    exists_null u (by rw [hu]; rfl) row hrow values (by rw [hdecode]; rfl)
  obtain ⟨v,hv,hcontent | ⟨k,hk,_,hnavigates⟩⟩ := hcolumns c hc hname
  · rw [hv] at hnamed
    have hvalue : Heap.content? (reading (session adaFirst)).2.heap 0 c.fieldName = some (.value v) := by
      rw [Heap.content?, hr]
      exact hcontent
    cases eq_none_of_isNull hnull hvalue
    exact Bool.false_ne_true hnamed
  · exact hfree k hk hnavigates

end Mentor
end SealedRows
