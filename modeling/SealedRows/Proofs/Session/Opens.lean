import SealedRows.Proofs.Session.Intent

/-! # The first statement

An operation first prepares what it is going to send, which changes neither the database nor anything that
statements are made of. Then it sends the statement that it is meant to send, and after that nothing but
lookups of the records that are referred to.
-/
namespace SealedRows
open Filled

/-- A request for a statement that is meant. -/
def Means (P : Filled → Prop) (request : Request) : Prop :=
  ∃ f, P f ∧ request = .statement f.text f.parameters

/-- A lookup of the record with a primary key. -/
inductive Looks (catalog : Catalog) : Filled → Prop where
  | lookup {t : Schema} {c : Column} {key : Value} {clause : Filled}
      (ht : catalog.schemaOf t.record.name = .ok t) (hc : t.primaryKey = .ok c)
      (hclause : c.Finds key clause) :
      Looks catalog (Filled.select t.name (some clause) [] none .ascending (some 1))

namespace Session
variable {α β : Type} {catalog : Catalog} {M L : Request → Prop} {idle : Prop}
  {session later last : Session}

theorem means_select {P : Filled → Prop} {table : Text} {clause : Filled} {columns : List Text}
    {orderBy : Option Text} {sortOrder : SortOrder} {limit : Option Int}
    (h : P (Filled.select table (some clause) columns orderBy sortOrder limit)) :
    Means P (.statement (Sql.select table (some clause.text) columns orderBy sortOrder limit)
      clause.parameters) := by
  refine ⟨_,h,?_⟩
  rw [text_select, parameters_select]
  rfl

theorem means_lookup (t : Schema) (c : Column) (ht : catalog.schemaOf t.record.name = .ok t)
    (hc : t.primaryKey = .ok c) (_ : c ∈ t.columns) (_ : c.isEncrypted = false) (key : Value)
    (ps : List Value) (hps : lookupParameters c key = .ok ps) :
    Means (Looks catalog) (.statement (referenceQuery t c key) ps) := by
  obtain ⟨f,hf,htext,hparameters⟩ := Column.exists_finds hps
  have hmeans := means_select (Looks.lookup ht hc hf)
  rw [htext, hparameters] at hmeans
  exact hmeans

/-! ## Preparations -/

structure Still (session later : Session) : Prop where
  heap_eq : later.heap = session.heap
  ring_eq : later.ring = session.ring
  database_eq : later.database = session.database
  salts_eq : later.salts = session.salts
  tableKey_eq : ∀ typeName, later.registry.tableKey typeName = session.registry.tableKey typeName

theorem Still.refl (session : Session) : Still session session := ⟨rfl,rfl,rfl,rfl,fun _ => rfl⟩

theorem Still.trans (h : Still session later) (h' : Still later last) : Still session last :=
  ⟨h'.heap_eq.trans h.heap_eq,h'.ring_eq.trans h.ring_eq,h'.database_eq.trans h.database_eq,
    h'.salts_eq.trans h.salts_eq,fun typeName => (h'.tableKey_eq typeName).trans (h.tableKey_eq typeName)⟩

theorem Still.isRowOf (h : Still session later) {id : RecordId} {includeCounted : Bool} {s : Schema}
    {row : Row} (hrow : later.IsRowOf catalog id includeCounted s row) :
    session.IsRowOf catalog id includeCounted s row := by
  unfold IsRowOf at hrow ⊢
  unfold nextSalt at hrow ⊢
  rwa [h.heap_eq, h.ring_eq, h.salts_eq, h.tableKey_eq] at hrow

/-- Whether an action changes nothing that statements are made of and gives only results of a kind. -/
def Prepares (catalog : Catalog) (session : Session) (action : Action α) (Q : α → Prop) : Prop :=
  Ready catalog session → Ready catalog (action session).2 ∧ Still session (action session).2 ∧
    ∀ a, (action session).1 = .ok a → Q a

theorem Prepares.bind {x : Action α} {f : α → Action β} {R : α → Prop} {Q : β → Prop}
    (hx : Prepares catalog session x R) (hf : ∀ a, R a → ∀ later, Prepares catalog later (f a) Q) :
    Prepares catalog session (x >>= f) Q := by
  intro hready
  obtain ⟨hlater,hstill,hresult⟩ := hx hready
  generalize hrun : x session = outcome at hlater hstill hresult
  obtain ⟨result,later⟩ := outcome
  cases result with
  | error fault =>
    rw [bind_of_error hrun]
    exact ⟨hlater,hstill,nofun⟩
  | ok a =>
    rw [bind_of_ok hrun]
    obtain ⟨hlast,hmore,hlastResult⟩ := hf a (hresult a rfl) later hlater
    exact ⟨hlast,hstill.trans hmore,hlastResult⟩

/-- What comes after a preparation that went well runs on a session in which nothing has changed. -/
theorem Prepares.exists_of_bind {x : Action α} {f : α → Action β} {R : α → Prop}
    (hx : Prepares catalog session x R) (hready : Ready catalog session) {b : β}
    (h : (x >>= f) session = (.ok b,last)) :
    ∃ a later, R a ∧ Ready catalog later ∧ Still session later ∧ f a later = (.ok b,last) := by
  obtain ⟨hlater,hstill,hresult⟩ := hx hready
  generalize hrun : x session = outcome at hlater hstill hresult
  obtain ⟨result,later⟩ := outcome
  cases result with
  | error fault =>
    rw [bind_of_error hrun] at h
    cases h
  | ok a =>
    rw [bind_of_ok hrun] at h
    exact ⟨a,later,hresult a rfl,hlater,hstill,h⟩

theorem Prepares.imp {x : Action α} {Q R : α → Prop} (hx : Prepares catalog session x Q)
    (h : ∀ a, Q a → R a) : Prepares catalog session x R := by
  intro hready
  obtain ⟨hlater,hstill,hresult⟩ := hx hready
  exact ⟨hlater,hstill,fun a ha => h a (hresult a ha)⟩

theorem prepares_pure {a : α} {Q : α → Prop} (ha : Q a) : Prepares catalog session (pure a) Q := by
  intro hready
  refine ⟨hready,.refl session,?_⟩
  rintro _ ⟨⟩
  exact ha

theorem prepares_throw {fault : Fault} {Q : α → Prop} :
    Prepares catalog session (throw fault : Action α) Q :=
  fun hready => ⟨hready,.refl session,nofun⟩

theorem prepares_ofExcept {ε : Type} (wrap : ε → Fault) (e : Except ε α) :
    Prepares catalog session (ofExcept wrap e) (e = .ok ·) := by
  cases e with
  | ok a => exact prepares_pure rfl
  | error fault => exact prepares_throw

theorem prepares_schemaFor (typeName : Text) :
    Prepares catalog session (schemaFor typeName) (catalog.schemaOf typeName = .ok ·) := by
  intro hready
  obtain ⟨hbuilt,hschema⟩ := Registry.Built.schemaFor hready.built typeName
  rw [schemaFor_eq hready]
  refine ⟨⟨hready.catalog_eq,hbuilt⟩,⟨rfl,rfl,rfl,rfl,fun other => ?_⟩,fun s hs => ?_⟩
  · exact Registry.tableKey_schemaFor catalog session.registry typeName other
  · exact (hschema s (mapError_eq_ok.mp hs)).1

theorem prepares_schemaOf (id : RecordId) : Prepares catalog session (schemaOf id) fun s =>
    ∃ r, session.heap[id]? = some r ∧ catalog.schemaOf r.type.name = .ok s := by
  unfold schemaOf
  intro hready
  rw [get_bind]
  cases hr : session.heap[id]? with
  | none => exact prepares_throw hready
  | some r => exact ((prepares_schemaFor r.type.name).imp fun s hs => ⟨r,rfl,hs⟩) hready

theorem prepares_mapM {l : List α} {f : α → Action β} {R : α → β → Prop}
    (h : ∀ a ∈ l, ∀ later, Prepares catalog later (f a) (R a)) :
    Prepares catalog session (l.mapM f) (List.Forall₂ R l) := by
  induction l generalizing session with
  | nil => exact prepares_pure .nil
  | cons a l ih =>
    obtain ⟨ha,hl⟩ := List.forall_mem_cons.mp h
    rw [List.mapM_cons]
    refine (ha session).bind fun b hb later => ?_
    refine (ih hl).bind fun bs hbs last => ?_
    exact prepares_pure (.cons hb hbs)

/-- An optional part that is worked out. -/
theorem prepares_optionMapM {ε : Type} (wrap : ε → Fault) (o : Option α) (f : α → Except ε β) :
    Prepares catalog session (o.mapM fun a => ofExcept wrap (f a)) (o.mapM f = .ok ·) := by
  cases o with
  | none => exact prepares_pure rfl
  | some a =>
    refine (prepares_ofExcept wrap (f a)).bind fun b hb later => ?_
    refine prepares_pure ?_
    simp only [Option.mapM_some, hb]
    rfl

theorem prepares_clauseFor (s : Schema) (qualify : Bool) (predicate : Value) :
    Prepares catalog session (clauseFor s qualify predicate) fun clause =>
      (Choice.condition predicate).Fills s qualify clause.filled := by
  unfold clauseFor
  refine (prepares_ofExcept .predicate _).bind fun v hv later => ?_
  refine (prepares_ofExcept .query _).imp fun clause hclause => ?_
  have hcondition : ∀ condition, Condition.ofValue? v = some condition →
      Clause.ofCondition s qualify condition = .ok clause →
      (Choice.condition predicate).Fills s qualify clause.filled := by
    intro condition hmeant hclause
    refine .condition ?_ (Condition.fills_ofCondition hclause)
    rw [Value.condition?, hv]
    exact hmeant
  cases v with
  | column name => exact hcondition (.isTrue name) rfl hclause
  | condition c => exact hcondition c rfl hclause
  | _ => cases hclause

theorem prepares_optionalClause (s : Schema) (qualify : Bool) (predicate : Value) :
    Prepares catalog session (optionalClause s qualify predicate) fun r =>
      ∃ clause : Option Filled, predicate.Narrows s qualify clause ∧ r.1 = clause.map text ∧
        r.2 = (clause.map parameters).getD [] := by
  unfold optionalClause
  by_cases hnone : predicate.isNone
  · rw [if_pos hnone]
    cases Value.isNone_iff.mp hnone
    exact prepares_pure ⟨none,.nothing,rfl,rfl⟩
  · rw [if_neg hnone]
    refine (prepares_clauseFor s qualify predicate).bind fun clause hclause later => ?_
    refine prepares_pure ⟨some clause.filled,.condition hclause,?_,?_⟩
    · rw [Option.map_some, Clause.text_filled]
    · rw [Option.map_some, Clause.parameters_filled]
      rfl

/-! ## Sending -/

/-- Whether an operation sends first a request of one kind and after it only requests of another, or
nothing at all, in which case it fails or is idle. -/
def Opens (catalog : Catalog) (M L : Request → Prop) (idle : Prop) (session : Session)
    (action : Action α) : Prop :=
  Ready catalog session → Ready catalog (action session).2 ∧
    ((action session).2.database = session.database ∧ (∀ a, (action session).1 = .ok a → idle) ∨
      ∃ first rest, (action session).2.database = session.database.after (first :: rest) ∧
        M first.request ∧ ∀ e ∈ rest, L e.request)

/-- What the database is sent in the course of an operation. -/
def sent (session : Session) (action : Action α) : List LogEntry :=
  (action session).2.database.log.drop session.database.log.length

theorem sent_of_after {action : Action α} {l : List LogEntry}
    (h : (action session).2.database = session.database.after l) : session.sent action = l := by
  rw [sent, h, Database.after, List.drop_left]

theorem Opens.sent {action : Action α} (h : Opens catalog M L idle session action)
    (hready : Ready catalog session) :
    session.sent action = [] ∧ (∀ a, (action session).1 = .ok a → idle) ∨
      ∃ first rest, session.sent action = first :: rest ∧ M first.request ∧ ∀ e ∈ rest, L e.request := by
  obtain ⟨_,⟨hsent,hidle⟩ | ⟨first,rest,hafter,hfirst,hrest⟩⟩ := h hready
  · refine Or.inl ⟨sent_of_after ?_,hidle⟩
    rw [hsent, Database.after_nil]
  · exact Or.inr ⟨first,rest,sent_of_after hafter,hfirst,hrest⟩

theorem Opens.mono {M' : Request → Prop} {idle' : Prop} {x : Action α}
    (hx : Opens catalog M L idle session x) (h : ∀ request, M request → M' request) (hidle : idle → idle') :
    Opens catalog M' L idle' session x := by
  intro hready
  obtain ⟨hlater,⟨hnone,hok⟩ | ⟨first,rest,hafter,hfirst,hrest⟩⟩ := hx hready
  · exact ⟨hlater,Or.inl ⟨hnone,fun a ha => hidle (hok a ha)⟩⟩
  · exact ⟨hlater,Or.inr ⟨first,rest,hafter,h _ hfirst,hrest⟩⟩

theorem opens_pure {a : α} (hidle : idle) : Opens catalog M L idle session (pure a) :=
  fun hready => ⟨hready,Or.inl ⟨rfl,fun _ _ => hidle⟩⟩

theorem opens_throw {fault : Fault} : Opens catalog M L idle session (throw fault : Action α) :=
  fun hready => ⟨hready,Or.inl ⟨rfl,nofun⟩⟩

theorem Prepares.opens_bind {x : Action α} {f : α → Action β} {R : α → Prop}
    (hx : Prepares catalog session x R)
    (hf : ∀ a, R a → ∀ later, Still session later → Opens catalog M L idle later (f a)) :
    Opens catalog M L idle session (x >>= f) := by
  intro hready
  obtain ⟨hlater,hstill,hresult⟩ := hx hready
  generalize hrun : x session = outcome at hlater hstill hresult
  obtain ⟨result,later⟩ := outcome
  cases result with
  | error fault =>
    rw [bind_of_error hrun]
    exact ⟨hlater,Or.inl ⟨hstill.database_eq,nofun⟩⟩
  | ok a =>
    rw [bind_of_ok hrun, ← hstill.database_eq]
    exact hf a (hresult a rfl) later hstill hlater

/-- What comes after the last request may still change the session. -/
theorem Opens.bind {x : Action α} {f : α → Action β} {Q : β → Prop} (hx : Opens catalog M L idle session x)
    (hf : ∀ a later, Sends catalog (fun _ => False) later (f a) Q) :
    Opens catalog M L idle session (x >>= f) := by
  intro hready
  obtain ⟨hlater,hsent⟩ := hx hready
  generalize hrun : x session = outcome at hlater hsent
  obtain ⟨result,later⟩ := outcome
  cases result with
  | error fault =>
    rw [bind_of_error hrun]
    exact ⟨hlater,hsent.imp_left fun hnone => ⟨hnone.1,nofun⟩⟩
  | ok a =>
    obtain ⟨hlast,hasked,_⟩ := hf a later hlater
    rw [bind_of_ok hrun, hasked.eq_of_not fun _ => id]
    exact ⟨hlast,hsent.imp_left fun hnone => ⟨hnone.1,fun _ _ => hnone.2 a rfl⟩⟩

/-- What comes after a request is sent after it, whatever its answer is. -/
theorem after_send {action : Database.Action α} {f : α → Action β} {first : LogEntry}
    (hready : Ready catalog session) (hafter : (action session.database).2 = session.database.after [first])
    (hf : ∀ a later, Sends catalog L later (f a) fun _ => True) :
    Ready catalog ((onDatabase action >>= f) session).2 ∧
      ∃ rest, ((onDatabase action >>= f) session).2.database = session.database.after (first :: rest) ∧
        ∀ e ∈ rest, L e.request := by
  generalize hlater : { session with database := session.database.after [first] } = later
  have hrun : onDatabase action session = ((action session.database).1.mapError .storage,later) := by
    rw [← hlater, ← hafter]
    rfl
  have hsent : later.database = session.database.after [first] := by rw [← hlater]
  have hlaterReady : Ready catalog later := hlater ▸ ⟨hready.catalog_eq,hready.built⟩
  generalize (action session.database).1.mapError Fault.storage = result at hrun
  cases result with
  | error fault =>
    rw [bind_of_error hrun]
    exact ⟨hlaterReady,[],hsent,nofun⟩
  | ok a =>
    rw [bind_of_ok hrun]
    obtain ⟨hlast,⟨rest,hrest,hkind⟩,_⟩ := hf a later hlaterReady
    refine ⟨hlast,rest,?_,hkind⟩
    rw [hrest, hsent, ← Database.after_append, List.singleton_append]

theorem opens_send {action : Database.Action α} {f : α → Action β} {request : Request}
    (hafter : ∀ db, ∃ transaction, (action db).2 = db.after [⟨request,transaction⟩]) (hrequest : M request)
    (hf : ∀ a later, Sends catalog L later (f a) fun _ => True) :
    Opens catalog M L idle session (onDatabase action >>= f) := by
  intro hready
  obtain ⟨transaction,hdatabase⟩ := hafter session.database
  obtain ⟨hlast,rest,hrest,hkind⟩ := after_send hready hdatabase hf
  exact ⟨hlast,Or.inr ⟨⟨request,transaction⟩,rest,hrest,hrequest,hkind⟩⟩

theorem opens_read {s : Schema} (hs : catalog.schemaOf s.record.name = .ok s) {sql : Text}
    {parameters : List Value} (hrequest : M (.statement sql parameters)) :
    Opens catalog M (Means (Looks catalog)) idle session (read s sql parameters) :=
  opens_send (fun db => ⟨_,Database.query_after sql parameters db⟩) hrequest fun rows _ =>
    sends_recordsOf means_lookup hs rows

theorem entryOf_eq {registry : Registry} {s : Schema} (hbuilt : Registry.Built catalog registry)
    (hs : catalog.schemaOf s.record.name = .ok s) :
    entryOf registry s = ⟨s,registry.tableKey s.record.name⟩ := by
  have hschema := schema_entryOf hbuilt hs
  have hkey : (entryOf registry s).key = registry.tableKey s.record.name := by
    unfold entryOf Registry.tableKey
    cases registry.find? s.record.name <;> rfl
  exact congrArg₂ RegistryEntry.mk hschema hkey

theorem drawSalt_eq (s : Schema) (session : Session) : drawSalt s session = (.ok (session.nextSalt s),
    { session with salts := if s.hasEncryptedColumns then session.salts.tail else session.salts }) := by
  unfold drawSalt nextSalt
  split <;> rfl

/-- A row is made with the next salt. -/
theorem rowOf_eq {s : Schema} (hready : Ready catalog session)
    (hs : catalog.schemaOf s.record.name = .ok s) (id : RecordId) (includeCounted : Bool) :
    rowOf s id includeCounted session =
      (Row.encode session.ring ⟨s,session.registry.tableKey s.record.name⟩ (session.nextSalt s)
        includeCounted (session.heap.value id),(drawSalt s session).2) := by
  have hdrawn := drawSalt_eq s session
  have hentry := entryOf_eq hready.built hs
  rw [hdrawn]
  unfold rowOf
  rw [bind_of_ok hdrawn, get_bind]
  dsimp only
  rw [hentry]
  cases Row.encode session.ring _ (session.nextSalt s) includeCounted (session.heap.value id) <;> rfl

theorem ready_drawSalt (hready : Ready catalog session) (s : Schema) :
    Ready catalog (drawSalt s session).2 ∧ (drawSalt s session).2.database = session.database := by
  rw [drawSalt_eq]
  exact ⟨⟨hready.catalog_eq,hready.built⟩,rfl⟩

theorem opens_rowOf {s : Schema} {id : RecordId} {includeCounted : Bool} {f : Row → Action β}
    (hs : ∃ r, session.heap[id]? = some r ∧ catalog.schemaOf r.type.name = .ok s)
    (hf : ∀ row, session.IsRowOf catalog id includeCounted s row → ∀ later,
      Opens catalog M L idle later (f row)) :
    Opens catalog M L idle session (rowOf s id includeCounted >>= f) := by
  intro hready
  obtain ⟨r,hr,hs⟩ := hs
  have hrow := rowOf_eq hready (Catalog.schemaOf_name hs) id includeCounted
  obtain ⟨hlater,hdatabase⟩ := ready_drawSalt hready s
  generalize hencode : Row.encode session.ring _ (session.nextSalt s) includeCounted _ = result at hrow
  cases result with
  | error fault =>
    rw [bind_of_error hrow]
    exact ⟨hlater,Or.inl ⟨hdatabase,nofun⟩⟩
  | ok row =>
    obtain ⟨cipher,cells,hcipher,hrowEq,hcells⟩ := Row.encode_eq_ok hencode
    rw [bind_of_ok hrow, ← hdatabase]
    exact hf row ⟨r,cipher,cells,hr,hs,hcipher,hcells,hrowEq⟩ _ hlater

end Session
end SealedRows
