import SealedRows.Proofs.Reference.Steps
import SealedRows.Proofs.Schema.Keys
import SealedRows.Session.Aggregate
import SealedRows.Session.Join
import SealedRows.Session.Read
import SealedRows.Session.Write

/-! # What a session sends

The log of a database grows by what the database is sent, and each request takes a reply. What an
operation may send and what results it may give are known from those of its steps, also when one of
them fails and what was done so far remains.
-/
namespace SealedRows

namespace Database
variable {P R : Request → Prop} {db later last : Database} {sent : List LogEntry}

/-- A database after it was sent requests. -/
def after (db : Database) (sent : List LogEntry) : Database :=
  { db with replies := db.replies.drop sent.length, log := db.log ++ sent }

theorem after_nil (db : Database) : db.after [] = db := by
  simp [after]

theorem after_append (db : Database) (sent more : List LogEntry) :
    db.after (sent ++ more) = (db.after sent).after more := by
  simp [after, List.append_assoc]

def Asked (P : Request → Prop) (db later : Database) : Prop :=
  ∃ sent, later = db.after sent ∧ ∀ e ∈ sent, P e.request

theorem Asked.refl (P : Request → Prop) (db : Database) : Asked P db db :=
  ⟨[],(after_nil db).symm,nofun⟩

theorem Asked.trans (h : Asked P db later) (h' : Asked P later last) : Asked P db last := by
  obtain ⟨sent,rfl,hsent⟩ := h
  obtain ⟨more,rfl,hmore⟩ := h'
  refine ⟨sent ++ more,(after_append db sent more).symm,?_⟩
  intro e he
  rcases List.mem_append.mp he with he | he
  · exact hsent e he
  · exact hmore e he

theorem Asked.mono (h : Asked P db later) (hkind : ∀ request, P request → R request) :
    Asked R db later := by
  obtain ⟨sent,hlater,hsent⟩ := h
  exact ⟨sent,hlater,fun e he => hkind _ (hsent e he)⟩

theorem Asked.eq_of_not (h : Asked P db later) (hnot : ∀ request, ¬P request) : later = db := by
  obtain ⟨sent,rfl,hsent⟩ := h
  cases sent with
  | nil => exact after_nil db
  | cons e rest => exact absurd (hsent e List.mem_cons_self) (hnot _)

theorem asked_after (hrequest : ∀ e ∈ sent, P e.request) : Asked P db (db.after sent) :=
  ⟨sent,rfl,hrequest⟩

theorem send_eq (request : Request) (ending : Reply → Transaction) (db : Database) :
    (liftM (send request ending) : Action Reply) db =
      (.ok (db.replies.headD .empty),db.after [⟨request,ending (db.replies.headD .empty)⟩]) := by
  simp only [after, List.length_singleton, List.drop_one]
  rfl

theorem ask_eq (request : Request) (fault : Text → StorageFault) (db : Database) :
    ask request fault db =
      ((match db.replies.headD .empty with
        | .failure message => .error (fault message)
        | .success _ _ names rows => .ok (names,rows)),db.after [⟨request,.none⟩]) := by
  unfold ask
  rw [bind_of_ok (send_eq request (fun _ => .none) db)]
  cases db.replies.headD .empty <;> rfl

theorem query_after (sql : Text) (parameters : List Value) (db : Database) :
    (query sql parameters db).2 = db.after [⟨.statement sql parameters,.none⟩] := by
  have hask := ask_eq (.statement sql parameters) (.querying sql) db
  unfold query
  cases hreply : db.replies.headD .empty with
  | failure message =>
    rw [hreply] at hask
    rw [bind_of_error hask]
  | success rowCount lastRow names rows =>
    rw [hreply] at hask
    rw [bind_of_ok hask]
    dsimp only
    cases rows.mapM (Row.ofValues names) <;> rfl

theorem queryValue_after (sql : Text) (parameters : List Value) (db : Database) :
    (queryValue sql parameters db).2 = db.after [⟨.statement sql parameters,.none⟩] := by
  rw [← query_after]
  unfold queryValue
  generalize hrun : query sql parameters db = outcome
  obtain ⟨result,later⟩ := outcome
  cases result with
  | error fault => rw [bind_of_error hrun]
  | ok rows =>
    rw [bind_of_ok hrun]
    rcases rows with _ | ⟨_ | ⟨cell,cells⟩,rows⟩ <;> rfl

theorem execute_after (sql : Text) (parameters : List Value) (db : Database) :
    ∃ transaction, (execute sql parameters db).2 = db.after [⟨.statement sql parameters,transaction⟩] := by
  refine ⟨ending (db.replies.headD .empty),?_⟩
  unfold execute
  rw [bind_of_ok (send_eq (.statement sql parameters) ending db)]
  cases db.replies.headD .empty <;> rfl

end Database

namespace Session
variable {α β : Type} {catalog : Catalog} {P : Request → Prop} {session : Session}

/-- Whether a session has declared types and no schemas but theirs. -/
structure Ready (catalog : Catalog) (session : Session) : Prop where
  catalog_eq : session.catalog = catalog
  built : Registry.Built catalog session.registry

theorem schemaFor_eq (hready : Ready catalog session) (typeName : Text) : schemaFor typeName session =
    ((session.registry.schemaFor catalog typeName).1.mapError .schema,
      { session with registry := (session.registry.schemaFor catalog typeName).2 }) := by
  rw [← hready.catalog_eq]
  rfl

theorem schemaFor_bind {typeName : Text} {s : Schema} (hs : (schemaFor typeName session).1 = .ok s)
    (f : Schema → Action α) : (schemaFor typeName >>= f) session = f s (schemaFor typeName session).2 :=
  bind_of_ok (Prod.ext hs rfl)

/-- Whether an operation sends only requests of a kind from a session on and gives only results of a
kind. -/
def Sends (catalog : Catalog) (P : Request → Prop) (session : Session) (action : Action α)
    (Q : α → Prop) : Prop :=
  Ready catalog session → Ready catalog (action session).2 ∧
    Database.Asked P session.database (action session).2.database ∧
      ∀ a, (action session).1 = .ok a → Q a

theorem Sends.bind {x : Action α} {f : α → Action β} {R : α → Prop} {Q : β → Prop}
    (hx : Sends catalog P session x R) (hf : ∀ a, R a → ∀ later, Sends catalog P later (f a) Q) :
    Sends catalog P session (x >>= f) Q := by
  intro hready
  obtain ⟨hlater,hasked,hresult⟩ := hx hready
  generalize hrun : x session = outcome at hlater hasked hresult
  obtain ⟨result,later⟩ := outcome
  cases result with
  | error fault =>
    rw [bind_of_error hrun]
    exact ⟨hlater,hasked,nofun⟩
  | ok a =>
    rw [bind_of_ok hrun]
    obtain ⟨hlast,hmore,hlastResult⟩ := hf a (hresult a rfl) later hlater
    exact ⟨hlast,hasked.trans hmore,hlastResult⟩

theorem Sends.imp {x : Action α} {Q R : α → Prop} (hx : Sends catalog P session x Q)
    (h : ∀ a, Q a → R a) : Sends catalog P session x R := by
  intro hready
  obtain ⟨hlater,hasked,hresult⟩ := hx hready
  exact ⟨hlater,hasked,fun a ha => h a (hresult a ha)⟩

theorem sends_of_eq {x : Action α} {Q : α → Prop} (hcatalog : (x session).2.catalog = session.catalog)
    (hregistry : (x session).2.registry = session.registry)
    (hdatabase : (x session).2.database = session.database)
    (hresult : ∀ a, (x session).1 = .ok a → Q a) : Sends catalog P session x Q := by
  intro hready
  refine ⟨⟨?_,?_⟩,?_,hresult⟩
  · rw [hcatalog, hready.catalog_eq]
  · rw [hregistry]
    exact hready.built
  · rw [hdatabase]
    exact .refl P _

theorem sends_pure {a : α} {Q : α → Prop} (ha : Q a) : Sends catalog P session (pure a) Q :=
  sends_of_eq rfl rfl rfl fun _ h => Except.ok.inj h ▸ ha

theorem sends_throw {fault : Fault} {Q : α → Prop} :
    Sends catalog P session (throw fault : Action α) Q :=
  sends_of_eq rfl rfl rfl nofun

theorem sends_ofExcept {ε : Type} (wrap : ε → Fault) (e : Except ε α) :
    Sends catalog P session (ofExcept wrap e) (e = .ok ·) := by
  cases e with
  | ok a => exact sends_pure rfl
  | error fault => exact sends_throw

theorem sends_get : Sends catalog P session get fun current => current = session ∧ Ready catalog current := by
  intro hready
  refine ⟨hready,.refl P _,?_⟩
  rintro _ ⟨⟩
  exact ⟨rfl,hready⟩

theorem sends_schemaFor (typeName : Text) :
    Sends catalog P session (schemaFor typeName) (catalog.schemaOf typeName = .ok ·) := by
  intro hready
  have hbuilt := Registry.Built.schemaFor hready.built typeName
  rw [← hready.catalog_eq] at hbuilt
  refine ⟨⟨hready.catalog_eq,?_⟩,.refl P _,?_⟩
  · rw [← hready.catalog_eq]
    exact hbuilt.1
  · intro s hs
    rw [← hready.catalog_eq]
    exact (hbuilt.2 s (mapError_eq_ok.mp hs)).1

theorem sends_onDatabase {action : Database.Action α}
    (h : Database.Asked P session.database (action session.database).2) :
    Sends catalog P session (onDatabase action) fun _ => True :=
  fun hready => ⟨⟨hready.catalog_eq,hready.built⟩,h,fun _ _ => trivial⟩

section
variable {sql : Text} {parameters : List Value} (hsql : ∀ ps, P (.statement sql ps))
include hsql

theorem sends_query : Sends catalog P session (onDatabase (Database.query sql parameters))
    fun _ => True := by
  apply sends_onDatabase
  rw [Database.query_after]
  exact Database.asked_after (List.forall_mem_singleton.mpr (hsql parameters))

theorem sends_queryValue : Sends catalog P session (onDatabase (Database.queryValue sql parameters))
    fun _ => True := by
  apply sends_onDatabase
  rw [Database.queryValue_after]
  exact Database.asked_after (List.forall_mem_singleton.mpr (hsql parameters))

theorem sends_execute : Sends catalog P session (onDatabase (Database.execute sql parameters))
    fun _ => True := by
  obtain ⟨transaction,hafter⟩ := Database.execute_after sql parameters session.database
  apply sends_onDatabase
  rw [hafter]
  exact Database.asked_after (List.forall_mem_singleton.mpr (hsql parameters))

end

theorem sends_build (schemas : List Schema) (outer : Bool) (rows : List Row) :
    Sends catalog P session (build schemas outer rows) fun _ => True :=
  sends_of_eq rfl rfl rfl fun _ _ => trivial

theorem sends_mapM {l : List α} {f : α → Action β} {R : α → β → Prop}
    (h : ∀ a ∈ l, ∀ later, Sends catalog P later (f a) (R a)) :
    Sends catalog P session (l.mapM f) (List.Forall₂ R l) := by
  induction l generalizing session with
  | nil => exact sends_pure .nil
  | cons a l ih =>
    obtain ⟨ha,hl⟩ := List.forall_mem_cons.mp h
    rw [List.mapM_cons]
    refine (ha session).bind fun b hb later => ?_
    refine (ih hl).bind fun bs hbs last => ?_
    exact sends_pure (.cons hb hbs)

theorem sends_optionMapM {o : Option α} {f : α → Action β} {R : α → β → Prop}
    (h : ∀ a, o = some a → Sends catalog P session (f a) (R a)) :
    Sends catalog P session (o.mapM f) (Option.Rel R o) := by
  cases o with
  | none => exact sends_pure .none
  | some a =>
    refine (h a rfl).bind fun b hb later => ?_
    exact sends_pure (.some hb)

end Session
end SealedRows
