import SealedRows.Proofs.Row.RoundTrip
import SealedRows.Proofs.Session.Opens

/-! # All or nothing

A write sends one statement or none. When it fails, whatever the reason, all records are as they were; when
it succeeds, at most the primary key of the written record has changed, to the number that the database told.
-/
namespace SealedRows

/-- An operation that writes a record as rows of its table. -/
inductive Operation.WritesRecord (id : RecordId) : {α : Type} → Operation α → Prop where
  | insert : WritesRecord id (.insert id)
  | insertOrReplace : WritesRecord id (.insertOrReplace id)
  | update (predicate : Value) : WritesRecord id (.call (.update id predicate))

/-- Whether an operation gives the record that it writes the number that the database counted for a
column. -/
def Operation.Counts (session : Session) (c : Column) : {α : Type} → Operation α → Prop
  | _, .insert _ => c.isAutoIncrement
  | _, .insertOrReplace id => c.isAutoIncrement ∧ session.heap.value id c.fieldName = .none
  | _, _ => False

theorem Database.execute_eq (sql : Text) (parameters : List Value) (db : Database) :
    Database.execute sql parameters db =
      match db.replies.headD .empty with
      | .failure message =>
        (.error (.executing sql message),db.after [⟨.statement sql parameters,.rollback⟩])
      | .success rowCount lastRow _ _ =>
        (.ok (rowCount,lastRow),db.after [⟨.statement sql parameters,.commit⟩]) := by
  unfold Database.execute
  rw [bind_of_ok (Database.send_eq (.statement sql parameters) Database.ending db)]
  cases db.replies.headD .empty <;> rfl

namespace Session
variable {α β : Type} {catalog : Catalog} {session later : Session}

/-- What has become of a session after at most one statement. The statement leaves the heap as told by what
the database answers to it. -/
inductive Attempts (session : Session) (Leaves : Option Int → Heap → Prop) :
    Except Fault α × Session → Prop where
  | unsent {result : Except Fault α} {later : Session} (hdatabase : later.database = session.database)
      (hheap : later.heap = session.heap) : Attempts session Leaves (result,later)
  | failed {later : Session} {sql : Text} {parameters : List Value} {message : Text}
      (hreply : session.database.replies.headD .empty = .failure message)
      (hdatabase : later.database =
        session.database.after [⟨.statement sql parameters,.rollback⟩])
      (hheap : later.heap = session.heap) :
      Attempts session Leaves (.error (.storage (.executing sql message)),later)
  | done {a : α} {later : Session} {sql : Text} {parameters : List Value} {rowCount : Int}
      {lastRow : Option Int} {names : List Text} {rows : List (List Value)}
      (hreply : session.database.replies.headD .empty = .success rowCount lastRow names rows)
      (hdatabase : later.database =
        session.database.after [⟨.statement sql parameters,.commit⟩])
      (hheap : Leaves lastRow later.heap) : Attempts session Leaves (.ok a,later)

variable {Leaves : Option Int → Heap → Prop}

theorem Attempts.imp {Other : Option Int → Heap → Prop} {outcome : Except Fault α × Session}
    (h : Attempts session Leaves outcome) (hother : ∀ lastRow heap, Leaves lastRow heap → Other lastRow heap) :
    Attempts session Other outcome := by
  cases h with
  | unsent hdatabase hheap => exact .unsent hdatabase hheap
  | failed hreply hdatabase hheap => exact .failed hreply hdatabase hheap
  | done hreply hdatabase hheap => exact .done hreply hdatabase (hother _ _ hheap)

/-- A first step that changes neither the records nor the database. -/
theorem Attempts.bind {x : Action α} {f : α → Action β}
    (hdatabase : (x session).2.database = session.database) (hheap : (x session).2.heap = session.heap)
    (hf : ∀ a later, x session = (.ok a,later) → Attempts later Leaves (f a later)) :
    Attempts session Leaves ((x >>= f) session) := by
  generalize hrun : x session = outcome at hdatabase hheap
  obtain ⟨result,later⟩ := outcome
  cases result with
  | error fault =>
    rw [bind_of_error hrun]
    exact .unsent hdatabase hheap
  | ok a =>
    rw [bind_of_ok hrun]
    dsimp only at hdatabase hheap
    generalize hlast : f a later = last
    have hattempts := hf a later hrun
    rw [hlast] at hattempts
    cases hattempts with
    | unsent hdatabase' hheap' => exact .unsent (hdatabase'.trans hdatabase) (hheap'.trans hheap)
    | failed hreply hdatabase' hheap' =>
      rw [hdatabase] at hreply hdatabase'
      exact .failed hreply hdatabase' (hheap'.trans hheap)
    | done hreply hdatabase' hheap' =>
      rw [hdatabase] at hreply hdatabase'
      exact .done hreply hdatabase' hheap'

theorem Prepares.attempts_bind {x : Action α} {f : α → Action β} {R : α → Prop}
    (hx : Prepares catalog session x R) (hready : Ready catalog session)
    (hf : ∀ a later, R a → Ready catalog later → Still session later → Attempts later Leaves (f a later)) :
    Attempts session Leaves ((x >>= f) session) := by
  obtain ⟨hlater,hstill,hresult⟩ := hx hready
  refine Attempts.bind hstill.database_eq hstill.heap_eq fun a later hrun => ?_
  rw [hrun] at hlater hstill hresult
  exact hf a later (hresult a rfl) hlater hstill

theorem attempts_rowOf {s : Schema} {id : RecordId} {includeCounted : Bool} {f : Row → Action β}
    (hready : Ready catalog session) (hs : catalog.schemaOf s.record.name = .ok s)
    (hf : ∀ row later, later.heap = session.heap → Attempts later Leaves (f row later)) :
    Attempts session Leaves ((rowOf s id includeCounted >>= f) session) := by
  have hrow := rowOf_eq hready hs id includeCounted
  have hheap : (rowOf s id includeCounted session).2.heap = session.heap := by
    rw [hrow, drawSalt_eq]
  refine Attempts.bind ?_ hheap fun row later hrun => ?_
  · rw [hrow, drawSalt_eq]
  · rw [hrun] at hheap
    exact hf row later hheap

/-- A statement is sent once, and what comes after it can't fail. -/
theorem attempts_execute {sql : Text} {parameters : List Value} {f : Int × Option Int → Action β}
    (hf : ∀ rowCount lastRow later, later.heap = session.heap → ∃ b last,
      f (rowCount,lastRow) later = (.ok b,last) ∧ last.database = later.database ∧ Leaves lastRow last.heap) :
    Attempts session Leaves ((onDatabase (Database.execute sql parameters) >>= f) session) := by
  have hexecute := Database.execute_eq sql parameters session.database
  cases hreply : session.database.replies.headD .empty with
  | failure message =>
    have hrun : onDatabase (Database.execute sql parameters) session =
        (.error (.storage (.executing sql message)),
          { session with database := session.database.after [⟨.statement sql parameters,.rollback⟩] }) := by
      unfold onDatabase
      rw [hexecute, hreply]
      rfl
    rw [bind_of_error hrun]
    exact .failed hreply rfl rfl
  | success rowCount lastRow names rows =>
    have hrun : onDatabase (Database.execute sql parameters) session = (.ok (rowCount,lastRow),
          { session with database := session.database.after [⟨.statement sql parameters,.commit⟩] }) := by
      unfold onDatabase
      rw [hexecute, hreply]
      rfl
    rw [bind_of_ok hrun]
    generalize hlater : { session with database := session.database.after [⟨.statement sql parameters,.commit⟩] } =
      later at hrun ⊢
    obtain ⟨b,last,hlast,hdatabase,hheap⟩ := hf rowCount lastRow later (by rw [← hlater])
    rw [hlast]
    have hsent : last.database = session.database.after [⟨.statement sql parameters,.commit⟩] := by
      rw [hdatabase, ← hlater]
    exact .done hreply hsent hheap

/-- Whether the records are as before, but that one may hold the number of its row in the field of its
primary key, if that counts. -/
def Numbered (catalog : Catalog) (session : Session) (id : RecordId) (counts : Column → Prop)
    (lastRow : Option Int) (heap : Heap) : Prop :=
  heap = session.heap ∨ ∃ r s c n, session.heap[id]? = some r ∧ catalog.schemaOf r.type.name = .ok s ∧
    s.primaryKey = .ok c ∧ counts c ∧ lastRow = some n ∧
      heap = session.heap.assign id c.fieldName (.value (.int n))

theorem Numbered.imp {id : RecordId} {counts other : Column → Prop} {lastRow : Option Int} {heap : Heap}
    (h : Numbered catalog session id counts lastRow heap) (hother : ∀ c, counts c → other c) :
    Numbered catalog session id other lastRow heap := by
  refine Or.imp_right ?_ h
  rintro ⟨r,s,c,n,hr,hs,hc,hcounts,hrest⟩
  exact ⟨r,s,c,n,hr,hs,hc,hother c hcounts,hrest⟩

theorem setCountedKey_eq {s : Schema} {c : Column} (hc : s.primaryKey = .ok c) (id : RecordId) (n : Int)
    (overwrite : Bool) (session : Session) : setCountedKey s id (some n) overwrite session =
      (.ok (),if c.isAutoIncrement && (overwrite || (session.heap.value id c.fieldName).isNone) then
        { session with heap := session.heap.assign id c.fieldName (.value (.int n)) } else session) := by
  unfold setCountedKey
  rw [hc]
  rfl

theorem setCountedKey_none {s : Schema} {c : Column} (hc : s.primaryKey = .ok c) (id : RecordId)
    (overwrite : Bool) (session : Session) :
    setCountedKey s id none overwrite session = (.ok (),session) := by
  unfold setCountedKey
  rw [hc]
  rfl

theorem exists_primaryKey {s : Schema} {r : RecordType} (hs : Schema.ofRecordType catalog r = .ok s) :
    ∃ c, s.primaryKey = .ok c := by
  obtain ⟨hints,hbuilt⟩ := Schema.exists_isSchemaOf hs
  obtain ⟨_,c,_,hc,_⟩ := hbuilt.exists_primaryKey
  exact ⟨c,by rw [Schema.primaryKey, hc]⟩

/-- A record that is written as a new row may get the number of the row. -/
theorem attempts_write (hready : Ready catalog session) (id : RecordId) (replace overwrite : Bool) :
    Attempts session (Numbered catalog session id fun c => c.isAutoIncrement ∧
        (overwrite ∨ session.heap.value id c.fieldName = .none))
      ((do
        let s ← schemaOf id
        let row ← rowOf s id replace
        let sql := Sql.insert s.name (row.map (·.name)) replace
        let (_, lastRow) ← onDatabase (Database.execute sql (row.map (·.value)))
        setCountedKey s id lastRow overwrite : Action Unit) session) := by
  refine (prepares_schemaOf id).attempts_bind hready fun s later hs hlater hstill => ?_
  obtain ⟨r,hr,hs⟩ := hs
  obtain ⟨_,_,hbuilt⟩ := Catalog.schemaOf_eq_ok.mp hs
  obtain ⟨c,hc⟩ := exists_primaryKey hbuilt
  refine attempts_rowOf hlater (Catalog.schemaOf_name hs) fun row drawn hdrawn => ?_
  refine attempts_execute fun rowCount lastRow last hlast => ?_
  have hheap : last.heap = session.heap := hlast.trans (hdrawn.trans hstill.heap_eq)
  cases lastRow with
  | none => exact ⟨(),last,setCountedKey_none hc id overwrite last,rfl,Or.inl hheap⟩
  | some n =>
    refine ⟨(),_,setCountedKey_eq hc id n overwrite last,?_,?_⟩
    · split <;> rfl
    · split
      · next hcounts =>
        rw [Bool.and_eq_true, Bool.or_eq_true, Value.isNone_iff, hheap] at hcounts
        refine Or.inr ⟨r,s,c,n,hr,hs,hc,hcounts,rfl,?_⟩
        rw [← hheap]
      · exact Or.inl hheap

theorem attempts_update (hready : Ready catalog session) (id : RecordId) (predicate : Value) :
    Attempts session (fun _ heap => heap = session.heap) (update id predicate session) := by
  unfold update
  refine (prepares_schemaOf id).attempts_bind hready fun s later hs hlater hstill => ?_
  obtain ⟨r,hr,hs⟩ := hs
  refine (prepares_clauseFor s false predicate).attempts_bind hlater fun clause last _ hlast hmore => ?_
  refine attempts_rowOf hlast (Catalog.schemaOf_name hs) fun row drawn hdrawn => ?_
  have hheap : drawn.heap = session.heap := hdrawn.trans (hmore.heap_eq.trans hstill.heap_eq)
  by_cases hempty : row.isEmpty
  · rw [if_pos hempty]
    exact .unsent rfl rfl
  · rw [if_neg hempty]
    refine attempts_execute fun rowCount lastRow later hlater => ?_
    exact ⟨rowCount,later,rfl,rfl,hlater.trans hheap⟩

theorem Attempts.sent_length_le {action : Action α} (h : Attempts session Leaves (action session)) :
    (session.sent action).length ≤ 1 ∧
      (action session).2.database = session.database.after (session.sent action) := by
  have hsent : ∃ l, (action session).2.database = session.database.after l ∧ l.length ≤ 1 := by
    generalize action session = outcome at h
    cases h with
    | unsent hdatabase => exact ⟨[],hdatabase.trans (Database.after_nil _).symm,Nat.zero_le 1⟩
    | failed _ hdatabase => exact ⟨_,hdatabase,le_rfl⟩
    | done _ hdatabase => exact ⟨_,hdatabase,le_rfl⟩
  obtain ⟨l,hl,hlength⟩ := hsent
  rw [sent_of_after hl]
  exact ⟨hlength,hl⟩

end Session

theorem Heap.content?_assign_of_ne (h : Heap) {id other : RecordId} {field name : Text} {content : Content}
    (hne : other ≠ id ∨ name ≠ field) : (h.assign id field content).content? other name =
      h.content? other name := by
  unfold Heap.content?
  rw [Traversal.getElem?_assign]
  by_cases hid : id = other
  · rw [if_pos hid]
    have hname : name ≠ field := hne.resolve_left (not_not.mpr hid.symm)
    cases h[other]? with
    | none => rfl
    | some r =>
      rw [Option.map_some, Option.bind_some, Option.bind_some, Record.content?_withField, if_neg hname]
  · rw [if_neg hid]

namespace Operation
open Session
variable {α : Type} {catalog : Catalog} {session later : Session} {id : RecordId} {op : Operation α}

theorem attempts_run (hready : Ready catalog session) (hop : op.WritesRecord id) :
    Attempts session (Numbered catalog session id fun c => op.Counts session c) (op.run session) := by
  cases hop with
  | insert =>
    refine (attempts_write hready id false true).imp fun lastRow heap hheap => hheap.imp fun c hc => ?_
    exact hc.1
  | insertOrReplace =>
    refine (attempts_write hready id true false).imp fun lastRow heap hheap => hheap.imp fun c hc => ?_
    exact ⟨hc.1,hc.2.resolve_left nofun⟩
  | update predicate =>
    exact (attempts_update hready id predicate).imp fun lastRow heap hheap => Or.inl hheap

/-- A write sends one statement or none. If it fails, no record has changed, and a statement was sent only if
it is the one that failed. If it returns, at most the primary key of the written record has changed, to the
number that the database told, and only if it counts. -/
theorem run_writesRecord {result : Except Fault α} (hready : Ready catalog session)
    (hop : op.WritesRecord id) (hrun : op.run session = (result,later)) :
    (session.sent op.run).length ≤ 1 ∧ later.database = session.database.after (session.sent op.run) ∧
      (∀ fault, result = .error fault → later.heap = session.heap ∧ (session.sent op.run = [] ∨
        ∃ sql parameters message, session.sent op.run = [⟨.statement sql parameters,.rollback⟩] ∧
          session.database.replies.headD .empty = .failure message ∧
            fault = .storage (.executing sql message))) ∧
      ∀ a, result = .ok a → later.heap = session.heap ∨ ∃ r s c n rowCount names rows,
        session.heap[id]? = some r ∧ catalog.schemaOf r.type.name = .ok s ∧ s.primaryKey = .ok c ∧
          op.Counts session c ∧
            session.database.replies.headD .empty = .success rowCount (some n) names rows ∧
              later.heap = session.heap.assign id c.fieldName (.value (.int n)) ∧
                ∀ other name, other ≠ id ∨ name ≠ c.fieldName →
                  later.heap.content? other name = session.heap.content? other name := by
  have hattempts := attempts_run hready hop
  obtain ⟨hlength,hdatabase⟩ := hattempts.sent_length_le
  rw [hrun] at hattempts hdatabase
  refine ⟨hlength,hdatabase,?_,?_⟩
  · rintro fault rfl
    cases hattempts with
    | unsent hnone hheap =>
      refine ⟨hheap,Or.inl (sent_of_after ?_)⟩
      rw [hrun, Database.after_nil]
      exact hnone
    | @failed _ sql parameters message hreply hsent hheap =>
      refine ⟨hheap,Or.inr ⟨sql,parameters,message,sent_of_after ?_,hreply,rfl⟩⟩
      rw [hrun]
      exact hsent
  · rintro a rfl
    cases hattempts with
    | unsent _ hheap => exact Or.inl hheap
    | @done _ _ _ _ rowCount lastRow names rows hreply _ hheap =>
      refine hheap.imp_right ?_
      rintro ⟨r,s,c,n,hr,hs,hc,hcounts,rfl,hassigned⟩
      refine ⟨r,s,c,n,rowCount,names,rows,hr,hs,hc,hcounts,hreply,hassigned,fun other name hne => ?_⟩
      rw [hassigned]
      exact Heap.content?_assign_of_ne session.heap hne

end Operation
end SealedRows

namespace SealedRows.Note
open Session

/-- A session with one note, the first insertion of which is going to make row seven. -/
def session : Session :=
  { Session.new catalog .des ⟨Database.memory,[.success 1 (some 7) [] []],[]⟩ [] with
    ring := ring
    heap := [⟨Catalog.typeOf none declaration,[("id",.value .none), ("body",.value (.text "Milk"))]⟩] }

set_option maxRecDepth 4000 in
theorem exists_insert : ∃ later, (Operation.insert 0).run session = (.ok (),later) := ⟨_,rfl⟩

theorem insert_writesRecord : ∃ later, (Operation.insert 0).run session = (.ok (),later) ∧
    (session.sent (Operation.insert 0).run).length ≤ 1 ∧
      (later.heap = session.heap ∨ ∃ (c : Column) (n : Int), c.isAutoIncrement ∧
        later.heap = session.heap.assign 0 c.fieldName (.value (.int n))) := by
  obtain ⟨later,hrun⟩ := exists_insert
  have hready : Ready catalog session := ⟨rfl,fun _ he => (List.not_mem_nil he).elim⟩
  obtain ⟨hlength,_,_,hok⟩ := Operation.run_writesRecord hready .insert hrun
  refine ⟨later,hrun,hlength,(hok () rfl).imp_right ?_⟩
  rintro ⟨_,_,c,n,_,_,_,_,_,_,hcounts,_,hheap,_⟩
  exact ⟨c,n,hcounts,hheap⟩

end SealedRows.Note
