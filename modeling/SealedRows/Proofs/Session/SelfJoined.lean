import SealedRows.Proofs.Session.Extremes
import SealedRows.Proofs.Session.Fulfilled

/-! # Joins of a table with itself

Every joined table is compared with the first one only. So a table that is joined with itself is refused if
it is the first one, and otherwise the statement names it once for every time it is joined.
-/
namespace SealedRows

namespace Sql

/-! ## The text of a join -/

def joinWord (outer : Bool) : Text := if outer then " LEFT JOIN " else " INNER JOIN "

def joinedTo (outer : Bool) (table condition : Text) : Text :=
  joinWord outer ++ table ++ " ON " ++ condition

/-- The statement that reads the rows of a table, joined with others one by one. -/
def joinText (s : Schema) (others : List Schema) (conditions : List Text) (clause : Option Text)
    (outer : Bool) : Text :=
  "SELECT " ++ listed ((s :: others).flatMap qualifiedColumns) ++ " FROM " ++ s.name
    ++ (List.zipWith (joinedTo outer) (others.map (·.name)) conditions).flatten ++ optional "WHERE" clause

theorem join_eq {s : Schema} {others : List Schema} {conditions : List Text}
    (h : conditions.length = others.length) (clause : Option Text) (outer : Bool) :
    join (s :: others) conditions clause outer = .ok (joinText s others conditions clause outer) := by
  unfold join
  rw [if_neg (by simp [h]), joinText, List.zipWith_map_left]
  rfl

theorem joinClause_self {s t : Schema} (h : s.name = t.name) (field other : Text) :
    joinClause field other s t = .error (.selfJoin s.name) := if_pos h

end Sql

namespace Session
variable {catalog : Catalog} {session : Session} {first : Text} {joined : List (Text × JoinFields)}
  {predicate : Value} {outer : Bool} {s : Schema} {others : List (Schema × JoinFields)}
  {conditions : List Text}

/-! ## The conditions of a join -/

/-- Whether a table can be joined with the first one: it is another table, and both fields are plain columns. -/
def Joinable (s : Schema) (e : Schema × JoinFields) : Prop :=
  s.name ≠ e.1.name ∧ (∃ c, Sql.joinColumn s e.2.first = .ok c) ∧ ∃ c, Sql.joinColumn e.1 e.2.joined = .ok c

theorem joinable_iff {e : Schema × JoinFields} : Joinable s e ↔
    ∃ clause, Sql.joinClause e.2.first e.2.joined s e.1 = .ok clause := by
  unfold Sql.joinClause Joinable
  constructor
  · rintro ⟨hname,⟨c,hc⟩,⟨d,hd⟩⟩
    rw [if_neg hname, hc]
    simp only [bind, Except.bind, hd]
    exact ⟨_,rfl⟩
  · rintro ⟨clause,h⟩
    obtain ⟨hname,h⟩ := guard_eq_ok.mp h
    obtain ⟨c,hc,h⟩ := bind_eq_ok.mp h
    obtain ⟨d,hd,_⟩ := bind_eq_ok.mp h
    exact ⟨hname,⟨c,hc⟩,⟨d,hd⟩⟩

theorem exists_joinClauses (h : ∀ e ∈ others, Joinable s e) :
    ∃ conditions, joinClauses s others = .ok conditions :=
  exists_mapM_ok fun e he => joinable_iff.mp (h e he)

theorem length_joinClauses (h : joinClauses s others = .ok conditions) :
    conditions.length = (others.map (·.1)).length := by
  rw [List.length_map]
  exact (forall₂_of_mapM h).length_eq.symm

theorem joinable_of_joinClauses (h : joinClauses s others = .ok conditions) : ∀ e ∈ others, Joinable s e := by
  intro e he
  obtain ⟨clause,_,hclause⟩ := exists_of_forall₂ (forall₂_of_mapM h) he
  exact joinable_iff.mpr ⟨clause,hclause⟩

theorem not_mem_of_joinClauses (h : joinClauses s others = .ok conditions) :
    s.name ∉ others.map (·.1.name) := by
  intro hmem
  obtain ⟨e,he,hname⟩ := List.mem_map.mp hmem
  exact (joinable_of_joinClauses h e he).1 hname.symm

theorem joinClauses_of_self {front back : List (Schema × JoinFields)} {e : Schema × JoinFields}
    (hfront : ∀ d ∈ front, Joinable s d) (he : e.1.name = s.name) :
    joinClauses s (front ++ e :: back) = .error (.selfJoin s.name) :=
  mapM_append_error (fun d hd => joinable_iff.mp (hfront d hd))
    (Sql.joinClause_self he.symm e.2.first e.2.joined)

/-! ## What a join sends -/

/-- The schemas of the tables of a join. -/
def joinSchemas (first : Text) (joined : List (Text × JoinFields)) :
    Action (Schema × List (Schema × JoinFields)) := do
  let main ← schemaFor first
  let others ← joined.mapM fun (typeName,fields) => do return (← schemaFor typeName, fields)
  return (main,others)

theorem prepares_joinSchemas (first : Text) (joined : List (Text × JoinFields)) :
    Prepares catalog session (joinSchemas first joined) fun r =>
      catalog.schemaOf first = .ok r.1 ∧ HasSchemas catalog joined r.2 := by
  unfold joinSchemas
  refine (prepares_schemaFor first).bind fun s hs later => ?_
  refine (prepares_mapM (R := fun e other => catalog.schemaOf e.1 = .ok other.1 ∧ other.2 = e.2)
    fun e _ later => ?_).bind fun others hothers later => ?_
  · exact (prepares_schemaFor e.1).bind fun t ht later => prepares_pure ⟨ht,rfl⟩
  · exact prepares_pure ⟨hs,hothers⟩

def joinQuery (s : Schema) (others : List (Schema × JoinFields)) (predicate : Value) (outer : Bool) :
    Action (Text × List Value) := do
  let clauses ← ofExcept .join (joinClauses s others)
  let (clause,parameters) ← optionalClause s true predicate
  let sql ← ofExcept .join (Sql.join (s :: others.map (·.1)) clauses clause outer)
  return (sql,parameters)

def joinRead (schemas : List Schema) (outer : Bool) (sql : Text) (parameters : List Value) :
    Action (List (List (Option RecordId))) := do
  let rows ← onDatabase (Database.query sql parameters)
  let records ← build schemas outer rows
  let present (row : List (Option RecordId)) : List (RecordId × Schema) :=
    (List.zip row schemas).filterMap fun (id,s) => id.map fun id => (id,s)
  resolve (records.flatMap present)
  return records

theorem joinRows_eq (first : Text) (joined : List (Text × JoinFields)) (predicate : Value) (outer : Bool) :
    joinRows first joined predicate outer = (do
      let (s,others) ← joinSchemas first joined
      let (sql,parameters) ← joinQuery s others predicate outer
      joinRead (s :: others.map (·.1)) outer sql parameters) := by
  simp only [joinRows, joinSchemas, joinQuery, joinRead, bind_assoc, pure_bind]

theorem joinRead_after (hready : Ready catalog session) (hs : catalog.schemaOf first = .ok s)
    (hothers : HasSchemas catalog joined others) (outer : Bool) (sql : Text) (parameters : List Value) :
    ∃ rest, (joinRead (s :: others.map (·.1)) outer sql parameters session).2.database =
        session.database.after (⟨.statement sql parameters,.none⟩ :: rest) ∧
      ∀ e ∈ rest, Means (Looks catalog) e.request := by
  have hafter := Database.query_after sql parameters session.database
  refine (after_send hready hafter fun rows later => ?_).2
  refine (sends_build _ outer rows).bind fun records _ later => ?_
  refine (sends_resolve means_lookup fun e he => hothers.schemaOf_of_present hs he).bind
    fun _ _ later => sends_pure trivial

theorem joinQuery_eq (s : Schema) (others : List (Schema × JoinFields)) (predicate : Value) (outer : Bool)
    (session : Session) : joinQuery s others predicate outer session = ((do
      let conditions ← (joinClauses s others).mapError .join
      let (clause,parameters) ← (optionalClause s true predicate session).1
      return (Sql.joinText s (others.map (·.1)) conditions clause outer,parameters)),session) := by
  obtain ⟨r,hr⟩ := exists_optionalClause s true predicate
  unfold joinQuery
  cases hconditions : joinClauses s others with
  | error fault => rfl
  | ok conditions =>
    rw [ofExcept, pure_bind, hr]
    cases r with
    | error fault =>
      rw [bind_of_error (hr session)]
      rfl
    | ok r =>
      rw [bind_of_ok (hr session)]
      dsimp only
      rw [Sql.join_eq (length_joinClauses hconditions)]
      rfl

/-- The statement of a join depends on the schemas and the condition alone. -/
theorem joinQuery_still (s : Schema) (others : List (Schema × JoinFields)) (predicate : Value) (outer : Bool)
    (session later : Session) : joinQuery s others predicate outer later =
      ((joinQuery s others predicate outer session).1,later) := by
  obtain ⟨r,hr⟩ := exists_optionalClause s true predicate
  rw [joinQuery_eq, joinQuery_eq, hr later, hr session]

/-- A join sends its statement and after it only lookups, or it fails with what keeps it from being made. -/
theorem joinRows_run (hready : Ready catalog session)
    (hschemas : (joinSchemas first joined session).1 = .ok (s,others)) (predicate : Value) (outer : Bool) :
    match (joinQuery s others predicate outer session).1 with
    | .error fault => (joinRows first joined predicate outer session).1 = .error fault ∧
        session.sent (joinRows first joined predicate outer) = []
    | .ok (sql,parameters) => ∃ rest, session.sent (joinRows first joined predicate outer) =
        ⟨.statement sql parameters,.none⟩ :: rest ∧ ∀ e ∈ rest, Means (Looks catalog) e.request := by
  have hprepares : Prepares catalog session (joinSchemas first joined) _ := prepares_joinSchemas first joined
  obtain ⟨hlater,hstill,hresult⟩ := hprepares hready
  obtain ⟨hs,hothers⟩ := hresult _ hschemas
  rw [joinRows_eq]
  generalize hrun : joinSchemas first joined session = outcome at hschemas hlater hstill
  obtain ⟨result,later⟩ := outcome
  cases hschemas
  have hquery := joinQuery_still s others predicate outer session later
  generalize (joinQuery s others predicate outer session).1 = result at hquery
  cases result with
  | error fault =>
    dsimp only at hstill ⊢
    unfold sent
    rw [bind_of_ok hrun]
    dsimp only
    rw [bind_of_error hquery, hstill.database_eq, List.drop_length]
    exact ⟨rfl,rfl⟩
  | ok query =>
    obtain ⟨rest,hrest,hlookups⟩ := joinRead_after hlater hs hothers outer query.1 query.2
    refine ⟨rest,sent_of_after ?_,hlookups⟩
    rw [bind_of_ok hrun, ← hstill.database_eq]
    dsimp only
    rw [bind_of_ok hquery]
    exact hrest

/-! ## Tables that are joined twice -/

/-- What a call joins to a first table, and on which rows of it. -/
inductive Call.Joins : Call (List (List (Option RecordId))) → Text → List (Text × JoinFields) → Value →
    Bool → Prop where
  | join {first second : Text} {on : JoinFields} {predicate : Value} {third : Option Text}
      {onThird : Option JoinFields} {fourth : Option Text} {onFourth : Option JoinFields}
      {joined : List (Text × JoinFields)}
      (hjoined : joinedTables second on third onThird fourth onFourth = .ok joined) :
      Joins (.join first second on predicate third onThird fourth onFourth) first joined predicate false
  | leftJoin {left right : Text} {on : JoinFields} {predicate : Value} :
      Joins (.leftJoin left right on predicate) left [(right,on)] predicate true

theorem Call.Joins.run_eq {call : Call (List (List (Option RecordId)))}
    (h : call.Joins first joined predicate outer) : call.run = joinRows first joined predicate outer := by
  cases h with
  | leftJoin => rfl
  | join hjoined =>
    rw [Call.run, Session.join, hjoined]
    rfl

theorem joinQuery_of_self {front back : List (Schema × JoinFields)} {e : Schema × JoinFields}
    (hfront : ∀ d ∈ front, Joinable s d) (he : e.1.name = s.name) :
    (joinQuery s (front ++ e :: back) predicate outer session).1 = .error (.join (.selfJoin s.name)) := by
  rw [joinQuery_eq, joinClauses_of_self hfront he]
  rfl

theorem joinQuery_of_mem (h : s.name ∈ others.map (·.1.name)) :
    ∃ fault, (joinQuery s others predicate outer session).1 = .error (.join fault) := by
  rw [joinQuery_eq]
  cases hconditions : joinClauses s others with
  | error fault => exact ⟨fault,rfl⟩
  | ok conditions => exact absurd h (not_mem_of_joinClauses hconditions)

theorem joinQuery_eq_ok {sql : Text} {parameters : List Value} :
    (joinQuery s others predicate outer session).1 = .ok (sql,parameters) ↔
      ∃ conditions clause, joinClauses s others = .ok conditions ∧
        (optionalClause s true predicate session).1 = .ok (clause,parameters) ∧
        sql = Sql.joinText s (others.map (·.1)) conditions clause outer := by
  rw [joinQuery_eq]
  constructor
  · intro h
    obtain ⟨conditions,hconditions,h⟩ := bind_eq_ok.mp h
    obtain ⟨⟨clause,ps⟩,hclause,h⟩ := bind_eq_ok.mp h
    cases h
    exact ⟨conditions,clause,mapError_eq_ok.mp hconditions,hclause,rfl⟩
  · rintro ⟨conditions,clause,hconditions,hclause,rfl⟩
    exact bind_eq_ok.mpr ⟨conditions,mapError_eq_ok.mpr hconditions,bind_eq_ok.mpr ⟨_,hclause,rfl⟩⟩

theorem exists_joinQuery_iff (outer : Bool) :
    (∃ query, (joinQuery s others predicate outer session).1 = .ok query) ↔
      (∀ e ∈ others, Joinable s e) ∧ ∃ r, (optionalClause s true predicate session).1 = .ok r := by
  constructor
  · rintro ⟨⟨sql,parameters⟩,h⟩
    obtain ⟨conditions,clause,hconditions,hclause,_⟩ := joinQuery_eq_ok.mp h
    exact ⟨joinable_of_joinClauses hconditions,_,hclause⟩
  · rintro ⟨hjoinable,⟨clause,parameters⟩,hclause⟩
    obtain ⟨conditions,hconditions⟩ := exists_joinClauses hjoinable
    exact ⟨_,joinQuery_eq_ok.mpr ⟨conditions,clause,hconditions,hclause,rfl⟩⟩

theorem joinRows_sends_iff (hready : Ready catalog session)
    (hschemas : (joinSchemas first joined session).1 = .ok (s,others)) :
    session.sent (joinRows first joined predicate outer) ≠ [] ↔
      (∀ e ∈ others, Joinable s e) ∧ ∃ r, (optionalClause s true predicate session).1 = .ok r := by
  have hrun := joinRows_run hready hschemas predicate outer
  rw [← exists_joinQuery_iff outer]
  cases hquery : (joinQuery s others predicate outer session).1 with
  | error fault =>
    rw [hquery] at hrun
    simp [hrun.2]
  | ok query =>
    rw [hquery] at hrun
    obtain ⟨rest,hsent,_⟩ := hrun
    simp [hsent]

/-- What a join sends first is its statement, in which all tables but the first may be repeated. -/
theorem joinRows_sent (hready : Ready catalog session)
    (hschemas : (joinSchemas first joined session).1 = .ok (s,others)) {entry : LogEntry}
    {rest : List LogEntry} (hsent : session.sent (joinRows first joined predicate outer) = entry :: rest) :
    (∃ conditions clause parameters, joinClauses s others = .ok conditions ∧ entry.request =
        .statement (Sql.joinText s (others.map (·.1)) conditions clause outer) parameters) ∧
      ∀ e ∈ rest, Means (Looks catalog) e.request := by
  have hrun := joinRows_run hready hschemas predicate outer
  cases hquery : (joinQuery s others predicate outer session).1 with
  | error fault =>
    rw [hquery, hsent] at hrun
    cases hrun.2
  | ok query =>
    obtain ⟨sql,parameters⟩ := query
    rw [hquery, hsent] at hrun
    obtain ⟨rest,hfirst,hlookups⟩ := hrun
    cases hfirst
    obtain ⟨conditions,clause,hconditions,_,rfl⟩ := joinQuery_eq_ok.mp hquery
    exact ⟨⟨conditions,clause,parameters,hconditions,rfl⟩,hlookups⟩

/-- A join with the first table is refused before anything is sent. A statement that is sent names the first
table once and every other one as often as it is joined, so no table twice exactly if the joined tables
differ. -/
theorem Call.Joins.sent_eq {call : Call (List (List (Option RecordId)))}
    (h : call.Joins first joined predicate outer) (hready : Ready catalog session)
    (hschemas : (joinSchemas first joined session).1 = .ok (s,others)) :
    (∀ front e back, others = front ++ e :: back → e.1.name = s.name → (∀ d ∈ front, Joinable s d) →
      (call.run session).1 = .error (.join (.selfJoin s.name)) ∧ session.sent call.run = []) ∧
    (s.name ∈ others.map (·.1.name) →
      (∃ fault, (call.run session).1 = .error (.join fault)) ∧ session.sent call.run = []) ∧
    (session.sent call.run ≠ [] ↔
      (∀ e ∈ others, Joinable s e) ∧ ∃ r, (optionalClause s true predicate session).1 = .ok r) ∧
    ∀ entry rest, session.sent call.run = entry :: rest →
      (∃ conditions clause parameters, entry.request =
          .statement (Sql.joinText s (others.map (·.1)) conditions clause outer) parameters ∧
        conditions.length = others.length) ∧
      ((s.name :: others.map (·.1.name)).Nodup ↔ (others.map (·.1.name)).Nodup) ∧
        ∀ e ∈ rest, Means (Looks catalog) e.request := by
  have hrun := joinRows_run hready hschemas predicate outer
  rw [h.run_eq]
  refine ⟨?_,?_,?_,?_⟩
  · rintro front e back rfl he hfront
    rwa [joinQuery_of_self hfront he] at hrun
  · intro hmem
    obtain ⟨fault,hfault⟩ := joinQuery_of_mem hmem
    rw [hfault] at hrun
    exact ⟨⟨fault,hrun.1⟩,hrun.2⟩
  · exact joinRows_sends_iff hready hschemas
  · intro entry rest hsent
    obtain ⟨⟨conditions,clause,parameters,hconditions,hrequest⟩,hlookups⟩ :=
      joinRows_sent hready hschemas hsent
    have hlength := length_joinClauses hconditions
    rw [List.length_map] at hlength
    refine ⟨⟨conditions,clause,parameters,hrequest,hlength⟩,?_,hlookups⟩
    rw [List.nodup_cons]
    exact and_iff_right (not_mem_of_joinClauses hconditions)

end Session

namespace Shelf

def declarations : List TypeDeclaration :=
  let key := some { ColumnOptions.plain with primaryKey := true }
  [⟨"Book",some "books",none,true,
    [⟨"id","int",key,.required,true⟩,⟨"author_id","int",none,.required,true⟩,
      ⟨"editor_id","int",none,.required,true⟩]⟩,
    ⟨"Author",some "authors",none,true,[⟨"id","int",key,.required,true⟩]⟩]

def catalog : Catalog := declarations.map (Catalog.typeOf none)

def empty : Session := .new catalog .aes256 ⟨Database.memory,[],[]⟩ []

def withThird (third : Text) (on : Session.JoinFields) : Session.Call (List (List (Option RecordId))) :=
  .join "Book" "Author" ⟨"author_id","id"⟩ .none (some third) (some on) none none

theorem joins_withThird (third : Text) (on : Session.JoinFields) : (withThird third on).Joins "Book"
    [("Author",⟨"author_id","id"⟩), (third,on)] .none false := .join rfl

theorem ready : Session.Ready catalog empty := Session.ready_new catalog .aes256 _ []

set_option maxRecDepth 8000 in
theorem exists_schemas : ∃ s t : Schema, s.name = "books" ∧
    (Session.joinSchemas "Book" [("Author",⟨"author_id","id"⟩), ("Book",⟨"id","id"⟩)] empty).1 =
      .ok (s,[(t,⟨"author_id","id"⟩), (s,⟨"id","id"⟩)]) ∧
    (Session.joinSchemas "Book" [("Author",⟨"author_id","id"⟩), ("Author",⟨"editor_id","id"⟩)] empty).1 =
      .ok (s,[(t,⟨"author_id","id"⟩), (t,⟨"editor_id","id"⟩)]) ∧
    Session.Joinable s (t,⟨"author_id","id"⟩) ∧ Session.Joinable s (t,⟨"editor_id","id"⟩) :=
  ⟨_,_,rfl,rfl,rfl,⟨by decide,⟨_,rfl⟩,⟨_,rfl⟩⟩,⟨by decide,⟨_,rfl⟩,⟨_,rfl⟩⟩⟩

/-- Books are not joined with themselves, whatever is joined before. -/
theorem books_once : ∃ (s : Schema) (others : List (Schema × Session.JoinFields)),
    (Session.joinSchemas "Book" [("Author",⟨"author_id","id"⟩), ("Book",⟨"id","id"⟩)] empty).1 =
        .ok (s,others) ∧
      ((withThird "Book" ⟨"id","id"⟩).run empty).1 = .error (.join (.selfJoin "books")) ∧
        empty.sent (withThird "Book" ⟨"id","id"⟩).run = [] := by
  obtain ⟨s,t,hname,hschemas,_,hauthor,_⟩ := exists_schemas
  have hrun := (joins_withThird "Book" ⟨"id","id"⟩).sent_eq ready hschemas
  have hself := hrun.1 [(t,⟨"author_id","id"⟩)] (s,⟨"id","id"⟩) [] rfl rfl
    (List.forall_mem_singleton.mpr hauthor)
  rw [hname] at hself
  exact ⟨s,_,hschemas,hself⟩

/-- Authors are joined twice, and the statement is sent. -/
theorem authors_twice : ¬∀ (catalog : Catalog) (session : Session)
    (call : Session.Call (List (List (Option RecordId)))) (first : Text)
    (joined : List (Text × Session.JoinFields)) (predicate : Value) (outer : Bool) (s : Schema)
    (others : List (Schema × Session.JoinFields)), Session.Ready catalog session →
    call.Joins first joined predicate outer →
    (Session.joinSchemas first joined session).1 = .ok (s,others) →
    ¬(s.name :: others.map (·.1.name)).Nodup →
      (∃ table, (call.run session).1 = .error (.join (.selfJoin table))) ∧ session.sent call.run = [] := by
  intro hall
  obtain ⟨s,t,_,_,hschemas,hauthor,heditor⟩ := exists_schemas
  have hjoins := joins_withThird "Author" ⟨"editor_id","id"⟩
  obtain ⟨_,hnothing⟩ := hall catalog empty _ _ _ _ _ _ _ ready hjoins hschemas (by simp)
  have hjoinable := List.forall_mem_cons.mpr ⟨hauthor,List.forall_mem_singleton.mpr heditor⟩
  have hclause : ∃ r, (Session.optionalClause s true .none empty).1 = .ok r := ⟨_,rfl⟩
  obtain ⟨query,hquery⟩ := (Session.exists_joinQuery_iff false).mpr ⟨hjoinable,hclause⟩
  have hrun := Session.joinRows_run ready hschemas .none false
  rw [hquery, ← hjoins.run_eq, hnothing] at hrun
  obtain ⟨_,hsent,_⟩ := hrun
  cases hsent

end Shelf
end SealedRows
