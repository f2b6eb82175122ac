import SealedRows.Proofs.Schema.History
import SealedRows.Proofs.Session.Joined

/-! # Encrypted columns are never compared

All operations that take a condition, a field to look up, to order by, to join or to compute a function
of go through gates of their own. Together they keep encrypted columns away from whatever the database
compares, for names of fields and of columns alike and however deep in a condition they stand.
-/
namespace SealedRows.Session
variable {α : Type} {catalog : Catalog} {session : Session}

/-- An operation that reads, changes or removes rows, with all that it is given. -/
inductive Call : Type → Type where
  | find (typeName : Text) (predicate : Value) (options : FindOptions) : Call (List RecordId)
  | findByValue (typeName field : Text) (v : Value) : Call (List RecordId)
  | select (typeName : Text) (predicate : Value) (fields : List Text) : Call (List RecordId)
  | update (id : RecordId) (predicate : Value) : Call Int
  | delete (typeName : Text) (predicate : Value) : Call Int
  | deleteByValue (typeName field : Text) (v : Value) : Call Int
  | join (first second : Text) (on : JoinFields) (predicate : Value) (third : Option Text)
      (onThird : Option JoinFields) (fourth : Option Text) (onFourth : Option JoinFields) :
      Call (List (List (Option RecordId)))
  | leftJoin (left right : Text) (on : JoinFields) (predicate : Value) :
      Call (List (List (Option RecordId)))
  | count (typeName : Text) (predicate : Value) : Call Int
  | countColumn (typeName field : Text) (predicate : Value) : Call Int
  | countDistinct (typeName field : Text) (predicate : Value) : Call Int
  | max (typeName field : Text) (predicate : Value) : Call Value
  | min (typeName field : Text) (predicate : Value) : Call Value
  | sum (typeName field : Text) (predicate : Value) : Call Value
  | average (typeName field : Text) (predicate : Value) : Call Value

namespace Call

def run : Call α → Action α
  | find typeName predicate options => Session.find typeName predicate options
  | findByValue typeName field v => Session.findByValue typeName field v
  | select typeName predicate fields => Session.select typeName predicate fields
  | update id predicate => Session.update id predicate
  | delete typeName predicate => Session.delete typeName predicate
  | deleteByValue typeName field v => Session.deleteByValue typeName field v
  | join first second on predicate third onThird fourth onFourth =>
    Session.join first second on predicate third onThird fourth onFourth
  | leftJoin left right on predicate => Session.leftJoin left right on predicate
  | count typeName predicate => Session.count typeName predicate
  | countColumn typeName field predicate => Session.countColumn typeName field predicate
  | countDistinct typeName field predicate => Session.countDistinct typeName field predicate
  | max typeName field predicate => Session.max typeName field predicate
  | min typeName field predicate => Session.min typeName field predicate
  | sum typeName field predicate => Session.sum typeName field predicate
  | average typeName field predicate => Session.average typeName field predicate

/-- The record types that a call is about. -/
def typeNames (session : Session) : Call α → List Text
  | find typeName .. | findByValue typeName .. | select typeName .. | delete typeName ..
  | deleteByValue typeName .. | count typeName .. | countColumn typeName .. | countDistinct typeName ..
  | max typeName .. | min typeName .. | sum typeName .. | average typeName .. => [typeName]
  | update id _ => ((session.heap[id]?).map (·.type.name)).toList
  | join first second _ _ third _ fourth _ => first :: second :: (third.toList ++ fourth.toList)
  | leftJoin left right .. => [left, right]

/-- Whether a call compares, orders by or joins an encrypted column, puts one into a function other
than the count of values, or compares a column in its binary layout for a condition. -/
def Reveals (catalog : Catalog) (session : Session) : Call α → Prop
  | find typeName predicate options => catalog.Reveals typeName predicate ∨
      ∃ field, options.orderBy = some field ∧ catalog.Hides typeName field
  | findByValue typeName field _ | deleteByValue typeName field _ => catalog.Hides typeName field
  | select typeName predicate _ | delete typeName predicate | count typeName predicate
  | countColumn typeName _ predicate => catalog.Reveals typeName predicate
  | update id predicate => ∃ r, session.heap[id]? = some r ∧ catalog.Reveals r.type.name predicate
  | join first second on predicate third onThird fourth onFourth => ∃ joined,
      joinedTables second on third onThird fourth onFourth = .ok joined ∧
        JoinReveals catalog first joined predicate
  | leftJoin left right on predicate => JoinReveals catalog left [(right,on)] predicate
  | countDistinct typeName field predicate | max typeName field predicate
  | min typeName field predicate | sum typeName field predicate | average typeName field predicate =>
    catalog.Reveals typeName predicate ∨ catalog.Hides typeName field

theorem map_fst_joinedTables {second : Text} {on : JoinFields} {third fourth : Option Text}
    {onThird onFourth : Option JoinFields} {joined : List (Text × JoinFields)}
    (h : joinedTables second on third onThird fourth onFourth = .ok joined) :
    joined.map (·.1) = second :: (third.toList ++ fourth.toList) := by
  cases third <;> cases onThird <;> cases fourth <;> cases onFourth <;> cases h <;> rfl

theorem guarded_join (first second : Text) (on : JoinFields) (predicate : Value) (third : Option Text)
    (onThird : Option JoinFields) (fourth : Option Text) (onFourth : Option JoinFields) :
    Guarded (∃ joined, joinedTables second on third onThird fourth onFourth = .ok joined ∧
        JoinReveals catalog first joined predicate) catalog
      (first :: second :: (third.toList ++ fourth.toList)) session
      (Session.join first second on predicate third onThird fourth onFourth) := by
  cases hjoined : joinedTables second on third onThird fourth onFourth with
  | error fault =>
    unfold Session.join
    rw [hjoined]
    exact sends_throw
  | ok joined =>
    rw [← map_fst_joinedTables hjoined]
    unfold Session.join
    rw [hjoined, ofExcept, pure_bind]
    exact (guarded_joinRows first joined predicate false).congr (by simp)

theorem guarded (call : Call α) :
    Guarded (call.Reveals catalog session) catalog (call.typeNames session) session call.run := by
  cases call with
  | find typeName predicate options => exact guarded_find typeName predicate options
  | findByValue typeName field v => exact guarded_findByValue typeName field v
  | select typeName predicate fields => exact guarded_select typeName predicate fields
  | update id predicate => exact guarded_update id predicate
  | delete typeName predicate => exact guarded_delete typeName predicate
  | deleteByValue typeName field v => exact guarded_deleteByValue typeName field v
  | join first second on predicate third onThird fourth onFourth =>
    exact guarded_join first second on predicate third onThird fourth onFourth
  | leftJoin left right on predicate => exact guarded_joinRows left [(right,on)] predicate true
  | count typeName predicate => exact (guarded_counted .count typeName none predicate).congr (by simp [Reveals])
  | countColumn typeName field predicate =>
    exact (guarded_counted .count typeName (some field) predicate).congr (by simp [Reveals])
  | countDistinct typeName field predicate =>
    exact (guarded_counted .countDistinct typeName (some field) predicate).congr (by simp [Reveals])
  | max typeName field predicate => exact (guarded_chosen .max typeName field predicate).congr (by simp [Reveals])
  | min typeName field predicate => exact (guarded_chosen .min typeName field predicate).congr (by simp [Reveals])
  | sum typeName field predicate =>
    exact (guarded_computed .sum typeName (some field) predicate).congr (by simp [Reveals])
  | average typeName field predicate =>
    exact (guarded_computed .average typeName (some field) predicate).congr (by simp [Reveals])

/-- Whatever a call is given, it sends only statements that compare plain columns of its own tables and
lookups of the primary keys that references lead to. A call that would need more fails before anything
is sent. -/
theorem run_discreet (hready : Ready catalog session) (call : Call α) :
    Ready catalog (call.run session).2 ∧
      (∃ sent, (call.run session).2.database = session.database.after sent ∧
        ∀ e ∈ sent, Allowed catalog (call.typeNames session) e.request) ∧
      (call.Reveals catalog session →
        (call.run session).2.database = session.database ∧
          ∃ fault, (call.run session).1 = .error fault) := by
  obtain ⟨hlater,hasked,hresult⟩ := call.guarded hready
  refine ⟨hlater,hasked.mono fun _ h => h.2,fun hreveals => ⟨?_,?_⟩⟩
  · exact hasked.eq_of_not fun _ h => h.1 hreveals
  · cases hrun : (call.run session).1 with
    | error fault => exact ⟨fault,rfl⟩
    | ok a => exact absurd hreveals (hresult a hrun)

end Call

theorem ready_new (catalog : Catalog) (algorithm : Algorithm) (database : Database) (salts : List Bytes) :
    Ready catalog (new catalog algorithm database salts) :=
  ⟨rfl,fun _ he => (List.not_mem_nil he).elim⟩

end SealedRows.Session

namespace SealedRows.Safe
open Session

def declarations : List TypeDeclaration :=
  [⟨"Safe",some "safes",none,true,
    [Circle.key, ⟨"code","str",some { ColumnOptions.plain with encrypted := true },.required,true⟩]⟩]

def catalog : Catalog := declarations.map (Catalog.typeOf none)

def session : Session := new catalog .aes256 ⟨Database.memory,[],[]⟩ []

/-- The condition that it is not so that a safe has a positive number and no code. -/
def predicate : Condition Value :=
  .not (.and (.comparison "id" .gt (.int 0)) (.nullCheck "code" true))

def call : Call (List RecordId) := .find "Safe" (.condition predicate) .plain

set_option maxRecDepth 4000 in
theorem reveals : call.Reveals catalog session := by
  have hpredicate : (catalog.schemaOf "Safe").toOption.any fun s => predicate.reveals s := by decide
  cases hs : catalog.schemaOf "Safe" with
  | error fault =>
    rw [hs] at hpredicate
    cases hpredicate
  | ok s =>
    rw [hs] at hpredicate
    exact Or.inl ⟨s,hs,_,predicate,rfl,rfl,hpredicate⟩

/-- The code is not asked for, however the test of it is wrapped. -/
theorem call_refused : call.Reveals catalog session ∧
    (call.run session).2.database = session.database ∧ ∃ fault, (call.run session).1 = .error fault :=
  ⟨reveals,(Call.run_discreet (ready_new catalog .aes256 _ []) call).2.2 reveals⟩

end SealedRows.Safe
