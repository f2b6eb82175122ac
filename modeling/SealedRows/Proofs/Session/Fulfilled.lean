import SealedRows.Proofs.Session.Opens

/-! # What operations send

Every operation sends what it means to send or nothing at all, and after it nothing but lookups. Rows are
written and read, counted and joined by the same few steps, so there is one lemma for each way to prepare a
statement.
-/
namespace SealedRows
open Filled

namespace Session
variable {α : Type} {catalog : Catalog} {P : Request → Prop} {session : Session}

/-- Whether an operation first sends what it means to send and then only lookups, or nothing at all. -/
def Fulfils (catalog : Catalog) (session : Session) (i : Intent) (action : Action α) : Prop :=
  Opens catalog (Means (i.Says catalog session)) (Means (Looks catalog)) (i.Idle catalog session) session
    action

/-! ## Writing -/

theorem sends_setCountedKey (s : Schema) (id : RecordId) (lastRow : Option Int) (overwrite : Bool) :
    Sends catalog P session (setCountedKey s id lastRow overwrite) fun _ => True := by
  unfold setCountedKey
  refine (sends_ofExcept .schema _).bind fun key _ later => ?_
  cases lastRow with
  | none => exact sends_pure trivial
  | some n =>
    -- Only the heap may have changed.
    have hrun : ∀ f : Session → Session,
        (modify f : Action Unit) later = (.ok (),f later) := fun _ => rfl
    dsimp only
    refine sends_of_eq ?_ ?_ ?_ fun _ _ => trivial <;> rw [hrun] <;> dsimp only <;> split <;> rfl

theorem fulfils_write (id : RecordId) (replace overwrite : Bool) :
    Fulfils catalog session (.insert id replace) (do
      let s ← schemaOf id
      let row ← rowOf s id replace
      let sql := Sql.insert s.name (row.map (·.name)) replace
      let (_, lastRow) ← onDatabase (Database.execute sql (row.map (·.value)))
      setCountedKey s id lastRow overwrite) := by
  unfold Fulfils
  refine (prepares_schemaOf id).opens_bind fun s hs later hstill => ?_
  refine opens_rowOf (hstill.heap_eq ▸ hs) fun row hrow last => ?_
  refine opens_send (Database.execute_after _ _) ⟨_,.insert (hstill.isRowOf hrow),?_⟩ fun sent _ =>
    sends_setCountedKey s id sent.2 overwrite
  rw [text_insert, parameters_insert]

theorem fulfils_update (id : RecordId) (predicate : Value) :
    Fulfils catalog session (.update id predicate) (update id predicate) := by
  unfold Fulfils update
  refine (prepares_schemaOf id).opens_bind fun s hs later hstill => ?_
  refine (prepares_clauseFor s false predicate).opens_bind fun clause hclause last hmore => ?_
  have hstill := hstill.trans hmore
  refine opens_rowOf (hstill.heap_eq ▸ hs) fun row hrow last => ?_
  by_cases hempty : row.isEmpty
  · rw [if_pos hempty]
    cases List.isEmpty_iff.mp hempty
    exact opens_pure (Intent.Idle.update (hstill.isRowOf hrow))
  · rw [if_neg hempty]
    refine opens_send (Database.execute_after _ _) ⟨_,.update (hstill.isRowOf hrow) hclause,?_⟩
      fun sent _ => sends_pure trivial
    rw [text_update, parameters_update, Clause.text_filled, Clause.parameters_filled]

/-! ## Removing and reading -/

section
variable (typeName field : Text) (predicate v : Value)

theorem fulfils_delete :
    Fulfils catalog session (.delete typeName (.condition predicate)) (delete typeName predicate) := by
  unfold Fulfils delete
  refine (prepares_schemaFor typeName).opens_bind fun s hs later _ => ?_
  refine (prepares_clauseFor s false predicate).opens_bind fun clause hclause last _ => ?_
  refine opens_send (Database.execute_after _ _) ⟨_,.delete hs hclause,?_⟩ fun sent _ => sends_pure trivial
  rw [text_delete, parameters_delete, Clause.text_filled, Clause.parameters_filled]

theorem fulfils_deleteByValue :
    Fulfils catalog session (.delete typeName (.value field v)) (deleteByValue typeName field v) := by
  unfold Fulfils deleteByValue
  refine (prepares_schemaFor typeName).opens_bind fun s hs later _ => ?_
  refine (prepares_ofExcept .query _).opens_bind fun c hc last _ => ?_
  refine (prepares_ofExcept .value _).opens_bind fun ps hps last _ => ?_
  obtain ⟨f,hf,htext,hparameters⟩ := Column.exists_finds hps
  refine opens_send (Database.execute_after _ _)
    ⟨_,.delete hs (.value (resolve?_of_lookupColumn hc) hf),?_⟩ fun sent _ => sends_pure trivial
  rw [text_delete, parameters_delete, htext, hparameters]

theorem says_rows {s : Schema} {rows : Choice} {options : FindOptions} {clause : Filled}
    {orderBy : Option Text} {limit : Option Int} (hs : catalog.schemaOf typeName = .ok s)
    (hclause : rows.Fills s false clause) (horder : options.orderBy.mapM s.orderColumn = .ok orderBy)
    (hlimit : options.limit.mapM checkedLimit = .ok limit) :
    (Intent.select typeName rows [] options).Says catalog session
      (Filled.select s.name (some clause) [] orderBy options.order limit) := by
  have hcolumns : [].mapM s.resolve = .ok [] := rfl
  have hnames : selectedColumns [] = [] := rfl
  rw [← hnames]
  exact .select hs hclause hcolumns horder hlimit

theorem checkedLimit_of_written {limit : Option Value} {n : Option Int}
    (h : limit.mapM writtenLimit = .ok n) : limit.mapM checkedLimit = .ok n := by
  cases limit with
  | none =>
    cases h
    rfl
  | some v =>
    rw [Option.mapM_some] at h ⊢
    obtain ⟨m,hm,h⟩ := map_eq_ok.mp h
    obtain ⟨k,hk,hm⟩ := bind_eq_ok.mp hm
    cases (guard_eq_ok.mp hm).2
    exact map_eq_ok.mpr ⟨m,mapError_eq_ok.mp hk,h⟩

theorem fulfils_find (options : FindOptions) :
    Fulfils catalog session (.select typeName (.condition predicate) [] options)
      (find typeName predicate options) := by
  unfold Fulfils find
  refine (prepares_schemaFor typeName).opens_bind fun s hs later _ => ?_
  refine (prepares_clauseFor s false predicate).opens_bind fun clause hclause last _ => ?_
  refine (prepares_optionMapM .query _ _).opens_bind fun orderBy horder last _ => ?_
  refine (prepares_optionMapM id _ _).opens_bind fun limit hlimit last _ => ?_
  rw [← Clause.text_filled, ← Clause.parameters_filled]
  exact opens_read (Catalog.schemaOf_name hs)
    (means_select (says_rows typeName hs hclause horder (checkedLimit_of_written hlimit)))

theorem fulfils_findByValue :
    Fulfils catalog session (.select typeName (.value field v) [] .plain) (findByValue typeName field v) := by
  unfold Fulfils findByValue
  refine (prepares_schemaFor typeName).opens_bind fun s hs later _ => ?_
  refine (prepares_ofExcept .query _).opens_bind fun c hc last _ => ?_
  refine (prepares_ofExcept .value _).opens_bind fun ps hps last _ => ?_
  obtain ⟨f,hf,htext,hparameters⟩ := Column.exists_finds hps
  rw [← htext, ← hparameters]
  have hclause : (Choice.value field v).Fills s false f := .value (resolve?_of_lookupColumn hc) hf
  exact opens_read (Catalog.schemaOf_name hs) (means_select (says_rows typeName hs hclause rfl rfl))

theorem fulfils_select (fields : List Text) :
    Fulfils catalog session (.select typeName (.condition predicate) fields .plain)
      (select typeName predicate fields) := by
  unfold Fulfils select
  refine (prepares_schemaFor typeName).opens_bind fun s hs later _ => ?_
  by_cases hfields : fields.isEmpty
  · rw [if_pos hfields]
    exact opens_throw
  · rw [if_neg hfields]
    refine (prepares_clauseFor s false predicate).opens_bind fun clause hclause last _ => ?_
    refine (prepares_ofExcept .query _).opens_bind fun columns hcolumns last _ => ?_
    rw [← Clause.text_filled, ← Clause.parameters_filled]
    exact opens_read (Catalog.schemaOf_name hs) (means_select (.select hs hclause hcolumns rfl rfl))

theorem fulfils_selectTop : Fulfils catalog session (.top typeName v) (selectTop typeName v) := by
  unfold Fulfils selectTop
  refine (prepares_schemaFor typeName).opens_bind fun s hs later _ => ?_
  refine (prepares_ofExcept .query _).opens_bind fun n hn last _ => ?_
  refine opens_read (Catalog.schemaOf_name hs) ⟨_,.top hs hn,?_⟩
  rw [text_selectTop, parameters_selectTop]

/-! ## Counting and joining -/

theorem opens_aggregate {s : Schema} (hs : catalog.schemaOf typeName = .ok s) (a : Aggregate)
    {field : Option Text} {column : Text} (hcolumn : s.Counts field column) (asked : Session) :
    Opens catalog (Means ((Intent.aggregate a typeName field predicate).Says catalog asked))
      (Means (Looks catalog)) ((Intent.aggregate a typeName field predicate).Idle catalog asked) session (do
        let (clause, parameters) ← optionalClause s false predicate
        let sql := Sql.aggregate a.name s.name column (a = .countDistinct) clause
        onDatabase (Database.queryValue sql parameters)) := by
  refine (prepares_optionalClause s false predicate).opens_bind fun (text,ps) hclause last _ => ?_
  obtain ⟨clause,hnarrows,rfl,rfl⟩ := hclause
  dsimp only
  rw [← bind_pure (onDatabase _)]
  refine opens_send (fun db => ⟨_,Database.queryValue_after _ _ db⟩)
    ⟨_,.aggregate hs hcolumn hnarrows,?_⟩ fun v _ => sends_pure trivial
  rw [text_narrowed_aggregate, parameters_narrowed]

theorem fulfils_computed (a : Aggregate) (field : Option Text) :
    Fulfils catalog session (.aggregate a typeName field predicate)
      (computed a typeName field predicate) := by
  unfold Fulfils computed
  refine (prepares_schemaFor typeName).opens_bind fun s hs later _ => ?_
  cases field with
  | none => exact opens_aggregate typeName predicate hs a .rows session
  | some field =>
    dsimp only
    rw [map_eq_pure_bind, bind_assoc]
    refine (prepares_ofExcept .query _).opens_bind fun c hc last _ => ?_
    exact opens_aggregate typeName predicate hs a (.column (resolve?_of_aggregateColumn hc)) session

theorem fulfils_counted (a : Aggregate) (field : Option Text) :
    Fulfils catalog session (.aggregate a typeName field predicate)
      (do ofExcept (fun fault => fault) (counted (← computed a typeName field predicate))) :=
  Opens.bind (Q := fun _ => True) (fulfils_computed typeName predicate a field) fun _ _ =>
    (sends_ofExcept _ _).imp fun _ _ => trivial

theorem fulfils_chosen (a : Aggregate) :
    Fulfils catalog session (.aggregate a typeName (some field) predicate)
      (chosen a typeName field predicate) := by
  refine Opens.bind (Q := fun _ => True) (fulfils_computed typeName predicate a (some field))
    fun v later => ?_
  refine (sends_schemaFor typeName).bind fun s _ later => ?_
  refine (sends_ofExcept .query _).bind fun c _ later => ?_
  exact (sends_ofExcept _ _).imp fun _ _ => trivial

theorem fulfils_joinRows (first : Text) (joined : List (Text × JoinFields)) (outer : Bool) :
    Fulfils catalog session (.join first joined predicate outer)
      (joinRows first joined predicate outer) := by
  unfold Fulfils joinRows
  refine (prepares_schemaFor first).opens_bind fun s hs later _ => ?_
  refine (prepares_mapM (R := fun e other => catalog.schemaOf e.1 = .ok other.1 ∧ other.2 = e.2)
    fun e _ later => ?_).opens_bind fun others hothers last _ => ?_
  · refine (prepares_schemaFor e.1).bind fun t ht later => ?_
    exact prepares_pure ⟨ht,rfl⟩
  have hothers : HasSchemas catalog joined others := hothers
  refine (prepares_ofExcept .join _).opens_bind fun conditions hconditions last _ => ?_
  refine (prepares_optionalClause s true predicate).opens_bind fun (text,ps) hclause last _ => ?_
  obtain ⟨clause,hnarrows,rfl,rfl⟩ := hclause
  refine (prepares_ofExcept .join _).opens_bind fun sql hsql last _ => ?_
  obtain ⟨statement,hstatement,rfl⟩ := text_narrowed_join hsql
  refine opens_send (fun db => ⟨_,Database.query_after _ _ db⟩)
    ⟨_,.join hs hothers hconditions hnarrows hstatement,?_⟩ fun rows later => ?_
  · rw [parameters_narrowed]
  refine (sends_build _ outer rows).bind fun records _ later => ?_
  exact (sends_resolve means_lookup fun e he => hothers.schemaOf_of_present hs he).bind
    fun _ _ later => sends_pure trivial

theorem fulfils_join (second : Text) (on : JoinFields) (third : Option Text) (onThird : Option JoinFields)
    (fourth : Option Text) (onFourth : Option JoinFields) {joined : List (Text × JoinFields)}
    (hjoined : joinedTables second on third onThird fourth onFourth = .ok joined) :
    Fulfils catalog session (.join typeName joined predicate false)
      (join typeName second on predicate third onThird fourth onFourth) := by
  unfold join
  rw [hjoined, ofExcept, pure_bind]
  exact fulfils_joinRows predicate typeName joined false

theorem opens_join_of_error (second : Text) (on : JoinFields) (third : Option Text)
    (onThird : Option JoinFields) (fourth : Option Text) (onFourth : Option JoinFields)
    {M L : Request → Prop} {idle : Prop} {fault : QueryFault}
    (hjoined : joinedTables second on third onThird fourth onFourth = .error fault) :
    Opens catalog M L idle session (join typeName second on predicate third onThird fourth onFourth) := by
  unfold join
  rw [hjoined]
  exact opens_throw

end
end Session

namespace Operation
open Session
variable {α : Type} {catalog : Catalog} {session : Session}

/-- Every operation sends first what it means to send and after it only lookups, unless it fails before
that or is idle. -/
theorem opens (op : Operation α) : Opens catalog
    (fun request => ∃ i, op.intent? = some i ∧ Means (i.Says catalog session) request)
    (Means (Looks catalog)) (∃ i, op.intent? = some i ∧ i.Idle catalog session) session op.run := by
  have hsends : ∀ i, op.intent? = some i → Fulfils catalog session i op.run → Opens catalog
      (fun request => ∃ i, op.intent? = some i ∧ Means (i.Says catalog session) request)
      (Means (Looks catalog)) (∃ i, op.intent? = some i ∧ i.Idle catalog session) session op.run :=
    fun i hi h => h.mono (fun _ hmeans => ⟨i,hi,hmeans⟩) fun hidle => ⟨i,hi,hidle⟩
  cases op with
  | insert id => exact hsends _ rfl (fulfils_write id false true)
  | insertOrReplace id => exact hsends _ rfl (fulfils_write id true false)
  | selectTop typeName count => exact hsends _ rfl (fulfils_selectTop typeName count)
  | call c =>
    cases c with
    | find typeName predicate options => exact hsends _ rfl (fulfils_find typeName predicate options)
    | findByValue typeName field v => exact hsends _ rfl (fulfils_findByValue typeName field v)
    | select typeName predicate fields => exact hsends _ rfl (fulfils_select typeName predicate fields)
    | update id predicate => exact hsends _ rfl (fulfils_update id predicate)
    | delete typeName predicate => exact hsends _ rfl (fulfils_delete typeName predicate)
    | deleteByValue typeName field v => exact hsends _ rfl (fulfils_deleteByValue typeName field v)
    | join first second on predicate third onThird fourth onFourth =>
      cases hjoined : joinedTables second on third onThird fourth onFourth with
      | error fault =>
        exact opens_join_of_error first predicate second on third onThird fourth onFourth hjoined
      | ok joined =>
        refine hsends (.join first joined predicate false) ?_
          (fulfils_join first predicate second on third onThird fourth onFourth hjoined)
        simp only [intent?, hjoined]
    | leftJoin left right on predicate =>
      exact hsends _ rfl (fulfils_joinRows predicate left [(right,on)] true)
    | count typeName predicate => exact hsends _ rfl (fulfils_counted typeName predicate .count none)
    | countColumn typeName field predicate =>
      exact hsends _ rfl (fulfils_counted typeName predicate .count (some field))
    | countDistinct typeName field predicate =>
      exact hsends _ rfl (fulfils_counted typeName predicate .countDistinct (some field))
    | max typeName field predicate => exact hsends _ rfl (fulfils_chosen typeName field predicate .max)
    | min typeName field predicate => exact hsends _ rfl (fulfils_chosen typeName field predicate .min)
    | sum typeName field predicate =>
      exact hsends _ rfl (fulfils_computed typeName predicate .sum (some field))
    | average typeName field predicate =>
      exact hsends _ rfl (fulfils_computed typeName predicate .average (some field))

end Operation
end SealedRows
