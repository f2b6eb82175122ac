import SealedRows.Condition.Builder
import SealedRows.Proofs.Row.Written
import SealedRows.Proofs.Session.Fetched
import SealedRows.Proofs.Sql.Discreet

/-! # Operations that compare plain columns

Reading, changing, removing, counting and joining rows: whatever an operation is asked for, the
statements that it sends compare plain columns alone. An operation that would need more ends with an
error before anything is sent.
-/
namespace SealedRows

/-- Whether what is given as a condition needs the values of columns that the database can't compare. -/
def Value.Reveals (s : Schema) (predicate : Value) : Prop :=
  ∃ v condition, Session.conditionOf predicate = .ok v ∧ v.asCondition = .ok condition ∧
    condition.reveals s

namespace Catalog
variable {catalog : Catalog} {typeName : Text} {s : Schema}

def Hides (catalog : Catalog) (typeName field : Text) : Prop :=
  ∃ s, catalog.schemaOf typeName = .ok s ∧ s.hides field

/-- Whether a condition on the records of a declared type can't be put to the database. -/
def Reveals (catalog : Catalog) (typeName : Text) (predicate : Value) : Prop :=
  ∃ s, catalog.schemaOf typeName = .ok s ∧ predicate.Reveals s

theorem not_hides (hs : catalog.schemaOf typeName = .ok s) {field : Text} (h : s.hides field = false) :
    ¬catalog.Hides typeName field := by
  rintro ⟨t,ht,hhides⟩
  cases hs.symm.trans ht
  rw [h] at hhides
  cases hhides

theorem not_reveals (hs : catalog.schemaOf typeName = .ok s) {predicate : Value}
    (h : ¬predicate.Reveals s) : ¬catalog.Reveals typeName predicate := by
  rintro ⟨t,ht,hreveals⟩
  cases hs.symm.trans ht
  exact h hreveals

end Catalog

namespace Clause
variable {s : Schema} {qualify : Bool} {clause : Clause}

theorem ofValue_eq_ok {v : Value} (h : ofValue s qualify v = .ok clause) :
    ∃ condition, v.asCondition = .ok condition ∧ ofCondition s qualify condition = .ok clause := by
  cases v with
  | column name => exact ⟨.isTrue name,rfl,h⟩
  | condition c => exact ⟨c,rfl,h⟩
  | _ => cases h

theorem ofValue_spares (hs : (s.columns.map (·.name)).Nodup) {predicate v : Value}
    (hv : Session.conditionOf predicate = .ok v) (h : ofValue s qualify v = .ok clause) :
    clause.Spares s qualify ∧ ¬predicate.Reveals s := by
  obtain ⟨condition,hcondition,h⟩ := ofValue_eq_ok h
  obtain ⟨hspares,hplain⟩ := ofCondition_spares hs h
  refine ⟨hspares,?_⟩
  rintro ⟨w,other,hw,hother,hreveals⟩
  cases hv.symm.trans hw
  cases hcondition.symm.trans hother
  rw [hplain] at hreveals
  cases hreveals

end Clause

namespace Session
variable {α : Type} {catalog : Catalog} {P : Request → Prop} {session : Session} {s : Schema}

theorem sends_clauseFor (hs : (s.columns.map (·.name)).Nodup) (qualify : Bool) (predicate : Value) :
    Sends catalog P session (clauseFor s qualify predicate)
      fun clause => clause.Spares s qualify ∧ ¬predicate.Reveals s := by
  unfold clauseFor
  refine (sends_ofExcept .predicate _).bind fun v hv later => ?_
  refine (sends_ofExcept .query _).imp fun clause hclause => ?_
  exact Clause.ofValue_spares hs hv hclause

theorem sends_optionalClause (hs : (s.columns.map (·.name)).Nodup) (qualify : Bool) (predicate : Value) :
    Sends catalog P session (optionalClause s qualify predicate) fun r =>
      ∃ filter : Option Filter, r.1 = filter.map (·.text) ∧
        (∀ f, filter = some f → f.Spares s qualify) ∧ ¬predicate.Reveals s := by
  unfold optionalClause
  by_cases hnone : predicate.isNone
  · rw [if_pos hnone]
    -- Null is the absence of a condition, which needs nothing.
    refine sends_pure ⟨none,rfl,nofun,?_⟩
    rintro ⟨v,condition,hv,hcondition,_⟩
    cases predicate <;> cases hnone
    cases hv
    cases hcondition
  · rw [if_neg hnone]
    refine (sends_clauseFor hs qualify predicate).bind fun clause hclause later => ?_
    refine sends_pure ⟨some (.condition clause),rfl,?_,hclause.2⟩
    rintro _ ⟨⟩
    exact hclause.1

/-- What an operation for declared types may send: a statement of its own or a lookup of a primary
key. -/
def Allowed (catalog : Catalog) (typeNames : List Text) (request : Request) : Prop :=
  ∃ (st : Statement) (sql : Text) (parameters : List Value), request = .statement sql parameters ∧
    st.Writes sql ∧ (∀ s ∈ st.schemas, catalog.schemaOf s.record.name = .ok s) ∧
      (st.schemas.map (·.record.name) = typeNames ∨ st.IsLookup) ∧ st.NamesStored ∧ st.Discreet

def AllowedUnless (needs : Prop) (catalog : Catalog) (typeNames : List Text) (request : Request) : Prop :=
  ¬needs ∧ Allowed catalog typeNames request

/-- Whether an operation for declared types sends what it may send, and neither sends anything nor gives
a result if it needs what is hidden. -/
def Guarded (needs : Prop) (catalog : Catalog) (typeNames : List Text) (session : Session)
    (action : Action α) : Prop :=
  Sends catalog (AllowedUnless needs catalog typeNames) session action fun _ => ¬needs

theorem Guarded.congr {needs other : Prop} {typeNames : List Text} {action : Action α}
    (h : Guarded needs catalog typeNames session action) (hneeds : needs ↔ other) :
    Guarded other catalog typeNames session action := by
  rw [← propext hneeds]
  exact h

section
variable {needs : Prop} {typeName : Text} (hneeds : ¬needs)
include hneeds

theorem allowed_lookup {typeNames : List Text} (t : Schema) (c : Column)
    (ht : catalog.schemaOf t.record.name = .ok t) (hprimary : t.primaryKey = .ok c)
    (hc : c ∈ t.columns) (hplain : c.isEncrypted = false) (key : Value) (ps : List Value)
    (_ : lookupParameters c key = .ok ps) :
    AllowedUnless needs catalog typeNames (.statement (referenceQuery t c key) ps) := by
  refine ⟨hneeds,.select t (some (.value c.name key)) [] none .ascending (some 1),_,ps,rfl,rfl,?_,?_,
    nofun,?_,nofun⟩
  · exact List.forall_mem_singleton.mpr ht
  · exact Or.inr ⟨t,c,key,hprimary,rfl⟩
  · rintro _ ⟨⟩
    exact Schema.spares_of_mem (Schema.nodup_names_of_schemaOf ht) false hc hplain

theorem allowed_own (hs : catalog.schemaOf typeName = .ok s) (st : Statement) {sql : Text}
    (hschemas : st.schemas = [s]) (hwrites : st.Writes sql) (hstored : st.NamesStored)
    (hdiscreet : st.Discreet) (ps : List Value) : AllowedUnless needs catalog [typeName] (.statement sql ps) := by
  refine ⟨hneeds,st,sql,ps,rfl,hwrites,?_,Or.inl ?_,hstored,hdiscreet⟩
  · rw [hschemas]
    exact List.forall_mem_singleton.mpr (Catalog.schemaOf_name hs)
  · rw [hschemas, List.map_singleton, Catalog.name_of_schemaOf hs]

theorem guarded_read (hs : catalog.schemaOf typeName = .ok s) (st : Statement) {sql : Text}
    (hschemas : st.schemas = [s]) (hwrites : st.Writes sql) (hstored : st.NamesStored)
    (hdiscreet : st.Discreet) (ps : List Value) : Guarded needs catalog [typeName] session (read s sql ps) := by
  have hown := allowed_own hneeds hs st hschemas hwrites hstored hdiscreet
  exact (sends_read (allowed_lookup hneeds) (Catalog.schemaOf_name hs) hown ps).imp fun _ _ => hneeds

end

section
variable (typeName field : Text) (predicate v : Value)

theorem guarded_find (options : FindOptions) :
    Guarded (catalog.Reveals typeName predicate ∨
        ∃ field, options.orderBy = some field ∧ catalog.Hides typeName field) catalog [typeName] session
      (find typeName predicate options) := by
  unfold Guarded find
  refine (sends_schemaFor typeName).bind fun s hs later => ?_
  have hnames := Schema.nodup_names_of_schemaOf hs
  refine (sends_clauseFor hnames false predicate).bind fun clause hclause later => ?_
  refine (sends_optionMapM fun field _ =>
    (sends_ofExcept .query _).imp fun _ => Schema.orderColumn_spares hnames).bind
      fun orderBy horder later => ?_
  refine (sends_optionMapM fun v _ => sends_ofExcept id _).bind fun limit _ later => ?_
  have hneeds : ¬(catalog.Reveals typeName predicate ∨
      ∃ field, options.orderBy = some field ∧ catalog.Hides typeName field) := by
    rintro (hreveals | ⟨field,hfield,hhides⟩)
    · exact Catalog.not_reveals hs hclause.2 hreveals
    · rw [hfield] at horder
      cases horder with
      | some hname => exact Catalog.not_hides hs hname.2 hhides
  refine guarded_read hneeds hs (.select s (some (.condition clause)) [] orderBy options.order limit)
    rfl rfl nofun ⟨?_,?_⟩ _
  · rintro _ ⟨⟩
    exact hclause.1
  · rintro name rfl
    generalize options.orderBy = field at horder
    cases horder with
    | some hname => exact hname.1

theorem guarded_findByValue :
    Guarded (catalog.Hides typeName field) catalog [typeName] session (findByValue typeName field v) := by
  unfold Guarded findByValue
  refine (sends_schemaFor typeName).bind fun s hs later => ?_
  have hnames := Schema.nodup_names_of_schemaOf hs
  refine (sends_ofExcept .query _).bind fun c hc later => ?_
  obtain ⟨hspares,hplain⟩ := lookupColumn_spares hnames hc
  refine (sends_ofExcept .value _).bind fun ps _ later => ?_
  refine guarded_read (Catalog.not_hides hs hplain) hs
    (.select s (some (.value c.name v)) [] none .ascending none) rfl rfl nofun ⟨?_,nofun⟩ _
  rintro _ ⟨⟩
  exact hspares

theorem guarded_select (fields : List Text) :
    Guarded (catalog.Reveals typeName predicate) catalog [typeName] session
      (select typeName predicate fields) := by
  unfold Guarded select
  refine (sends_schemaFor typeName).bind fun s hs later => ?_
  have hnames := Schema.nodup_names_of_schemaOf hs
  by_cases hfields : fields.isEmpty
  · rw [if_pos hfields]
    exact sends_throw
  · rw [if_neg hfields]
    refine (sends_clauseFor hnames false predicate).bind fun clause hclause later => ?_
    refine (sends_ofExcept .query _).bind fun columns hcolumns later => ?_
    have hstored := selectedColumns_stored (Schema.hasEncryptedColumns_of_schemaOf hs) hcolumns
    refine guarded_read (Catalog.not_reveals hs hclause.2) hs (.select s (some (.condition clause))
      (selectedColumns columns) none .ascending none) rfl rfl hstored ⟨?_,nofun⟩ _
    rintro _ ⟨⟩
    exact hclause.1

theorem guarded_delete :
    Guarded (catalog.Reveals typeName predicate) catalog [typeName] session
      (delete typeName predicate) := by
  unfold Guarded delete
  refine (sends_schemaFor typeName).bind fun s hs later => ?_
  have hnames := Schema.nodup_names_of_schemaOf hs
  refine (sends_clauseFor hnames false predicate).bind fun clause hclause later => ?_
  have hneeds := Catalog.not_reveals hs hclause.2
  refine (sends_execute (allowed_own hneeds hs (.delete s (.condition clause)) rfl rfl
    trivial hclause.1)).bind fun count _ later => ?_
  exact sends_pure hneeds

theorem guarded_deleteByValue :
    Guarded (catalog.Hides typeName field) catalog [typeName] session
      (deleteByValue typeName field v) := by
  unfold Guarded deleteByValue
  refine (sends_schemaFor typeName).bind fun s hs later => ?_
  have hnames := Schema.nodup_names_of_schemaOf hs
  refine (sends_ofExcept .query _).bind fun c hc later => ?_
  obtain ⟨hspares,hplain⟩ := lookupColumn_spares hnames hc
  have hneeds := Catalog.not_hides hs hplain
  refine (sends_ofExcept .value _).bind fun ps _ later => ?_
  refine (sends_execute (allowed_own hneeds hs (.delete s (.value c.name v)) rfl rfl
    trivial hspares)).bind fun count _ later => ?_
  exact sends_pure hneeds

end

theorem sends_schemaOf (id : RecordId) : Sends catalog P session (schemaOf id) fun s =>
    ∃ r, session.heap[id]? = some r ∧ catalog.schemaOf r.type.name = .ok s := by
  unfold schemaOf
  refine sends_get.bind fun current hcurrent later => ?_
  obtain ⟨rfl,_⟩ := hcurrent
  cases hr : current.heap[id]? with
  | none => exact sends_throw
  | some r => exact (sends_schemaFor r.type.name).imp fun s hs => ⟨r,rfl,hs⟩

theorem sends_rowOf (hs : catalog.schemaOf s.record.name = .ok s) (id : RecordId) (includeCounted : Bool) :
    Sends catalog P session (rowOf s id includeCounted) fun row =>
      ∀ name ∈ row.map (·.name), name ∈ s.storageColumnNames := by
  unfold rowOf
  have hsalt : ∀ session, Sends catalog P session (drawSalt s) fun _ => True := by
    intro session
    cases hencrypted : s.hasEncryptedColumns <;>
      exact sends_of_eq (by simp [drawSalt, hencrypted]) (by simp [drawSalt, hencrypted])
        (by simp [drawSalt, hencrypted]) fun _ _ => trivial
  refine (hsalt session).bind fun salt _ later => ?_
  refine sends_get.bind fun current ⟨_,hready⟩ later => ?_
  refine (sends_ofExcept _ _).imp fun row hrow => ?_
  -- A row is written with what is registered, and that is what the type declares.
  have hentry := schema_entryOf hready.built hs
  rw [Row.names_encode hrow, hentry, Schema.storageColumnNames]
  intro name hname
  rcases List.mem_append.mp hname with hname | hname
  · exact List.mem_append_left _ ((List.filter_sublist.map _).subset hname)
  · exact List.mem_append_right _ hname

theorem guarded_update (id : RecordId) (predicate : Value) :
    Guarded (∃ r, session.heap[id]? = some r ∧ catalog.Reveals r.type.name predicate) catalog
      ((session.heap[id]?).map (·.type.name)).toList session (update id predicate) := by
  unfold Guarded update
  refine (sends_schemaOf id).bind fun s ⟨r,hr,hs⟩ later => ?_
  have hnames := Schema.nodup_names_of_schemaOf hs
  refine (sends_clauseFor hnames false predicate).bind fun clause hclause later => ?_
  have hneeds : ¬∃ r, session.heap[id]? = some r ∧ catalog.Reveals r.type.name predicate := by
    rintro ⟨other,hother,hreveals⟩
    cases hr.symm.trans hother
    exact Catalog.not_reveals hs hclause.2 hreveals
  refine (sends_rowOf (Catalog.schemaOf_name hs) id false).bind fun row hstored later => ?_
  by_cases hrow : row.isEmpty
  · rw [if_pos hrow]
    exact sends_pure hneeds
  · have hown := allowed_own hneeds hs (.update s (row.map Cell.name) (.condition clause)) rfl rfl
      hstored hclause.1
    have htypes : ((session.heap[id]?).map (·.type.name)).toList = [r.type.name] := by
      rw [hr]
      rfl
    rw [if_neg hrow, htypes]
    refine (sends_execute hown).bind fun count _ later => ?_
    exact sends_pure hneeds

theorem sends_aggregate {typeName : Text} {needs : Prop} (hs : catalog.schemaOf typeName = .ok s)
    (a : Aggregate) (column : Option Text) {predicate : Value}
    (hstored : ∀ name, column = some name → name ∈ s.columns.map (·.name))
    (hcolumn : a ≠ .count → ∀ name, column = some name → s.Spares false name)
    (hneeds : ¬predicate.Reveals s → ¬needs) :
    Sends catalog (AllowedUnless needs catalog [typeName]) session (do
      let (clause, parameters) ← optionalClause s false predicate
      let sql := Sql.aggregate a.name s.name (column.getD "*") (a = .countDistinct) clause
      onDatabase (Database.queryValue sql parameters)) fun _ => ¬needs := by
  have hnames := Schema.nodup_names_of_schemaOf hs
  refine (sends_optionalClause hnames false predicate).bind fun (text,ps) hclause later => ?_
  obtain ⟨filter,hfilter,hspares,hplain⟩ := hclause
  have hneeds := hneeds hplain
  have hwrites : (Statement.aggregate s a column filter).Writes
      (Sql.aggregate a.name s.name (column.getD "*") (a = .countDistinct) text) := by
    rw [Statement.Writes, ← hfilter]
  have hown := allowed_own hneeds hs (.aggregate s a column filter) rfl hwrites hstored ⟨hspares,hcolumn⟩
  exact (sends_queryValue hown).imp fun _ _ => hneeds

theorem guarded_computed (a : Aggregate) (typeName : Text) (field : Option Text) (predicate : Value) :
    Guarded (catalog.Reveals typeName predicate ∨
        a ≠ .count ∧ ∃ f, field = some f ∧ catalog.Hides typeName f) catalog [typeName] session
      (computed a typeName field predicate) := by
  unfold Guarded computed
  refine (sends_schemaFor typeName).bind fun s hs later => ?_
  cases field with
  | none =>
    refine sends_aggregate hs a none nofun (fun _ => nofun) fun hplain => ?_
    rintro (hreveals | ⟨_,_,hfield,_⟩)
    · exact Catalog.not_reveals hs hplain hreveals
    · cases hfield
  | some field =>
    dsimp only
    rw [map_eq_pure_bind, bind_assoc]
    refine (sends_ofExcept .query _).bind fun c hc later => ?_
    have hcolumn := aggregateColumn_spares (Schema.nodup_names_of_schemaOf hs) hc
    refine sends_aggregate hs a (some c.name) ?_ ?_ fun hplain => ?_
    · rintro _ ⟨⟩
      exact List.mem_map_of_mem (Schema.mem_of_resolve? (resolve?_of_aggregateColumn hc))
    · rintro ha _ ⟨⟩
      exact (hcolumn ha).1
    · rintro (hreveals | ⟨ha,_,⟨⟩,hhides⟩)
      · exact Catalog.not_reveals hs hplain hreveals
      · exact Catalog.not_hides hs (hcolumn ha).2 hhides

theorem guarded_counted (a : Aggregate) (typeName : Text) (field : Option Text) (predicate : Value) :
    Guarded (catalog.Reveals typeName predicate ∨
        a ≠ .count ∧ ∃ f, field = some f ∧ catalog.Hides typeName f) catalog [typeName] session
      (do ofExcept (fun fault => fault) (counted (← computed a typeName field predicate))) := by
  refine (guarded_computed a typeName field predicate).bind fun v hneeds later => ?_
  exact (sends_ofExcept _ _).imp fun _ _ => hneeds

theorem guarded_chosen (a : Aggregate) (typeName field : Text) (predicate : Value) :
    Guarded (catalog.Reveals typeName predicate ∨
        a ≠ .count ∧ ∃ f, some field = some f ∧ catalog.Hides typeName f) catalog [typeName] session
      (chosen a typeName field predicate) := by
  unfold Guarded chosen
  refine (guarded_computed a typeName (some field) predicate).bind fun v hneeds later => ?_
  refine (sends_schemaFor typeName).bind fun s _ later => ?_
  refine (sends_ofExcept .query _).bind fun c _ later => ?_
  exact (sends_ofExcept _ _).imp fun _ _ => hneeds

end Session
end SealedRows
