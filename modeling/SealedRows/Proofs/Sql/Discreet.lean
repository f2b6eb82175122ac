import SealedRows.Proofs.Lookup
import SealedRows.Proofs.Sql.Meaning
import SealedRows.Session.Aggregate
import SealedRows.Session.Read
import SealedRows.Sql.Join

/-! # Statements that compare plain columns

A statement names columns where it chooses rows, orders them, joins them or computes a function of
them. None of these names is that of an encrypted column, and the clause of a condition compares no
column that is stored in its binary layout: the gates in front of each of these places refuse what
would need it.
-/
namespace SealedRows

namespace Schema
variable {s : Schema} {field : Text} {c : Column}

def hides (s : Schema) (field : Text) : Bool := (s.resolve? field).any (·.isEncrypted)

def storesBlob (s : Schema) (field : Text) : Bool := (s.resolve? field).any (·.isBlobStored)

/-- Whether a name in a statement is that of a plain column and of no encrypted one. -/
structure Spares (s : Schema) (qualify : Bool) (name : Text) : Prop where
  plain : ∃ c ∈ s.columns, Clause.nameOf s qualify c = name ∧ c.isEncrypted = false
  encrypted : ∀ c ∈ s.columns, c.isEncrypted → Clause.nameOf s qualify c ≠ name

theorem storesBlob_of_resolve? (h : s.resolve? field = some c) :
    s.storesBlob field = c.isBlobStored := by
  rw [storesBlob, h, Option.any_some]

theorem eq_of_nameOf (hs : (s.columns.map (·.name)).Nodup) {qualify : Bool} {d : Column}
    (hc : c ∈ s.columns) (hd : d ∈ s.columns)
    (h : Clause.nameOf s qualify c = Clause.nameOf s qualify d) : c = d := by
  have hname : c.name = d.name := by
    cases qualify with
    | false => exact h
    | true => exact List.append_cancel_left h
  exact List.inj_on_of_nodup_map hs hc hd hname

theorem spares_of_mem (hs : (s.columns.map (·.name)).Nodup) (qualify : Bool) (hc : c ∈ s.columns)
    (hplain : c.isEncrypted = false) : s.Spares qualify (Clause.nameOf s qualify c) := by
  refine ⟨⟨c,hc,rfl,hplain⟩,?_⟩
  intro d hd hencrypted hname
  cases eq_of_nameOf hs hd hc hname
  rw [hplain] at hencrypted
  cases hencrypted

/-- A gate that refuses encrypted columns lets the names of plain ones through. -/
theorem spares_of_resolve? (hs : (s.columns.map (·.name)).Nodup) (qualify : Bool)
    (h : s.resolve? field = some c) (hplain : ¬c.isEncrypted = true) :
    s.Spares qualify (Clause.nameOf s qualify c) ∧ s.hides field = false := by
  have hplain := Bool.eq_false_iff.mpr hplain
  refine ⟨spares_of_mem hs qualify (mem_of_resolve? h) hplain,?_⟩
  rw [hides, h, Option.any_some, hplain]

theorem orderColumn_spares (hs : (s.columns.map (·.name)).Nodup) {name : Text}
    (h : s.orderColumn field = .ok name) : s.Spares false name ∧ s.hides field = false := by
  obtain ⟨c,hc,h⟩ := bind_eq_ok.mp h
  have hc := resolve_eq_ok.mp hc
  split at h
  · cases h
  · rename_i hplain
    cases h
    exact spares_of_resolve? hs false hc hplain

end Schema

def Condition.reveals (s : Schema) : Condition Value → Bool
  | .comparison field _ v => s.hides field || !v.isNone && s.storesBlob field
  | .nullCheck field _ => s.hides field
  | .isTrue field => s.hides field || s.storesBlob field
  | .and left right | .or left right => left.reveals s || right.reveals s
  | .not operand => operand.reveals s
  | .bare | .misfit _ => false

namespace Clause
variable {s : Schema} {qualify : Bool}

def compared : Clause → List Text
  | isNull _ | isNotNull _ => []
  | compare column _ _ | isTrue column => [column]
  | and left right | or left right => left.compared ++ right.compared
  | not operand => operand.compared

/-- Whether a clause names only plain columns and compares none that is stored in its binary layout. -/
structure Spares (s : Schema) (qualify : Bool) (clause : Clause) : Prop where
  columns : ∀ name ∈ clause.columns, s.Spares qualify name
  compared : ∀ name ∈ clause.compared, ∀ c ∈ s.columns, c.isBlobStored → nameOf s qualify c ≠ name

theorem Spares.joined {left right clause : Clause} (hl : left.Spares s qualify)
    (hr : right.Spares s qualify) (hcolumns : clause.columns = left.columns ++ right.columns)
    (hcompared : clause.compared = left.compared ++ right.compared) : clause.Spares s qualify := by
  constructor
  · intro name hname
    rw [hcolumns] at hname
    rcases List.mem_append.mp hname with hname | hname
    · exact hl.columns name hname
    · exact hr.columns name hname
  · intro name hname
    rw [hcompared] at hname
    rcases List.mem_append.mp hname with hname | hname
    · exact hl.compared name hname
    · exact hr.compared name hname

theorem leafColumn_spares (hs : (s.columns.map (·.name)).Nodup) (qualify : Bool) {field : Text}
    {c : Column} (h : leafColumn s field = .ok c) :
    c ∈ s.columns ∧ s.Spares qualify (nameOf s qualify c) ∧ s.hides field = false := by
  have hc := resolve?_of_leafColumn h
  obtain ⟨d,hd,h⟩ := bind_eq_ok.mp h
  split at h
  · cases h
  · rename_i hplain
    cases h
    exact ⟨Schema.mem_of_resolve? hc,Schema.spares_of_resolve? hs qualify hc hplain⟩

theorem spares_of_test (clause : Clause) {name : Text} (hname : s.Spares qualify name)
    (hcolumns : clause.columns = [name]) (hcompared : clause.compared = []) :
    clause.Spares s qualify := by
  constructor
  · rw [hcolumns]
    exact List.forall_mem_singleton.mpr hname
  · rw [hcompared]
    exact nofun

theorem spares_of_comparable (hs : (s.columns.map (·.name)).Nodup) (clause : Clause) {c : Column}
    (hc : c ∈ s.columns) (hname : s.Spares qualify (nameOf s qualify c))
    (hcomparable : checkComparable s c = .ok ())
    (hcolumns : clause.columns = [nameOf s qualify c])
    (hcompared : clause.compared = [nameOf s qualify c]) :
    clause.Spares s qualify ∧ c.isBlobStored = false := by
  have hblob : c.isBlobStored = false := by
    unfold checkComparable at hcomparable
    split at hcomparable
    · cases hcomparable
    · rename_i hblob
      exact Bool.eq_false_iff.mpr hblob
  refine ⟨⟨?_,?_⟩,hblob⟩
  · rw [hcolumns]
    exact List.forall_mem_singleton.mpr hname
  · rw [hcompared]
    refine List.forall_mem_singleton.mpr fun d hd hstored hsame => ?_
    cases Schema.eq_of_nameOf hs hd hc hsame
    rw [hblob] at hstored
    cases hstored

theorem ofComparison_spares (hs : (s.columns.map (·.name)).Nodup) {field : Text} {op : Operator}
    {v : Value} {clause : Clause} (h : ofComparison s qualify field op v = .ok clause) :
    clause.Spares s qualify ∧ (Condition.comparison field op v).reveals s = false := by
  obtain ⟨c,hleaf,h⟩ := bind_eq_ok.mp h
  obtain ⟨hc,hname,hplain⟩ := leafColumn_spares hs qualify hleaf
  have hresolve := resolve?_of_leafColumn hleaf
  rw [Condition.reveals, hplain, Bool.false_or]
  cases v with
  | none =>
    cases op with
    | eq =>
      cases h
      exact ⟨spares_of_test _ hname rfl rfl,rfl⟩
    | ne =>
      cases h
      exact ⟨spares_of_test _ hname rfl rfl,rfl⟩
    | _ => cases h
  | _ =>
    obtain ⟨_,hcomparable,h⟩ := bind_eq_ok.mp h
    split at h
    · cases h
      obtain ⟨hspares,hblob⟩ := spares_of_comparable hs (.compare _ op _) hc hname hcomparable rfl rfl
      refine ⟨hspares,?_⟩
      rw [Schema.storesBlob_of_resolve? hresolve, hblob, Bool.and_false]
    · split at h <;> cases h

/-- The clause of a condition compares plain columns, and a condition that needs others has none. -/
theorem ofCondition_spares (hs : (s.columns.map (·.name)).Nodup) {condition : Condition Value}
    {clause : Clause} (h : ofCondition s qualify condition = .ok clause) :
    clause.Spares s qualify ∧ condition.reveals s = false := by
  induction condition generalizing clause with
  | comparison field op v => exact ofComparison_spares hs h
  | nullCheck field null =>
    obtain ⟨c,hleaf,h⟩ := bind_eq_ok.mp h
    obtain ⟨_,hname,hplain⟩ := leafColumn_spares hs qualify hleaf
    refine ⟨?_,hplain⟩
    cases null with
    | true =>
      cases h
      exact spares_of_test _ hname rfl rfl
    | false =>
      cases h
      exact spares_of_test _ hname rfl rfl
  | isTrue field =>
    obtain ⟨c,hleaf,h⟩ := bind_eq_ok.mp h
    obtain ⟨_,hcomparable,h⟩ := bind_eq_ok.mp h
    obtain ⟨hc,hname,hplain⟩ := leafColumn_spares hs qualify hleaf
    split at h
    · cases h
      obtain ⟨hspares,hblob⟩ := spares_of_comparable hs (.isTrue _) hc hname hcomparable rfl rfl
      refine ⟨hspares,?_⟩
      rw [Condition.reveals, hplain, Schema.storesBlob_of_resolve? (resolve?_of_leafColumn hleaf), hblob]
      rfl
    · cases h
  | and left right ihl ihr | or left right ihl ihr =>
    obtain ⟨l,hl,h⟩ := bind_eq_ok.mp h
    obtain ⟨r,hr,h⟩ := bind_eq_ok.mp h
    cases h
    obtain ⟨hl,hleft⟩ := ihl hl
    obtain ⟨hr,hright⟩ := ihr hr
    refine ⟨hl.joined hr rfl rfl,?_⟩
    rw [Condition.reveals, hleft, hright, Bool.or_false]
  | not operand ih =>
    obtain ⟨o,ho,h⟩ := bind_eq_ok.mp h
    cases h
    obtain ⟨ho,hoperand⟩ := ih ho
    exact ⟨⟨ho.columns,ho.compared⟩,hoperand⟩
  | bare => cases h
  | misfit v => cases h

end Clause

inductive Filter where
  | condition (clause : Clause)
  /-- A column holds a value. -/
  | value (column : Text) (v : Value)

namespace Filter

def text : Filter → Text
  | condition clause => clause.toSql
  | value column v => Sql.valueCondition column v

def Spares (s : Schema) (qualify : Bool) : Filter → Prop
  | condition clause => clause.Spares s qualify
  | value column _ => s.Spares qualify column

end Filter

/-- The parts of a statement that reads, changes or removes rows of declared types. A join names the
columns of the first table and those of the others that equal them. -/
inductive Statement where
  | select (s : Schema) (filter : Option Filter) (columns : List Text) (orderBy : Option Text)
      (order : SortOrder) (limit : Option Int)
  | update (s : Schema) (columns : List Text) (filter : Filter)
  | delete (s : Schema) (filter : Filter)
  | aggregate (s : Schema) (function : Aggregate) (column : Option Text) (filter : Option Filter)
  | join (s : Schema) (others : List (Schema × Text × Text)) (filter : Option Filter) (outer : Bool)

namespace Statement

def schemas : Statement → List Schema
  | select s .. | update s .. | delete s .. | aggregate s .. => [s]
  | join s others .. => s :: others.map (·.1)

def joinClause (s : Schema) (other : Schema × Text × Text) : Text :=
  s.name ++ "." ++ other.2.1 ++ " = " ++ other.1.name ++ "." ++ other.2.2

/-- Whether a text is the statement of the given parts. -/
def Writes : Statement → Text → Prop
  | select s filter columns orderBy order limit, sql =>
    sql = Sql.select s.name (filter.map (·.text)) columns orderBy order limit
  | update s columns filter, sql => sql = Sql.update s.name columns filter.text
  | delete s filter, sql => sql = Sql.delete s.name filter.text
  | aggregate s function column filter, sql =>
    sql = Sql.aggregate function.name s.name (column.getD "*") (function = .countDistinct)
      (filter.map (·.text))
  | join s others filter outer, sql =>
    Sql.join (s :: others.map (·.1)) (others.map (joinClause s)) (filter.map (·.text)) outer = .ok sql

def NamesStored : Statement → Prop
  | select s _ columns .. | update s columns _ => ∀ name ∈ columns, name ∈ s.storageColumnNames
  | aggregate s _ column _ => ∀ name, column = some name → name ∈ s.columns.map (·.name)
  | delete .. | join .. => True

/-- Whether no encrypted column is compared, ordered by, joined or put into a function other than the
count of values, and no column in its binary layout is compared for a condition. A join names columns
with their tables, and no other table has the name of the first one. -/
def Discreet : Statement → Prop
  | select s filter _ orderBy _ _ =>
    (∀ f, filter = some f → f.Spares s false) ∧ ∀ name, orderBy = some name → s.Spares false name
  | update s _ filter | delete s filter => filter.Spares s false
  | aggregate s function column filter =>
    (∀ f, filter = some f → f.Spares s false) ∧
      (function ≠ .count → ∀ name, column = some name → s.Spares false name)
  | join s others filter _ =>
    (∀ f, filter = some f → f.Spares s true) ∧
      ∀ other ∈ others, s.name ≠ other.1.name ∧ s.Spares false other.2.1 ∧ other.1.Spares false other.2.2

/-- Whether a statement looks up the row of a primary key, as references are resolved. -/
def IsLookup (st : Statement) : Prop :=
  ∃ s c key, s.primaryKey = .ok c ∧
    st = .select s (some (.value c.name key)) [] none .ascending (some 1)

end Statement

namespace Sql
variable {s t : Schema} {field other : Text}

theorem joinColumn_spares (hs : (s.columns.map (·.name)).Nodup) {c : Column}
    (h : joinColumn s field = .ok c) : s.Spares false c.name ∧ s.hides field = false := by
  unfold joinColumn at h
  split at h
  · cases h
  · rename_i d hd
    split at h
    · cases h
    · rename_i hplain
      cases h
      exact Schema.spares_of_resolve? hs false hd hplain

theorem joinClause_spares (hs : (s.columns.map (·.name)).Nodup) (ht : (t.columns.map (·.name)).Nodup)
    {clause : Text} (h : joinClause field other s t = .ok clause) :
    ∃ own joined, clause = Statement.joinClause s (t,own,joined) ∧
      (s.name ≠ t.name ∧ s.Spares false own ∧ t.Spares false joined) ∧
        s.hides field = false ∧ t.hides other = false := by
  unfold joinClause at h
  split at h
  · cases h
  · rename_i hdifferent
    obtain ⟨c,hc,h⟩ := bind_eq_ok.mp h
    obtain ⟨d,hd,h⟩ := bind_eq_ok.mp h
    cases h
    obtain ⟨hown,hfield⟩ := joinColumn_spares hs hc
    obtain ⟨hjoined,hother⟩ := joinColumn_spares ht hd
    exact ⟨c.name,d.name,rfl,⟨hdifferent,hown,hjoined⟩,hfield,hother⟩

end Sql

namespace Session
variable {s : Schema} {field : Text} {c : Column}

theorem selectedColumns_stored (hs : s.hasEncryptedColumns = s.columns.any (·.isEncrypted))
    {fields : List Text} {columns : List Column} (h : fields.mapM s.resolve = .ok columns) :
    ∀ name ∈ selectedColumns columns, name ∈ s.storageColumnNames := by
  have hcolumns : ∀ c ∈ columns, c ∈ s.columns := by
    intro c hc
    obtain ⟨field,_,hfield⟩ := exists_of_forall₂ (forall₂_of_mapM h).flip hc
    exact Schema.mem_of_resolve? (Schema.resolve_eq_ok.mp hfield)
  intro name hname
  rcases List.mem_append.mp hname with hname | hname
  · obtain ⟨c,hc,rfl⟩ := List.mem_map.mp hname
    exact List.mem_append_left _ (List.mem_map_of_mem (hcolumns c hc))
  · split at hname
    · rename_i hencrypted
      -- The salt is read only with an encrypted column, so the table has one.
      obtain ⟨c,hc,hencrypted⟩ := List.any_eq_true.mp hencrypted
      have hsalt : s.hasEncryptedColumns := by
        rw [hs]
        exact List.any_eq_true.mpr ⟨c,hcolumns c hc,hencrypted⟩
      rw [Schema.storageColumnNames, if_pos hsalt]
      exact List.mem_append_right _ hname
    · cases hname

theorem resolve?_of_lookupColumn (h : lookupColumn s field = .ok c) : s.resolve? field = some c := by
  obtain ⟨d,hd,h⟩ := bind_eq_ok.mp h
  have hd := Schema.resolve_eq_ok.mp hd
  split at h
  · cases h
  · cases h
    exact hd

theorem lookupColumn_spares (hs : (s.columns.map (·.name)).Nodup) (h : lookupColumn s field = .ok c) :
    s.Spares false c.name ∧ s.hides field = false := by
  obtain ⟨d,hd,h⟩ := bind_eq_ok.mp h
  have hd := Schema.resolve_eq_ok.mp hd
  split at h
  · cases h
  · rename_i hplain
    cases h
    exact Schema.spares_of_resolve? hs false hd hplain

theorem resolve?_of_aggregateColumn {function : Aggregate} (h : aggregateColumn s function field = .ok c) :
    s.resolve? field = some c := by
  obtain ⟨d,hd,h⟩ := bind_eq_ok.mp h
  have hd := Schema.resolve_eq_ok.mp hd
  split at h
  · cases h
  · split at h
    · cases h
    · cases h
      exact hd

/-- The values of an encrypted column can only be counted. -/
theorem aggregateColumn_spares (hs : (s.columns.map (·.name)).Nodup) {function : Aggregate}
    (h : aggregateColumn s function field = .ok c) (hfunction : function ≠ .count) :
    s.Spares false c.name ∧ s.hides field = false := by
  obtain ⟨d,hd,h⟩ := bind_eq_ok.mp h
  have hd := Schema.resolve_eq_ok.mp hd
  have hneeds : function.needsValues = true := decide_eq_true hfunction
  rw [hneeds, Bool.true_and] at h
  split at h
  · cases h
  · rename_i hplain
    split at h
    · cases h
    · cases h
      exact Schema.spares_of_resolve? hs false hd hplain

end Session
end SealedRows
