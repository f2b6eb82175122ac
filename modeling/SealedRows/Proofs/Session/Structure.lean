import SealedRows.Proofs.Row.RoundTrip
import SealedRows.Proofs.Session.Attributed
import SealedRows.Proofs.Sql.Definition
import SealedRows.Proofs.Value.Key
import SealedRows.Session.Table

/-! # The structure of a table

The columns that a database tells of a table are held against those of a schema. They are accepted if they
are the columns of the statement that makes the table, in the same order and of the same types, which may
be written in small letters. All other columns, and none, are refused.
-/
namespace SealedRows

namespace Database
variable {db : Database} {rows : List Row}

theorem query_of_gives (h : db.Gives 0 rows) (sql : Text) (parameters : List Value) :
    query sql parameters db = (.ok rows,db.after [⟨.statement sql parameters,.none⟩]) := by
  obtain ⟨rowCount,lastRow,names,values,hreply,hrows⟩ := h
  rw [List.drop_zero] at hreply
  have hask := ask_eq (.statement sql parameters) (.querying sql) db
  rw [hreply] at hask
  unfold query
  rw [bind_of_ok hask]
  dsimp only
  rw [hrows]
  rfl

end Database

namespace Session
variable {catalog : Catalog} {session : Session} {typeName : Text} {s : Schema} {row : Row} {rows : List Row}
  {column : Text × Text} {columns : List (Text × Text)}

/-! ## Columns as values -/

def entryOfColumn (column : Text × Text) : Value := structureEntry (.text column.1) (.text column.2)

def inCapitals (column : Text × Text) : Text × Text := (column.1,Text.capitals column.2)

theorem sameLeaf_text (t u : Text) : Value.sameLeaf (.text t) (.text u) = .ok (t == u) := rfl

theorem equals_entryOfColumn (column other : Text × Text) :
    (entryOfColumn column).equals (entryOfColumn other) = .ok (column == other) := by
  obtain ⟨name,type⟩ := column
  obtain ⟨name',type'⟩ := other
  simp only [entryOfColumn, structureEntry, Value.equals, Value.equalsEach, sameLeaf_text]
  by_cases hname : name = name'
  · by_cases htype : type = type' <;> simp [hname, htype, bind, Except.bind]
  · simp [hname, bind, Except.bind]

theorem equalsEach_entries (columns others : List (Text × Text)) :
    Value.equalsEach (columns.map entryOfColumn) (others.map entryOfColumn) = .ok (columns == others) := by
  induction columns generalizing others with
  | nil => cases others <;> simp [Value.equalsEach]
  | cons column columns ih =>
    cases others with
    | nil => simp [Value.equalsEach]
    | cons other others =>
      simp only [List.map_cons, Value.equalsEach, equals_entryOfColumn, ih]
      by_cases hcolumn : column = other <;> simp [hcolumn, bind, Except.bind]

/-- Two structures can always be compared, and are equal only if they have the same columns in the same
order. -/
theorem equals_entries (columns others : List (Text × Text)) :
    (Value.list (columns.map entryOfColumn)).equals (.list (others.map entryOfColumn)) =
      .ok (columns == others) := by
  simp only [Value.equals, List.length_map, equalsEach_entries]
  split
  · rfl
  · next hlength =>
    have hne : columns ≠ others := fun h => hlength (congrArg List.length h)
    simp [hne]

theorem expectedStructure_eq (s : Schema) :
    expectedStructure s = .list ((Sql.declaredColumns s).map entryOfColumn) := by
  unfold expectedStructure Sql.declaredColumns
  rw [List.map_append, List.map_map]
  split <;> rfl

theorem capitals_storageClass (k : StorageClass) : Text.capitals k.name = k.name := by
  cases k <;> decide

/-- The types of a statement are in capitals. -/
theorem map_inCapitals_declaredColumns (s : Schema) :
    (Sql.declaredColumns s).map inCapitals = Sql.declaredColumns s := by
  unfold Sql.declaredColumns
  rw [List.map_append, List.map_map]
  congr 1
  · apply List.map_congr_left
    intro c _
    simp [inCapitals, capitals_storageClass]
  · split <;> simp [inCapitals, capitals_storageClass]

/-- The table of a record type has at least the column of its key. -/
theorem declaredColumns_ne_nil (hready : Ready catalog session)
    (hs : (schemaFor typeName session).1 = .ok s) : Sql.declaredColumns s ≠ [] := by
  rw [schemaFor_eq hready] at hs
  obtain ⟨hbuilt,-⟩ := (hready.built.schemaFor typeName).2 s (mapError_eq_ok.mp hs)
  obtain ⟨r,-,hr⟩ := Catalog.schemaOf_eq_ok.mp hbuilt
  obtain ⟨hints,hcolumns⟩ := Schema.exists_isSchemaOf hr
  obtain ⟨_,c,_,hc,_⟩ := hcolumns.exists_primaryKey
  have hmem : c ∈ s.columns := List.mem_of_find?_eq_some hc
  intro hnil
  rw [Sql.declaredColumns, List.append_eq_nil_iff, List.map_eq_nil_iff] at hnil
  rw [hnil.1] at hmem
  exact List.not_mem_nil hmem

/-! ## The columns that a database tells -/

structure Tells (row : Row) (column : Text × Text) : Prop where
  name : lastValue? row "name" = some (.text column.1)
  type : lastValue? row "type" = some (.text column.2)

/-- Whether a database is going to tell columns in its next answer, in their order. -/
def Reports (db : Database) (columns : List (Text × Text)) : Prop :=
  ∃ rows, db.Gives 0 rows ∧ List.Forall₂ Tells rows columns

theorem foundColumn_of_tells (h : Tells row column) :
    foundColumn row = .ok (entryOfColumn (inCapitals column)) := by
  simp only [foundColumn, h.name, h.type]
  rfl

theorem mapM_foundColumn (h : List.Forall₂ Tells rows columns) :
    rows.mapM foundColumn = .ok ((columns.map inCapitals).map entryOfColumn) := by
  induction h with
  | nil => rfl
  | cons hrow _ ih =>
    rw [List.mapM_cons, foundColumn_of_tells hrow, ih]
    rfl

theorem ofExcept_ok {ε α : Type} (wrap : ε → Fault) (a : α) (session : Session) :
    ofExcept wrap (.ok a) session = (.ok a,session) := rfl

/-- The check gives nothing if the columns are those of the schema, and otherwise a storage fault. -/
theorem checkStructure_eq (hready : Ready catalog session) (hs : (schemaFor typeName session).1 = .ok s)
    (h : Reports session.database columns) : (checkStructure typeName session).1 =
      if columns.map inCapitals = Sql.declaredColumns s then .ok ()
      else .error (.storage (if columns = [] then .missingTable s.name else
        .wrongStructure s.name typeName (expectedStructure s)
          (.list ((columns.map inCapitals).map entryOfColumn)))) := by
  obtain ⟨rows,hgives,htells⟩ := h
  have hdatabase : (schemaFor typeName session).2.database = session.database := by
    rw [schemaFor_eq hready]
  have hquery : onDatabase (Database.query (Sql.tableInfo s.name) []) (schemaFor typeName session).2 =
      (.ok rows,{ (schemaFor typeName session).2 with
        database := session.database.after [⟨.statement (Sql.tableInfo s.name) [],.none⟩] }) := by
    unfold onDatabase
    rw [hdatabase, Database.query_of_gives hgives]
    rfl
  unfold checkStructure
  rw [schemaFor_bind hs, bind_of_ok hquery]
  cases htells with
  | nil =>
    rw [List.map_nil, if_neg (declaredColumns_ne_nil hready hs).symm]
    rfl
  | cons hrow hrows =>
    rw [mapM_foundColumn (.cons hrow hrows), expectedStructure_eq, if_neg (List.cons_ne_nil _ _)]
    generalize List.map inCapitals _ = found
    have hequals := equals_entries found (Sql.declaredColumns s)
    rw [List.isEmpty_cons, if_neg Bool.false_ne_true, bind_of_ok (ofExcept_ok Fault.general _ _)]
    dsimp only
    rw [hequals, bind_of_ok (ofExcept_ok Fault.value _ _)]
    by_cases hsame : found = Sql.declaredColumns s
    · rw [if_pos hsame, if_pos (beq_iff_eq.mpr hsame)]
      rfl
    · rw [if_neg hsame, if_neg (fun h => hsame (beq_iff_eq.mp h))]
      rfl

/-- Whether columns have the same names and types in the same order. Capitals make no difference between
types. -/
def SameColumns (columns others : List (Text × Text)) : Prop :=
  columns.map inCapitals = others.map inCapitals

instance (columns others : List (Text × Text)) : Decidable (SameColumns columns others) :=
  inferInstanceAs (Decidable (_ = _))

/-- The check of a table succeeds if the database tells the columns of the statement that makes the table, and
ends with a storage fault if it tells any others. -/
theorem checkStructure_agrees {sql : Text} (hready : Ready catalog session)
    (hs : (schemaFor typeName session).1 = .ok s) (hnames : s.HasPlainNames) (hrefers : Sql.Refers s)
    (hsql : Sql.createTable s = .ok sql) (h : Reports session.database columns) :
    ∃ definition, Sql.readTable? sql = some definition ∧ definition.name = s.name ∧
      (SameColumns columns (definition.columns.map Sql.ColumnClause.declared) →
        (checkStructure typeName session).1 = .ok ()) ∧
      (¬SameColumns columns (definition.columns.map Sql.ColumnClause.declared) →
        ∃ fault, (checkStructure typeName session).1 = .error (.storage fault)) := by
  obtain ⟨definition,hread,hname,hcolumns⟩ := Sql.readTable?_createTable hnames hrefers hsql
  have hcheck := checkStructure_eq hready hs h
  refine ⟨definition,hread,hname,?_⟩
  rw [hcolumns, SameColumns, map_inCapitals_declaredColumns]
  constructor
  · intro hsame
    rw [hcheck, if_pos hsame]
  · intro hother
    rw [hcheck, if_neg hother]
    exact ⟨_,rfl⟩

end Session
end SealedRows

namespace SealedRows.Note
open Session

/-- The columns of the table of notes, with their types in small letters. -/
def columns : List (Text × Text) := [("id","integer"), ("body","blob"), (saltColumnName,"blob")]

def tableInfo (columns : List (Text × Text)) : Reply :=
  .success columns.length none ["name","type"] (columns.map fun column => [.text column.1,.text column.2])

def asking (columns : List (Text × Text)) : Session :=
  Session.new catalog .des ⟨Database.memory,[tableInfo columns],[]⟩ []

theorem reports_asking (columns : List (Text × Text)) : Reports (asking columns).database columns := by
  refine ⟨columns.map fun column => [⟨"name",.text column.1⟩,⟨"type",.text column.2⟩],
    ⟨columns.length,none,_,_,rfl,?_⟩,?_⟩
  · induction columns with
    | nil => rfl
    | cons column columns ih =>
      rw [List.map_cons, List.mapM_cons, ih]
      rfl
  · rw [List.forall₂_map_left_iff, List.forall₂_same]
    intro column _
    exact ⟨rfl,rfl⟩

theorem schemaFor_asking (columns : List (Text × Text)) :
    (schemaFor "Note" (asking columns)).1 = .ok schema := rfl

theorem hasPlainNames : schema.HasPlainNames := by
  constructor
  · decide
  · intro c hc
    have hall : schema.columns.all fun c => Sql.IsPlainName c.name := by decide
    exact of_decide_eq_true (List.all_eq_true.mp hall c hc)

/-- The table of notes is accepted with types in small letters, and refused without salt. -/
theorem checkStructure_asking : ∃ sql definition, Sql.createTable schema = .ok sql ∧
    Sql.readTable? sql = some definition ∧ (checkStructure "Note" (asking columns)).1 = .ok () ∧
      ∃ fault, (checkStructure "Note" (asking columns.dropLast)).1 = .error (.storage fault) := by
  obtain ⟨sql,hsql⟩ : ∃ sql, Sql.createTable schema = .ok sql := ⟨_,rfl⟩
  have hready (columns : List (Text × Text)) : Ready catalog (asking columns) :=
    ⟨rfl,fun _ he => (List.not_mem_nil he).elim⟩
  have hrefers : Sql.Refers schema := nofun
  obtain ⟨definition,hread,_,haccepts,_⟩ := checkStructure_agrees (hready columns) (schemaFor_asking _)
    hasPlainNames hrefers hsql (reports_asking columns)
  obtain ⟨other,hread',_,_,hrefuses⟩ := checkStructure_agrees (hready columns.dropLast) (schemaFor_asking _)
    hasPlainNames hrefers hsql (reports_asking columns.dropLast)
  cases hread.symm.trans hread'
  obtain ⟨_,hread',_,hcolumns⟩ := Sql.readTable?_createTable hasPlainNames hrefers hsql
  cases hread.symm.trans hread'
  rw [hcolumns] at haccepts hrefuses
  exact ⟨sql,definition,hsql,hread,haccepts (by decide),hrefuses (by decide)⟩

end SealedRows.Note
