import SealedRows.Proofs.Session.Independent
import SealedRows.Proofs.Sql.Unmarked

/-! # Parameters in their places

Text and parameters are put together by different functions and meet only in the database. Where no name
holds a question mark, a reader that gives each question mark the next parameter finds the statement that
was meant. A statement that changes, removes or reads chosen rows always has a condition.
-/
namespace SealedRows
open Filled

/-- Whether a request has as many question marks as parameters, which make a statement of a kind. -/
def Placed (P : Filled → Prop) (request : Request) : Prop :=
  ∃ sql ps f, request = .statement sql ps ∧ sql.count mark = ps.length ∧ fill? sql ps = some f ∧ P f

theorem Means.placed {P : Filled → Prop} {request : Request} (h : Means P request)
    (hunmarked : ∀ f, P f → f.Unmarked) : Placed P request := by
  obtain ⟨f,hf,rfl⟩ := h
  have hfill := fill?_text (hunmarked f hf)
  exact ⟨_,_,f,rfl,count_of_fill? hfill,hfill,hf⟩

/-- Whether no table or column of a declared type has a question mark in its name. -/
def Catalog.Unmarked (catalog : Catalog) : Prop :=
  ∀ typeName s, catalog.schemaOf typeName = .ok s → s.Unmarked

namespace Schema
variable {s : Schema} {name : Text}

theorem mem_of_primaryKey {c : Column} (h : s.primaryKey = .ok c) : c ∈ s.columns := by
  unfold primaryKey at h
  split at h
  · next hfind =>
    cases h
    exact List.mem_of_find?_eq_some hfind
  · cases h

theorem Spares.mark_not_mem {qualify : Bool} (h : s.Spares qualify name) (hs : s.Unmarked) : mark ∉ name := by
  obtain ⟨c,hc,rfl,_⟩ := h.plain
  exact Clause.mark_not_mem_nameOf hs hc

theorem Counts.mark_not_mem {field : Option Text} (h : s.Counts field name) (hs : s.Unmarked) :
    mark ∉ name := by
  cases h with
  | rows => decide
  | column hc => exact hs.2 _ (mem_of_resolve? hc)

end Schema

section
variable {s : Schema} {qualify : Bool} {f : Filled}

theorem Choice.Fills.unmarked {rows : Choice} (h : rows.Fills s qualify f) (hs : s.Unmarked) : f.Unmarked := by
  cases h with
  | condition _ hf => exact hf.unmarked hs
  | value hc hf => exact hf.unmarked (hs.2 _ (Schema.mem_of_resolve? hc))

theorem Choice.Fills.text_ne_nil {rows : Choice} (h : rows.Fills s qualify f) (hs : s.Named) : f.text ≠ [] := by
  cases h with
  | condition _ hf => exact hf.text_ne_nil hs
  | value _ hf => exact hf.text_ne_nil

theorem Value.Narrows.unmarked {predicate : Value} {clause : Option Filled}
    (h : predicate.Narrows s qualify clause) (hs : s.Unmarked) : ∀ f, clause = some f → f.Unmarked := by
  rintro f rfl
  cases h with
  | condition h => exact h.unmarked hs

end

namespace Session
variable {catalog : Catalog} {session : Session} {s : Schema}

theorem IsRowOf.exists_type {id : RecordId} {includeCounted : Bool} {row : Row}
    (h : session.IsRowOf catalog id includeCounted s row) : ∃ typeName, catalog.schemaOf typeName = .ok s := by
  obtain ⟨r,_,_,_,hs,_⟩ := h
  exact ⟨_,hs⟩

theorem IsRowOf.mark_not_mem {id : RecordId} {includeCounted : Bool} {row : Row}
    (h : session.IsRowOf catalog id includeCounted s row) (hs : s.Unmarked) :
    ∀ cell ∈ row, mark ∉ cell.name := by
  obtain ⟨_,_,cells,_,_,_,hcells,rfl⟩ := h
  intro cell hcell
  rcases List.mem_append.mp hcell with hcell | hcell
  · have hname := List.mem_map_of_mem (f := Cell.name) hcell
    rw [Row.names_of_holds hcells] at hname
    obtain ⟨c,hc,hname⟩ := List.mem_map.mp hname
    rw [← hname]
    exact hs.2 c (List.mem_of_mem_filter hc)
  · unfold Row.saltCell at hcell
    split at hcell
    · rw [List.mem_singleton.mp hcell]
      exact mark_not_mem_saltColumnName
    · cases hcell

theorem mark_not_mem_joinClauses {others : List (Schema × JoinFields)} {conditions : List Text}
    (hschemas : ∀ t ∈ s :: others.map (·.1), t.Unmarked ∧ (t.columns.map (·.name)).Nodup)
    (h : joinClauses s others = .ok conditions) : ∀ condition ∈ conditions, mark ∉ condition := by
  obtain ⟨⟨hs,hnames⟩,hothers⟩ := List.forall_mem_cons.mp hschemas
  obtain ⟨parts,hparts,rfl,hspares,_⟩ := joinClauses_spares hnames
    (fun other hother => (hothers _ (List.mem_map_of_mem hother)).2) h
  have hword : ∀ t ∈ ([".", " = "] : List Text), mark ∉ t := by decide
  simp only [List.forall_mem_cons] at hword
  intro condition hcondition
  obtain ⟨part,hpart,rfl⟩ := List.mem_map.mp hcondition
  have hpartSchema : part.1 ∈ others.map (·.1) := hparts ▸ List.mem_map_of_mem hpart
  have hother := (hothers part.1 hpartSchema).1
  obtain ⟨_,hown,hjoined⟩ := hspares part hpart
  simp [Statement.joinClause, hs.1, hother.1, hown.mark_not_mem hs, hjoined.mark_not_mem hother, hword]

theorem HasSchemas.mark_not_mem_join {first : Text} {joined : List (Text × JoinFields)} {outer : Bool}
    {others : List (Schema × JoinFields)} {conditions : List Text} {statement : Text}
    (hothers : HasSchemas catalog joined others) (hcatalog : catalog.Unmarked)
    (hs : catalog.schemaOf first = .ok s) (hconditions : joinClauses s others = .ok conditions)
    (h : Sql.join (s :: others.map (·.1)) conditions none outer = .ok statement) : mark ∉ statement := by
  have hschemas : ∀ t ∈ s :: others.map (·.1), t.Unmarked ∧ (t.columns.map (·.name)).Nodup := by
    intro t ht
    have ht := hothers.schemaOf_name hs t ht
    exact ⟨hcatalog _ t ht,Schema.nodup_names_of_schemaOf ht⟩
  exact Filled.mark_not_mem_join (fun t ht => (hschemas t ht).1)
    (mark_not_mem_joinClauses hschemas hconditions) h

end Session

theorem Looks.unmarked {catalog : Catalog} {f : Filled} (hcatalog : catalog.Unmarked)
    (h : Looks catalog f) : f.Unmarked := by
  obtain ⟨ht,hc,hclause⟩ := h
  have ht := hcatalog _ _ ht
  refine unmarked_select ht.1 ?_ (fun _ h => (List.not_mem_nil h).elim) nofun
  rintro _ ⟨⟩
  exact hclause.unmarked (ht.2 _ (Schema.mem_of_primaryKey hc))

namespace Intent
variable {catalog : Catalog} {session : Session} {i : Intent} {f : Filled}

theorem Says.unmarked (hcatalog : catalog.Unmarked) (h : i.Says catalog session f) : f.Unmarked := by
  cases h with
  | insert hrow =>
    obtain ⟨typeName,hs⟩ := hrow.exists_type
    have hs := hcatalog typeName _ hs
    exact unmarked_insert hs.1 (hrow.mark_not_mem hs)
  | update hrow hclause =>
    obtain ⟨typeName,hs⟩ := hrow.exists_type
    have hs := hcatalog typeName _ hs
    exact unmarked_update hs.1 (hrow.mark_not_mem hs) (hclause.unmarked hs)
  | delete hs hclause =>
    have hs := hcatalog _ _ hs
    exact unmarked_delete hs.1 (hclause.unmarked hs)
  | select hs hclause hcolumns horder =>
    have hnames := Schema.nodup_names_of_schemaOf hs
    have hencrypted := Schema.hasEncryptedColumns_of_schemaOf hs
    have hs := hcatalog _ _ hs
    refine unmarked_select hs.1 ?_ (fun name hname => ?_) fun name hname => ?_
    · rintro _ ⟨⟩
      exact hclause.unmarked hs
    · exact hs.mark_not_mem_of_stored (Session.selectedColumns_stored hencrypted hcolumns name hname)
    · rw [hname] at horder
      obtain ⟨field,_,hfield⟩ := exists_of_optionMapM horder
      exact (Schema.orderColumn_spares hnames hfield).1.mark_not_mem hs
  | top hs => exact unmarked_selectTop (hcatalog _ _ hs).1 _
  | aggregate hs hcolumn hclause =>
    have hs := hcatalog _ _ hs
    exact unmarked_narrowed (mark_not_mem_aggregate _ _ hs.1 (hcolumn.mark_not_mem hs)) (hclause.unmarked hs)
  | join hs hothers hconditions hclause hstatement =>
    exact unmarked_narrowed (hothers.mark_not_mem_join hcatalog hs hconditions hstatement)
      (hclause.unmarked (hcatalog _ _ hs))

/-- The rows that an intent is about, unless it adds one or may be about all. -/
def rows? : Intent → Option Choice
  | update _ predicate => some (.condition predicate)
  | delete _ rows | select _ rows _ _ => some rows
  | insert .. | top .. | aggregate .. | join .. => none

/-- What is said of chosen rows is said of those that satisfy a condition. -/
theorem Says.exists_where (hnamed : ∀ typeName s, catalog.schemaOf typeName = .ok s → s.Named)
    (h : i.Says catalog session f) {rows : Choice} (hrows : i.rows? = some rows) :
    ∃ s clause before after, rows.Fills s false clause ∧ clause.text ≠ [] ∧
      f = before ++ plain " WHERE " ++ clause ++ after := by
  cases h with
  | update hrow hclause =>
    cases hrows
    obtain ⟨typeName,hs⟩ := hrow.exists_type
    exact ⟨_,_,_,[],hclause,hclause.text_ne_nil (hnamed _ _ hs),(List.append_nil _).symm⟩
  | @delete _ _ s clause hs hclause =>
    cases hrows
    refine ⟨_,_,plain ("DELETE FROM " ++ s.name),[],hclause,hclause.text_ne_nil (hnamed _ _ hs),?_⟩
    simp only [Filled.delete, plain, List.map_append, List.append_nil]
  | @select _ _ _ options s clause columns orderBy limit hs hclause =>
    cases hrows
    obtain ⟨before,after,hsplit⟩ := exists_where_select s.name clause (Session.selectedColumns columns)
      orderBy options.order limit (hclause.text_ne_nil (hnamed _ _ hs))
    exact ⟨_,_,before,after,hclause,hclause.text_ne_nil (hnamed _ _ hs),hsplit⟩
  | _ => cases hrows

end Intent

/-- Whether a request is a statement about chosen rows only: it has a condition, and one that is not
empty. -/
def Choice.Restricts (rows : Choice) (request : Request) : Prop :=
  ∃ s clause before after ps, rows.Fills s false clause ∧ clause.text ≠ [] ∧
    request = .statement (before ++ " WHERE " ++ clause.text ++ after) ps

namespace Operation
open Session
variable {α : Type} {catalog : Catalog} {session : Session}

/-- Whatever an operation is given, it fails or is idle before it sends anything, or it sends first what it
means to send and after it lookups. Where no name holds a question mark, the parameters of all of them stand
in the places that are meant. What is to change, remove or read chosen rows always has a condition. -/
theorem sent_placed {ds : List TypeDeclaration} (hcatalog : Catalog.ofDeclarations ds = .ok catalog)
    (hds : ∀ d ∈ ds, d.Named) (hready : Ready catalog session) (op : Operation α) :
    session.sent op.run = [] ∧
        (∀ a, (op.run session).1 = .ok a → ∃ i, op.intent? = some i ∧ i.Idle catalog session) ∨
      ∃ i first lookups, op.intent? = some i ∧ session.sent op.run = first :: lookups ∧
        (catalog.Unmarked → Placed (i.Says catalog session) first.request ∧
          ∀ e ∈ lookups, Placed (Looks catalog) e.request) ∧
        ∀ rows, i.rows? = some rows → rows.Restricts first.request := by
  obtain hnone | ⟨first,lookups,hsent,⟨i,hi,hmeans⟩,hlookups⟩ := op.opens.sent hready
  · exact Or.inl hnone
  · refine Or.inr ⟨i,first,lookups,hi,hsent,fun hunmarked => ⟨?_,?_⟩,fun rows hrows => ?_⟩
    · exact hmeans.placed fun f hf => Intent.Says.unmarked hunmarked hf
    · exact fun e he => (hlookups e he).placed fun f hf => Looks.unmarked hunmarked hf
    · obtain ⟨f,hf,hrequest⟩ := hmeans
      have hnamed : ∀ typeName s, catalog.schemaOf typeName = .ok s → s.Named :=
        fun _ _ => Catalog.named_of_schemaOf hcatalog hds
      obtain ⟨s,clause,before,after,hclause,hne,rfl⟩ := hf.exists_where hnamed hrows
      rw [text_append, text_append, text_append, text_plain] at hrequest
      exact ⟨s,clause,before.text,after.text,_,hclause,hne,hrequest⟩

end Operation
end SealedRows

namespace SealedRows.Draft
open Session

theorem unmarked : catalog.Unmarked := by
  intro typeName s hs
  obtain ⟨r,hfind,hr⟩ := Catalog.schemaOf_eq_ok.mp hs
  cases List.mem_singleton.mp (List.mem_of_find?_eq_some hfind)
  cases hr
  decide

/-- The title and the missing author stand in the places of their columns, the old title in the condition. -/
theorem sent_placed_rename : ∃ i first, (rename "Ideas").intent? = some i ∧
    (session "Plans").sent (rename "Ideas").run = [first] ∧
      Placed (i.Says catalog (session "Plans")) first.request ∧
        ∀ rows, i.rows? = some rows → rows.Restricts first.request := by
  have hds : ∀ d ∈ declarations, ∀ f ∈ d.fields, f.name ≠ [] := by decide
  have hdeclared : Catalog.ofDeclarations declarations = .ok catalog := rfl
  obtain ⟨hsent,_⟩ | ⟨i,first,lookups,hi,hsent,hplaced,hrestricts⟩ :=
    Operation.sent_placed hdeclared hds (ready "Plans") (rename "Ideas")
  · cases hsent
  · have hlength : ((session "Plans").sent (rename "Ideas").run).length = 1 := rfl
    rw [hsent, List.length_cons] at hlength
    cases List.eq_nil_of_length_eq_zero (Nat.succ.inj hlength)
    exact ⟨i,first,hi,hsent,(hplaced unmarked).1,hrestricts⟩

end SealedRows.Draft
