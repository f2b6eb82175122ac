import SealedRows.Proofs.Session.Fulfilled

/-! # Texts that don't depend on values

Two operations that differ only in values, with null in the same places, send statements of one text: a
value reaches the database as a parameter or not at all. Whatever else the two sessions hold may differ.
-/
namespace SealedRows
open Filled

def Value.outline? (predicate : Value) : Option (Condition Bool) := predicate.condition?.map Condition.outline

/-- Whether two choices differ only in values that are null in both or in none. -/
inductive Choice.Alike : Choice → Choice → Prop where
  | condition {p p' : Value} (h : p.outline? = p'.outline?) : Alike (.condition p) (.condition p')
  | value {field : Text} {v v' : Value} (h : v.isNone = v'.isNone) : Alike (.value field v) (.value field v')

namespace Session

/-- Whether a record of one session and one of another have one type and null in the same fields. -/
def SameNulls (session : Session) (id : RecordId) (session' : Session) (id' : RecordId) : Prop :=
  (session.heap[id]?).map (·.type.name) = (session'.heap[id']?).map (·.type.name) ∧
    ∀ field, (session.heap.value id field).isNone = (session'.heap.value id' field).isNone

end Session

/-- Whether intents of two sessions differ only in values, with null in the same places. -/
inductive Intent.Alike (session session' : Session) : Intent → Intent → Prop where
  | insert {id id' : RecordId} {replace : Bool} (h : session.SameNulls id session' id') :
      Alike session session' (.insert id replace) (.insert id' replace)
  | update {id id' : RecordId} {p p' : Value} (h : session.SameNulls id session' id')
      (hp : p.outline? = p'.outline?) : Alike session session' (.update id p) (.update id' p')
  | delete {typeName : Text} {rows rows' : Choice} (h : rows.Alike rows') :
      Alike session session' (.delete typeName rows) (.delete typeName rows')
  | select {typeName : Text} {rows rows' : Choice} {fields : List Text} {options : Session.FindOptions}
      (h : rows.Alike rows') :
      Alike session session' (.select typeName rows fields options) (.select typeName rows' fields options)
  | top {typeName : Text} {count count' : Value} :
      Alike session session' (.top typeName count) (.top typeName count')
  | aggregate {a : Aggregate} {typeName : Text} {field : Option Text} {p p' : Value}
      (hp : p.outline? = p'.outline?) :
      Alike session session' (.aggregate a typeName field p) (.aggregate a typeName field p')
  | join {first : Text} {joined : List (Text × Session.JoinFields)} {p p' : Value} {outer : Bool}
      (hp : p.outline? = p'.outline?) :
      Alike session session' (.join first joined p outer) (.join first joined p' outer)

section
variable {s : Schema} {qualify : Bool} {f g : Filled}

theorem Value.text_eq_of_outline {p p' : Value} (h : p.outline? = p'.outline?)
    (hf : (Choice.condition p).Fills s qualify f) (hg : (Choice.condition p').Fills s qualify g) :
    f.text = g.text := by
  obtain ⟨hp,hf⟩ := hf
  obtain ⟨hp',hg⟩ := hg
  rw [Value.outline?, Value.outline?, hp, hp'] at h
  exact hf.text_eq hg (Option.some.inj h)

theorem Choice.Alike.text_eq {rows rows' : Choice} (h : rows.Alike rows') (hf : rows.Fills s qualify f)
    (hg : rows'.Fills s qualify g) : f.text = g.text := by
  cases h with
  | condition h => exact Value.text_eq_of_outline h hf hg
  | value h =>
    obtain ⟨⟩ | ⟨hc,hf⟩ := hf
    obtain ⟨⟩ | ⟨hd,hg⟩ := hg
    cases hc.symm.trans hd
    exact hf.text_eq hg h

theorem Value.Narrows.text_eq {p p' : Value} {clause clause' : Option Filled} (h : p.outline? = p'.outline?)
    (hf : p.Narrows s qualify clause) (hg : p'.Narrows s qualify clause') :
    clause.map Filled.text = clause'.map Filled.text := by
  cases hf with
  | nothing =>
    cases hg with
    | nothing => rfl
    | condition hg =>
      -- Null has no outline, so what shares its outline is no condition.
      obtain ⟨hp',_⟩ := hg
      rw [outline?, outline?, hp'] at h
      cases h
  | condition hf =>
    cases hg with
    | nothing =>
      obtain ⟨hp,_⟩ := hf
      rw [outline?, outline?, hp] at h
      cases h
    | condition hg => rw [Option.map_some, Option.map_some, Value.text_eq_of_outline h hf hg]

theorem Schema.Counts.unique {field : Option Text} {column column' : Text} (h : s.Counts field column)
    (h' : s.Counts field column') : column = column' := by
  cases h with
  | rows =>
    cases h' with
    | rows => rfl
  | column hc =>
    cases h' with
    | column hd => rw [Option.some.inj (hc.symm.trans hd)]

end

namespace Session
variable {catalog : Catalog} {session session' : Session}

/-- Which columns are written depends only on which values are null. -/
theorem SameNulls.names_eq {id id' : RecordId} {includeCounted : Bool} {s s' : Schema} {row row' : Row}
    (h : session.SameNulls id session' id') (hrow : session.IsRowOf catalog id includeCounted s row)
    (hrow' : session'.IsRowOf catalog id' includeCounted s' row') :
    s = s' ∧ row.map (·.name) = row'.map (·.name) := by
  obtain ⟨htype,hnone⟩ := h
  obtain ⟨r,cipher,cells,hr,hs,_,hcells,rfl⟩ := hrow
  obtain ⟨r',cipher',cells',hr',hs',_,hcells',rfl⟩ := hrow'
  have hname : r.type.name = r'.type.name := by
    rw [hr, hr'] at htype
    exact Option.some.inj htype
  rw [hname] at hs
  cases hs.symm.trans hs'
  have hwritten : Row.isWritten includeCounted (session.heap.value id) =
      Row.isWritten includeCounted (session'.heap.value id') := by
    funext c
    rw [Row.isWritten, Row.isWritten, hnone]
  refine ⟨rfl,?_⟩
  rw [List.map_append, List.map_append, Row.names_of_holds hcells, Row.names_of_holds hcells', hwritten]
  -- The salts may differ, but either both rows have one or neither has.
  congr 1
  unfold Row.saltCell
  split <;> rfl

theorem HasSchemas.unique {joined : List (Text × JoinFields)} {others others' : List (Schema × JoinFields)}
    (h : HasSchemas catalog joined others) (h' : HasSchemas catalog joined others') : others = others' := by
  refine List.right_unique_forall₂' ?_ h h'
  rintro e ⟨s,fields⟩ ⟨s',fields'⟩ ⟨hs,rfl⟩ ⟨hs',rfl⟩
  cases hs.symm.trans hs'
  rfl

end Session

namespace Intent
variable {catalog : Catalog} {session session' : Session} {i i' : Intent} {f f' : Filled}

theorem Alike.text_eq (h : i.Alike session session' i') (hf : i.Says catalog session f)
    (hf' : i'.Says catalog session' f') : f.text = f'.text := by
  cases h with
  | insert h =>
    cases hf with | insert hrow
    cases hf' with | insert hrow'
    obtain ⟨rfl,hnames⟩ := h.names_eq hrow hrow'
    rw [text_insert, text_insert, hnames]
  | update h hp =>
    cases hf with | update hrow hclause
    cases hf' with | update hrow' hclause'
    obtain ⟨rfl,hnames⟩ := h.names_eq hrow hrow'
    rw [text_update, text_update, hnames, Value.text_eq_of_outline hp hclause hclause']
  | delete h =>
    cases hf with | delete hs hclause
    cases hf' with | delete hs' hclause'
    cases hs.symm.trans hs'
    rw [text_delete, text_delete, h.text_eq hclause hclause']
  | select h =>
    cases hf with | select hs hclause hcolumns horder hlimit
    cases hf' with | select hs' hclause' hcolumns' horder' hlimit'
    cases hs.symm.trans hs'
    cases hcolumns.symm.trans hcolumns'
    cases horder.symm.trans horder'
    cases hlimit.symm.trans hlimit'
    rw [text_select, text_select, Option.map_some, Option.map_some, h.text_eq hclause hclause']
  | top =>
    cases hf with | top hs
    cases hf' with | top hs'
    cases hs.symm.trans hs'
    rw [text_selectTop, text_selectTop]
  | aggregate hp =>
    cases hf with | aggregate hs hcolumn hclause
    cases hf' with | aggregate hs' hcolumn' hclause'
    cases hs.symm.trans hs'
    cases hcolumn.unique hcolumn'
    rw [text_narrowed, text_narrowed, Value.Narrows.text_eq hp hclause hclause']
  | join hp =>
    cases hf with | join hs hothers hconditions hclause hstatement
    cases hf' with | join hs' hothers' hconditions' hclause' hstatement'
    cases hs.symm.trans hs'
    cases hothers.unique hothers'
    cases hconditions.symm.trans hconditions'
    cases hstatement.symm.trans hstatement'
    rw [text_narrowed, text_narrowed, Value.Narrows.text_eq hp hclause hclause']

end Intent

namespace Operation
open Session
variable {α β : Type} {catalog : Catalog} {session session' : Session}

theorem means_of_head? (hready : Ready catalog session) {op : Operation α} {e : LogEntry}
    (he : (session.sent op.run).head? = some e) :
    ∃ i, op.intent? = some i ∧ Means (i.Says catalog session) e.request := by
  obtain ⟨hsent,_⟩ | ⟨first,rest,hsent,hfirst,_⟩ := op.opens.sent hready
  · rw [hsent] at he
    cases he
  · rw [hsent] at he
    cases he
    exact hfirst

/-- Two operations that differ only in values, with null in the same places, send first statements of one
text, in whatever else their sessions differ. -/
theorem text_eq_of_alike (hready : Ready catalog session) (hready' : Ready catalog session')
    {op : Operation α} {op' : Operation β}
    (h : Option.Rel (Intent.Alike session session') op.intent? op'.intent?) {e e' : LogEntry}
    (he : (session.sent op.run).head? = some e) (he' : (session'.sent op'.run).head? = some e') :
    ∃ sql ps ps', e.request = .statement sql ps ∧ e'.request = .statement sql ps' := by
  obtain ⟨i,hi,f,hf,hrequest⟩ := means_of_head? hready he
  obtain ⟨i',hi',f',hf',hrequest'⟩ := means_of_head? hready' he'
  rw [hi, hi'] at h
  cases h with | some halike
  rw [halike.text_eq hf hf'] at hrequest
  exact ⟨_,_,_,hrequest,hrequest'⟩

end Operation
end SealedRows

namespace SealedRows.Draft
open Session

def declarations : List TypeDeclaration :=
  [⟨"Draft",some "drafts",none,true,
    [Circle.key, ⟨"title","str",some ColumnOptions.plain,.required,true⟩,
      ⟨"author","str",some ColumnOptions.plain,.value .none,true⟩]⟩]

def catalog : Catalog := declarations.map (Catalog.typeOf none)

/-- A session with one draft, which has no author. -/
def session (title : Text) : Session :=
  { Session.new catalog .aes256 ⟨Database.memory,[],[]⟩ [] with
    heap := catalog.map fun type =>
      ⟨type,[("id",.value (.int 1)), ("title",.value (.text title)), ("author",.value .none)]⟩ }

def rename (old : Text) : Operation Int :=
  .call (.update 0
    (.condition (.and (.comparison "title" .eq (.text old)) (.comparison "author" .eq .none))))

theorem ready (title : Text) : Ready catalog (session title) :=
  ⟨rfl,fun _ he => (List.not_mem_nil he).elim⟩

theorem sameNulls (title title' : Text) : (session title).SameNulls 0 (session title') 0 := by
  refine ⟨rfl,fun field => ?_⟩
  simp only [session, Heap.value, Heap.content?, Record.content?, catalog, declarations, List.map,
    List.getElem?_cons_zero, Option.bind_some, List.lookup_cons, List.lookup_nil]
  by_cases htitle : field = "title"
  · subst htitle
    rfl
  · have hother : (field == ("title" : Text)) = false := by simpa using htitle
    rw [hother]
    cases field == ("id" : Text) with
    | true => rfl
    | false =>
      cases field == ("author" : Text) with
      | true => rfl
      | false => cases RecordType.shared? _ field <;> rfl

/-- A title that looks like SQL changes no statement. -/
theorem text_eq_rename : ∃ e e' sql ps ps', ((session "Plans").sent (rename "Ideas").run).head? = some e ∧
    ((session "'; DROP TABLE drafts; --").sent (rename "x' OR 1 = 1").run).head? = some e' ∧
      e.request = .statement sql ps ∧ e'.request = .statement sql ps' := by
  obtain ⟨e,he⟩ : ∃ e, ((session "Plans").sent (rename "Ideas").run).head? = some e := ⟨_,rfl⟩
  obtain ⟨e',he'⟩ : ∃ e', ((session "'; DROP TABLE drafts; --").sent
    (rename "x' OR 1 = 1").run).head? = some e' := ⟨_,rfl⟩
  have halike : Option.Rel (Intent.Alike (session "Plans") (session "'; DROP TABLE drafts; --"))
      (rename "Ideas").intent? (rename "x' OR 1 = 1").intent? := .some (.update (sameNulls _ _) rfl)
  obtain ⟨sql,ps,ps',h,h'⟩ := Operation.text_eq_of_alike (ready _) (ready _) halike he he'
  exact ⟨e,e',sql,ps,ps',he,he',h,h'⟩

end SealedRows.Draft
