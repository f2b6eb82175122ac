import Mathlib.Data.List.Basic
import SealedRows.Proofs.Outcome
import SealedRows.Row
import SealedRows.Sql.Join

/-! # Statements with their parameters in place

What is sent is a text with question marks and a list of parameters. Here the two are one: a statement is
a list of pieces, and a parameter stands where the question mark is. A reader that gives each question mark
of the text the next parameter finds the statement again, if no question mark stands for itself.
-/
namespace SealedRows

def mark : CodePoint := '?'

inductive Piece where
  | point (c : CodePoint)
  | parameter (v : Value)

abbrev Filled := List Piece

namespace Piece

def toPoint : Piece → CodePoint
  | point c => c
  | parameter _ => mark

def parameter? : Piece → Option Value
  | point _ => none
  | parameter v => some v

end Piece

namespace Filled
variable {f g : Filled}

def plain (t : Text) : Filled := t.map .point

/-- The text that is sent. -/
def text (f : Filled) : Text := f.map Piece.toPoint

/-- The parameters that are sent. -/
def parameters (f : Filled) : List Value := f.filterMap Piece.parameter?

@[simp] theorem text_plain (t : Text) : (plain t).text = t := by
  simp [text, plain, Function.comp_def, Piece.toPoint]

@[simp] theorem parameters_plain (t : Text) : (plain t).parameters = [] := by
  simp [parameters, plain, Piece.parameter?, List.filterMap_map, Function.comp_def]

@[simp] theorem text_append (f g : Filled) : text (f ++ g) = f.text ++ g.text := List.map_append

@[simp] theorem parameters_append (f g : Filled) : parameters (f ++ g) = f.parameters ++ g.parameters :=
  List.filterMap_append

@[simp] theorem text_parameter (v : Value) : text [.parameter v] = "?" := rfl

@[simp] theorem parameters_parameter (v : Value) : parameters [.parameter v] = [v] := rfl

/-- Gives each question mark of a text the next parameter, if there are as many of both. -/
def fill? : Text → List Value → Option Filled
  | [], [] => some []
  | [], _ :: _ => none
  | c :: rest, parameters =>
    if c = mark then
      match parameters with
      | [] => none
      | v :: parameters => (fill? rest parameters).map (.parameter v :: ·)
    else (fill? rest parameters).map (.point c :: ·)

/-- Whether no question mark stands for itself. -/
def Unmarked (f : Filled) : Prop := .point mark ∉ f

/-- What is sent is read as it is meant. -/
theorem fill?_text (h : f.Unmarked) : fill? f.text f.parameters = some f := by
  induction f with
  | nil => rfl
  | cons piece f ih =>
    obtain ⟨hpiece,hrest⟩ := List.ne_and_not_mem_of_not_mem_cons h
    have hfilled : fill? (text f) (parameters f) = some f := ih hrest
    cases piece with
    | point c =>
      have hc : c ≠ mark := by
        rintro rfl
        exact hpiece rfl
      change fill? (c :: text f) (parameters f) = _
      rw [fill?.eq_def]
      dsimp only
      rw [if_neg hc, hfilled]
      rfl
    | parameter v =>
      change fill? (mark :: text f) (v :: parameters f) = _
      rw [fill?, if_pos rfl, hfilled]
      rfl

theorem count_of_fill? {t : Text} {parameters : List Value} (h : fill? t parameters = some f) :
    t.count mark = parameters.length := by
  induction t generalizing parameters f with
  | nil =>
    cases parameters with
    | nil => rfl
    | cons => cases h
  | cons c rest ih =>
    unfold fill? at h
    split at h
    · next hmark =>
      cases parameters with
      | nil => cases h
      | cons v parameters =>
        obtain ⟨g,hg,_⟩ := Option.map_eq_some_iff.mp h
        rw [hmark, List.count_cons_self, ih hg, List.length_cons]
    · next hmark =>
      obtain ⟨g,hg,_⟩ := Option.map_eq_some_iff.mp h
      rw [List.count_cons_of_ne hmark, ih hg]

@[simp] theorem unmarked_plain {t : Text} : (plain t).Unmarked ↔ mark ∉ t := by
  simp [Unmarked, plain]

@[simp] theorem unmarked_append : Unmarked (f ++ g) ↔ f.Unmarked ∧ g.Unmarked := by
  simp [Unmarked]

@[simp] theorem unmarked_cons {v : Value} : Unmarked (.parameter v :: f) ↔ f.Unmarked := by
  simp [Unmarked]

@[simp] theorem unmarked_nil : Unmarked [] := List.not_mem_nil

/-! ## Statements -/

def listed (items : List Filled) : Filled := List.intercalate (plain ", ") items

theorem text_listed (items : List Filled) : (listed items).text = Sql.listed (items.map text) := by
  induction items with
  | nil => rfl
  | cons f rest ih =>
    cases rest with
    | nil => simp [listed, Sql.listed, Text.joined]
    | cons g rest =>
      simp only [listed, Sql.listed, Text.joined, List.map_cons, List.intercalate_cons_cons,
        text_append, text_plain] at ih ⊢
      rw [ih]

theorem parameters_listed (items : List Filled) : (listed items).parameters = items.flatMap parameters := by
  induction items with
  | nil => rfl
  | cons f rest ih =>
    cases rest with
    | nil => simp [listed]
    | cons g rest =>
      simp only [listed, List.intercalate_cons_cons, parameters_append, parameters_plain,
        List.flatMap_cons, List.append_nil] at ih ⊢
      rw [ih]

theorem not_mem_intercalate {α : Type} {a : α} {separator : List α} {parts : List (List α)}
    (hseparator : a ∉ separator) (h : ∀ part ∈ parts, a ∉ part) : a ∉ List.intercalate separator parts := by
  induction parts with
  | nil => exact List.not_mem_nil
  | cons part rest ih =>
    obtain ⟨hpart,hrest⟩ := List.forall_mem_cons.mp h
    cases rest with
    | nil =>
      rw [List.intercalate_singleton]
      exact hpart
    | cons next rest =>
      rw [List.intercalate_cons_cons, List.mem_append, List.mem_append]
      rintro ((hmem | hmem) | hmem)
      · exact hpart hmem
      · exact hseparator hmem
      · exact ih hrest hmem

theorem unmarked_listed {items : List Filled} (h : ∀ f ∈ items, f.Unmarked) : (listed items).Unmarked :=
  not_mem_intercalate (unmarked_plain.mpr (by decide)) h

theorem mark_not_mem_listed {names : List Text} (h : ∀ name ∈ names, mark ∉ name) : mark ∉ Sql.listed names :=
  not_mem_intercalate (by decide) h

def optional (word : Text) : Option Filled → Filled
  | none | some [] => []
  | some f => plain (" " ++ word ++ " ") ++ f

theorem text_optional (word : Text) (clause : Option Filled) :
    (optional word clause).text = Sql.optional word (clause.map text) := by
  rcases clause with _ | _ | ⟨piece,f⟩
  · rfl
  · rfl
  · exact (text_append _ _).trans (by rw [text_plain]; rfl)

theorem parameters_optional (word : Text) (clause : Option Filled) :
    (optional word clause).parameters = (clause.map parameters).getD [] := by
  rcases clause with _ | _ | ⟨piece,f⟩
  · rfl
  · rfl
  · exact (parameters_append _ _).trans (by rw [parameters_plain]; rfl)

def insert (table : Text) (row : Row) (replace : Bool) : Filled :=
  if row.isEmpty then plain (Sql.insert table [] replace)
  else
    plain ((if replace then "INSERT OR REPLACE" else "INSERT" : Text) ++ " INTO " ++ table ++ " ("
        ++ Sql.listed (row.map (·.name)) ++ ") VALUES (")
      ++ listed (row.map fun cell => [.parameter cell.value]) ++ plain ")"

theorem text_insert (table : Text) (row : Row) (replace : Bool) :
    (insert table row replace).text = Sql.insert table (row.map (·.name)) replace := by
  cases row with
  | nil => exact text_plain _
  | cons cell rest =>
    have hmarks : (listed ((cell :: rest).map fun cell => [.parameter cell.value])).text =
        Sql.listed (((cell :: rest).map (·.name)).map fun _ => "?") := by
      rw [text_listed, List.map_map, List.map_map]
      rfl
    change text (plain _ ++ listed _ ++ plain _) = _
    rw [text_append, text_append, text_plain, text_plain, hmarks]
    rfl

theorem parameters_insert (table : Text) (row : Row) (replace : Bool) :
    (insert table row replace).parameters = row.map (·.value) := by
  cases row with
  | nil => exact parameters_plain _
  | cons cell rest =>
    simp only [insert, List.isEmpty_cons, Bool.false_eq_true, if_false, parameters_append,
      parameters_plain, parameters_listed, List.flatMap_map, parameters_parameter, List.nil_append,
      List.append_nil]
    exact List.map_eq_flatMap.symm

def assigned (cell : Cell) : Filled := plain (cell.name ++ " = ") ++ [.parameter cell.value]

def update (table : Text) (row : Row) (clause : Filled) : Filled :=
  plain ("UPDATE " ++ table ++ " SET ") ++ listed (row.map assigned) ++ plain " WHERE " ++ clause

theorem text_update (table : Text) (row : Row) (clause : Filled) :
    (update table row clause).text = Sql.update table (row.map (·.name)) clause.text := by
  have hassigned : ∀ cell : Cell, (assigned cell).text = cell.name ++ " = ?" := fun cell => by
    rw [assigned, text_append, text_plain, text_parameter, List.append_assoc]
    rfl
  simp only [update, Sql.update, text_append, text_plain, text_listed, List.map_map, Function.comp_def,
    hassigned]

theorem parameters_update (table : Text) (row : Row) (clause : Filled) :
    (update table row clause).parameters = row.map (·.value) ++ clause.parameters := by
  have hassigned : ∀ cell : Cell, (assigned cell).parameters = [cell.value] := fun cell => by
    simp [assigned]
  simp only [update, parameters_append, parameters_plain, parameters_listed, List.flatMap_map, hassigned,
    List.nil_append, List.append_nil]
  exact congrArg (· ++ clause.parameters) List.map_eq_flatMap.symm

def delete (table : Text) (clause : Filled) : Filled := plain ("DELETE FROM " ++ table ++ " WHERE ") ++ clause

theorem text_delete (table : Text) (clause : Filled) :
    (delete table clause).text = Sql.delete table clause.text := by
  simp only [delete, Sql.delete, text_append, text_plain]

theorem parameters_delete (table : Text) (clause : Filled) :
    (delete table clause).parameters = clause.parameters := by
  rw [delete, parameters_append, parameters_plain, List.nil_append]

/-- Reads columns of rows, all columns if none is named. -/
def select (table : Text) (clause : Option Filled) (columns : List Text) (orderBy : Option Text)
    (sortOrder : SortOrder) (limit : Option Int) : Filled :=
  plain ("SELECT " ++ (if columns.isEmpty then "*" else Sql.listed columns : Text) ++ " FROM " ++ table)
    ++ optional "WHERE" clause
    ++ plain (Sql.optional "ORDER BY" (orderBy.map fun c => if c.isEmpty then c else c ++ " " ++ sortOrder.name)
      ++ Sql.optional "LIMIT" (limit.map Text.ofInt))

theorem text_select (table : Text) (clause : Option Filled) (columns : List Text) (orderBy : Option Text)
    (sortOrder : SortOrder) (limit : Option Int) :
    (select table clause columns orderBy sortOrder limit).text =
      Sql.select table (clause.map text) columns orderBy sortOrder limit := by
  simp only [select, Sql.select, text_append, text_plain, text_optional, List.append_assoc]

theorem parameters_select (table : Text) (clause : Option Filled) (columns : List Text)
    (orderBy : Option Text) (sortOrder : SortOrder) (limit : Option Int) :
    (select table clause columns orderBy sortOrder limit).parameters = (clause.map parameters).getD [] := by
  simp only [select, parameters_append, parameters_plain, parameters_optional, List.nil_append,
    List.append_nil]

/-- A clause that is not empty stands behind its word. -/
theorem exists_where_select (table : Text) (clause : Filled) (columns : List Text) (orderBy : Option Text)
    (sortOrder : SortOrder) (limit : Option Int) (hclause : clause.text ≠ []) : ∃ before after,
      select table (some clause) columns orderBy sortOrder limit =
        before ++ plain " WHERE " ++ clause ++ after := by
  cases clause with
  | nil => exact absurd rfl hclause
  | cons piece rest =>
    have hoptional : optional "WHERE" (some (piece :: rest)) = plain " WHERE " ++ piece :: rest := rfl
    unfold select
    rw [hoptional, ← List.append_assoc]
    exact ⟨_,_,rfl⟩

def selectTop (table : Text) (count : Value) : Filled :=
  plain ("SELECT * FROM " ++ table ++ " LIMIT ") ++ [.parameter count]

theorem text_selectTop (table : Text) (count : Value) : (selectTop table count).text = Sql.selectTop table := by
  rw [selectTop, text_append, text_plain, text_parameter, List.append_assoc]
  rfl

theorem parameters_selectTop (table : Text) (count : Value) :
    (selectTop table count).parameters = [count] := by
  rw [selectTop, parameters_append, parameters_plain, parameters_parameter, List.nil_append]

def narrowed (statement : Text) (clause : Option Filled) : Filled :=
  plain statement ++ optional "WHERE" clause

theorem text_narrowed (statement : Text) (clause : Option Filled) :
    (narrowed statement clause).text = statement ++ Sql.optional "WHERE" (clause.map text) := by
  rw [narrowed, text_append, text_plain, text_optional]

theorem text_narrowed_aggregate (function table column : Text) (distinct : Bool) (clause : Option Filled) :
    (narrowed (Sql.aggregate function table column distinct none) clause).text =
      Sql.aggregate function table column distinct (clause.map text) := by
  rw [text_narrowed]
  simp only [Sql.aggregate, Sql.optional, List.append_nil]

theorem text_narrowed_join {schemas : List Schema} {conditions : List Text} {clause : Option Filled}
    {left : Bool} {sql : Text} (h : Sql.join schemas conditions (clause.map text) left = .ok sql) :
    ∃ statement, Sql.join schemas conditions none left = .ok statement ∧
      sql = (narrowed statement clause).text := by
  unfold Sql.join at h ⊢
  obtain ⟨hcount,h⟩ := guard_eq_ok.mp h
  cases h
  rw [if_neg hcount]
  refine ⟨_,rfl,?_⟩
  rw [text_narrowed]
  exact congrArg (· ++ _) (List.append_nil _).symm

theorem parameters_narrowed (statement : Text) (clause : Option Filled) :
    (narrowed statement clause).parameters = (clause.map parameters).getD [] := by
  rw [narrowed, parameters_append, parameters_plain, parameters_optional]
  rfl

end Filled
end SealedRows
