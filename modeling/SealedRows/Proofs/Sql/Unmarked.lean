import SealedRows.Proofs.Sql.Fills
import SealedRows.Proofs.Text.Numeral
import SealedRows.Session.Aggregate

/-! # Statements without question marks of their own

Where the names of tables and columns hold no question mark, the question marks of a statement are those of
its parameters.
-/
namespace SealedRows

theorem mark_not_mem_saltColumnName : mark ∉ saltColumnName := by decide

theorem Schema.Unmarked.mark_not_mem_of_stored {s : Schema} {name : Text} (hs : s.Unmarked) (h : name ∈ s.storageColumnNames) : mark ∉ name := by
  rcases List.mem_append.mp h with h | h
  · obtain ⟨c,hc,rfl⟩ := List.mem_map.mp h
    exact hs.2 c hc
  · split at h
    · rw [List.mem_singleton.mp h]
      exact mark_not_mem_saltColumnName
    · cases h

namespace Text

theorem mark_not_mem_ofNat (n : Nat) : mark ∉ ofNat n := by
  intro hmark
  obtain ⟨d,hd,hpoint⟩ := List.mem_map.mp hmark
  have hdigits : ∀ d < 10, digitPoint d ≠ mark := by decide
  exact hdigits d (lt_ten_of_mem_digits hd) hpoint

theorem mark_not_mem_ofInt (n : Int) : mark ∉ ofInt n := by
  cases n with
  | ofNat n => exact mark_not_mem_ofNat n
  | negSucc n =>
    exact List.not_mem_cons_of_ne_of_not_mem (by decide) (mark_not_mem_ofNat (n + 1))

end Text

namespace Filled
variable {table : Text} {clause : Filled} {f : Filled}

theorem mark_not_mem_optional {word : Text} {part : Option Text} (hword : mark ∉ word)
    (h : ∀ t, part = some t → mark ∉ t) : mark ∉ Sql.optional word part := by
  have hblank : mark ∉ (" " : Text) := by decide
  rcases part with _ | _ | ⟨c,t⟩
  · exact List.not_mem_nil
  · exact List.not_mem_nil
  · have ht := h _ rfl
    simp [Sql.optional, hword, hblank, ht]

theorem unmarked_optional {word : Text} {clause : Option Filled} (hword : mark ∉ word)
    (h : ∀ f, clause = some f → f.Unmarked) : (optional word clause).Unmarked := by
  have hblank : mark ∉ (" " : Text) := by decide
  rcases clause with _ | _ | ⟨c,f⟩
  · exact unmarked_nil
  · exact unmarked_nil
  · unfold optional
    simp only [unmarked_append, unmarked_plain, List.mem_append, hword, hblank, h _ rfl, or_self,
      not_false_iff, and_self]

theorem unmarked_insert {row : Row} {replace : Bool} (htable : mark ∉ table)
    (hrow : ∀ cell ∈ row, mark ∉ cell.name) : (insert table row replace).Unmarked := by
  have hnames : mark ∉ Sql.listed (row.map (·.name)) := mark_not_mem_listed (by simpa using hrow)
  have hvalues : (listed (row.map fun cell => [.parameter cell.value])).Unmarked :=
    unmarked_listed (by simp)
  have hword : ∀ t ∈ (["INSERT OR REPLACE", "INSERT", " INTO ", " (", ") VALUES (", ")", " DEFAULT VALUES"] :
      List Text), mark ∉ t := by decide
  simp only [List.forall_mem_cons] at hword
  unfold insert
  cases row with
  | nil => cases replace <;> simp [Sql.insert, htable, hword]
  | cons cell rest =>
    rw [List.map_cons] at hnames hvalues
    cases replace <;> simp [htable, hnames, hvalues, hword]

theorem unmarked_update {row : Row} (htable : mark ∉ table) (hrow : ∀ cell ∈ row, mark ∉ cell.name)
    (hclause : clause.Unmarked) : (update table row clause).Unmarked := by
  have hword : ∀ t ∈ (["UPDATE ", " SET ", " WHERE ", " = "] : List Text), mark ∉ t := by decide
  simp only [List.forall_mem_cons] at hword
  have hassigned : (listed (row.map assigned)).Unmarked := by
    refine unmarked_listed fun f hf => ?_
    obtain ⟨cell,hcell,rfl⟩ := List.mem_map.mp hf
    simp [assigned, hrow cell hcell, hword]
  simp [update, htable, hassigned, hclause, hword]

theorem unmarked_delete (htable : mark ∉ table) (hclause : clause.Unmarked) :
    (delete table clause).Unmarked := by
  have hword : ∀ t ∈ (["DELETE FROM ", " WHERE "] : List Text), mark ∉ t := by decide
  simp only [List.forall_mem_cons] at hword
  simp [delete, htable, hclause, hword]

theorem unmarked_select {clause : Option Filled} {columns : List Text} {orderBy : Option Text}
    {sortOrder : SortOrder} {limit : Option Int} (htable : mark ∉ table)
    (hclause : ∀ f, clause = some f → f.Unmarked) (hcolumns : ∀ name ∈ columns, mark ∉ name)
    (horder : ∀ name, orderBy = some name → mark ∉ name) :
    (select table clause columns orderBy sortOrder limit).Unmarked := by
  have hword : ∀ t ∈ (["SELECT ", "*", " FROM ", "WHERE", "ORDER BY", "LIMIT", " ", "ASC", "DESC"] : List Text),
      mark ∉ t := by decide
  simp only [List.forall_mem_cons] at hword
  obtain ⟨hselect,hall,hfrom,hwhere,horderBy,hlimit,hblank,hasc,hdesc,_⟩ := hword
  have hselected : mark ∉ (if columns.isEmpty then "*" else Sql.listed columns : Text) := by
    split
    · exact hall
    · exact mark_not_mem_listed hcolumns
  have hordered : mark ∉ Sql.optional "ORDER BY"
      (orderBy.map fun c => if c.isEmpty then c else c ++ " " ++ sortOrder.name) := by
    refine mark_not_mem_optional horderBy fun t ht => ?_
    obtain ⟨name,hname,rfl⟩ := Option.map_eq_some_iff.mp ht
    have hname := horder name hname
    cases sortOrder <;> split <;> simp [SortOrder.name, hname, hblank, hasc, hdesc]
  have hlimited : mark ∉ Sql.optional "LIMIT" (limit.map Text.ofInt) := by
    refine mark_not_mem_optional hlimit fun t ht => ?_
    obtain ⟨n,_,rfl⟩ := Option.map_eq_some_iff.mp ht
    exact Text.mark_not_mem_ofInt n
  have hfiltered := unmarked_optional hwhere hclause
  simp only [select, unmarked_append, unmarked_plain, List.mem_append, not_or]
  exact ⟨⟨⟨⟨⟨hselect,hselected⟩,hfrom⟩,htable⟩,hfiltered⟩,hordered,hlimited⟩

theorem unmarked_selectTop (htable : mark ∉ table) (count : Value) : (selectTop table count).Unmarked := by
  have hword : ∀ t ∈ (["SELECT * FROM ", " LIMIT "] : List Text), mark ∉ t := by decide
  simp only [List.forall_mem_cons] at hword
  simp [selectTop, htable, hword]

theorem unmarked_narrowed {statement : Text} {clause : Option Filled} (hstatement : mark ∉ statement)
    (hclause : ∀ f, clause = some f → f.Unmarked) : (narrowed statement clause).Unmarked := by
  rw [narrowed, unmarked_append, unmarked_plain]
  exact ⟨hstatement,unmarked_optional (by decide) hclause⟩

theorem mark_not_mem_aggregate (a : Aggregate) {column : Text} (distinct : Bool) (htable : mark ∉ table)
    (hcolumn : mark ∉ column) : mark ∉ Sql.aggregate a.name table column distinct none := by
  have hword : ∀ t ∈ (["SELECT ", "(", "DISTINCT ", ") FROM ", "COUNT", "MAX", "MIN", "SUM", "AVG"] : List Text),
      mark ∉ t := by decide
  simp only [List.forall_mem_cons] at hword
  cases a <;> cases distinct <;>
    simp [Sql.aggregate, Sql.optional, Aggregate.name, htable, hcolumn, hword]

theorem mark_not_mem_join {schemas : List Schema} {conditions : List Text} {left : Bool} {sql : Text}
    (hschemas : ∀ s ∈ schemas, s.Unmarked) (hconditions : ∀ condition ∈ conditions, mark ∉ condition)
    (h : Sql.join schemas conditions none left = .ok sql) : mark ∉ sql := by
  have hword : ∀ t ∈ (["SELECT ", " FROM ", " LEFT JOIN ", " INNER JOIN ", " ON ", "."] : List Text),
      mark ∉ t := by decide
  simp only [List.forall_mem_cons] at hword
  unfold Sql.join at h
  obtain ⟨_,h⟩ := guard_eq_ok.mp h
  cases h
  generalize hkind : (if left then " LEFT JOIN " else " INNER JOIN " : Text) = kind
  have hkind : mark ∉ kind := by
    rw [← hkind]
    cases left <;> simp [hword]
  have hselected : mark ∉ Sql.listed (schemas.flatMap Sql.qualifiedColumns) := by
    refine mark_not_mem_listed fun name hname => ?_
    obtain ⟨s,hs,hname⟩ := List.mem_flatMap.mp hname
    obtain ⟨column,hcolumn,rfl⟩ := List.mem_map.mp hname
    simp [(hschemas s hs).1, (hschemas s hs).mark_not_mem_of_stored hcolumn, hword]
  have hfirst : mark ∉ (schemas.head?.map (·.name)).getD [] := by
    cases schemas with
    | nil => exact List.not_mem_nil
    | cons s rest => exact (hschemas s List.mem_cons_self).1
  have hjoined : mark ∉ (List.zipWith (fun s on => kind ++ s.name ++ " ON " ++ on) (schemas.drop 1)
      conditions).flatten := by
    intro hmark
    obtain ⟨part,hpart,hmark⟩ := List.mem_flatten.mp hmark
    rw [← List.map_uncurry_zip_eq_zipWith] at hpart
    obtain ⟨⟨s,condition⟩,hzip,rfl⟩ := List.mem_map.mp hpart
    obtain ⟨hs,hon⟩ := List.of_mem_zip hzip
    have hs := hschemas s (List.mem_of_mem_drop hs)
    simp [hkind, hs.1, hconditions condition hon, hword] at hmark
  simp only [Sql.optional, List.append_nil, List.mem_append, not_or]
  exact ⟨⟨⟨⟨hword.1,hselected⟩,hword.2.1⟩,hfirst⟩,hjoined⟩

end Filled
end SealedRows
