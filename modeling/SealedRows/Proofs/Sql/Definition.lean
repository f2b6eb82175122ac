import SealedRows.Proofs.Codec.StorageClass
import SealedRows.Proofs.Sql.Literal
import SealedRows.Proofs.Sql.Meaning

/-! # The statement that makes a table

How a database reads the statement that makes a table, as far as the statements here go. What stands between
the outer brackets is divided at the commas that are neither in quotes nor in inner brackets. A part that
begins with a reserved word is about the whole table. Any other part is a column: its name, its type and
its constraints. The columns of the statement are those of the schema, with the salt behind them, whatever the
defaults of the columns are.
-/
namespace SealedRows.Sql

/-! ## Words -/

def nextWord (t : Text) : Text × Text :=
  let t := t.dropWhile CodePoint.isLatinBlank
  (t.takeWhile isNamePoint,t.dropWhile isNamePoint)

def skipWords? : List Text → Text → Option Text
  | [], t => some t
  | word :: words, t =>
    let (next,rest) := nextWord t
    if next.map Text.upperLatin = word then skipWords? words rest else none

def EndsName (rest : Text) : Prop := ∀ c ∈ rest.head?, isNamePoint c = false

theorem endsName_append {t : Text} (ht : t.head?.any fun c => !isNamePoint c) (rest : Text) :
    EndsName (t ++ rest) := by
  intro c hc
  cases t with
  | nil => cases ht
  | cons d t =>
    cases hc
    simpa using ht

theorem nextWord_append {blanks word rest : Text} (hblanks : ∀ c ∈ blanks, c.isLatinBlank)
    (hword : ∀ c ∈ word, isNamePoint c) (hne : word ≠ []) (hrest : EndsName rest) :
    nextWord (blanks ++ (word ++ rest)) = (word,rest) := by
  have hfirst : ∀ c ∈ (word ++ rest).head?, c.isLatinBlank = false := by
    cases word with
    | nil => exact absurd rfl hne
    | cons d word =>
      rintro c ⟨⟩
      exact isLatinBlank_eq_false (hword d (by simp))
  obtain ⟨-,hdrop⟩ := Text.takeWhile_append_stop hblanks hfirst
  obtain ⟨htake',hdrop'⟩ := Text.takeWhile_append_stop hword hrest
  simp only [nextWord, hdrop, htake', hdrop']

/-! ## Columns -/

/-- A column in a statement: its name, its type and the text of its constraints. -/
structure ColumnClause where
  name : Text
  type : Text
  constraints : Text

/-- Reads the part of a column; a part that is about the whole table begins with a reserved word. -/
def readColumn? (part : Text) : Option ColumnClause :=
  let (name,rest) := nextWord part
  if name.isEmpty || reservedWords.contains (name.map Text.lowerLatin) then none
  else
    let (type,rest) := nextWord rest
    some ⟨name,type,rest⟩

theorem IsPlainName.isNamePoint_of_mem {t : Text} (h : IsPlainName t) {c : CodePoint} (hc : c ∈ t) :
    isNamePoint c := List.all_eq_true.mp h.2.1 c hc

theorem isNamePoint_of_mem_storageClass {k : StorageClass} {c : CodePoint} (h : c ∈ k.name) :
    isNamePoint c := by
  have hall : k.name.all isNamePoint := by cases k <;> decide
  exact List.all_eq_true.mp hall c h

/-- The part of a column is read as its name, its type and what follows them. -/
theorem readColumn?_of_plain {blanks name : Text} {k : StorageClass} {rest : Text}
    (hblanks : ∀ c ∈ blanks, c.isLatinBlank) (hname : IsPlainName name) (hrest : EndsName rest) :
    readColumn? (blanks ++ (name ++ " " ++ k.name ++ rest)) = some ⟨name,k.name,rest⟩ := by
  have hspace : Text.ofString " " = [CodePoint.ofChar ' '] := rfl
  have hblank : ∀ c ∈ [CodePoint.ofChar ' '], c.isLatinBlank := List.all_eq_true.mp (by decide)
  have hend : EndsName ([CodePoint.ofChar ' '] ++ (k.name ++ rest)) := endsName_append (by decide) _
  have hne : k.name ≠ [] := by cases k <;> decide
  have hwords : name ++ " " ++ k.name ++ rest = name ++ ([CodePoint.ofChar ' '] ++ (k.name ++ rest)) := by
    simp [hspace]
  have hfirst := nextWord_append hblanks (fun _ => hname.isNamePoint_of_mem) hname.ne_nil hend
  have hsecond := nextWord_append hblank (fun _ => isNamePoint_of_mem_storageClass) hne hrest
  simp only [readColumn?, hwords, hfirst, hsecond]
  simp [hname.ne_nil, hname.2.2]

/-! ## Stored values -/

theorem natAbs_lt_of_holds {l : IntLayout} {n : ℤ} (h : l.Holds n) : n.natAbs < 10 ^ 20 := by
  obtain ⟨signed,width⟩ := l
  cases signed <;> cases width <;>
    simp only [IntLayout.Holds, IntLayout.least, IntLayout.bound, IntLayout.count, IntWidth.bytes] at h <;>
    norm_num at h ⊢ <;> omega

theorem isShowable_of_natAbs_lt {n : ℤ} (h : n.natAbs < 10 ^ 20) : (Value.int n).isShowable := by
  have hlength : (Text.digits n.natAbs).length ≤ 20 := by
    by_cases hzero : n.natAbs = 0
    · rw [hzero, Text.digits, Text.digitsOnto]
      decide
    · obtain ⟨k,hk,hlow,-⟩ := Text.pow_length_digits hzero
      have hpower : k < 20 := (Nat.pow_lt_pow_iff_right (by decide)).mp (hlow.trans_lt h)
      omega
  exact decide_eq_true (hlength.trans (by decide))

/-- No literal has more digits than are written out. -/
theorem isShowable_of_encode {kind : ValueKind} {v stored : Value} {ordinal : ℤ} (hv : v ≠ .none)
    (h : kind.encode v ordinal none = .ok stored) : stored.isShowable := by
  rw [ValueKind.encode_plain kind hv] at h
  have hstores := ValueKind.stores_encodePlain h
  generalize kind.storageClass = declared at hstores
  cases hstores with
  | integer hn =>
    refine isShowable_of_natAbs_lt ?_
    cases kind with
    | integer l => exact natAbs_lt_of_holds hn
    | bool => rcases hn with rfl | rfl <;> decide
    | _ => cases hn
  | _ => rfl

theorem isStored_of_encode {kind : ValueKind} {v stored : Value} {ordinal : ℤ} (hv : v ≠ .none)
    (h : kind.encode v ordinal none = .ok stored) : IsStored stored := by
  rw [ValueKind.encode_plain kind hv] at h
  by_cases hkind : kind.isBlobStored
  · obtain ⟨bs,-,rfl⟩ := ValueKind.encodePlain_of_isBlobStored hkind h
    exact .bytes bs
  · unfold ValueKind.encodePlain at h
    rw [if_neg hkind] at h
    cases kind with
    | bool =>
      obtain ⟨b,-,rfl⟩ := map_eq_ok.mp h
      exact .int _
    | integer l =>
      obtain ⟨_,-,h⟩ := bind_eq_ok.mp h
      obtain ⟨n,-,rfl⟩ := map_eq_ok.mp h
      exact .int n
    | float32 =>
      obtain ⟨x,-,rfl⟩ := map_eq_ok.mp h
      exact .float x
    | float64 =>
      obtain ⟨x,-,rfl⟩ := map_eq_ok.mp h
      exact .float x
    | string =>
      cases v with
      | text t =>
        cases h
        exact .text t
      | _ => cases h
    | _ => exact absurd rfl hkind

/-! ## Parts -/

def parts? (quoted : Bool) (depth : ℕ) : Text → Option (List Text)
  | [] => none
  | c :: rest =>
    if c = quote then (parts? (!quoted) depth rest).map (List.modifyHead (c :: ·))
    else if quoted then (parts? quoted depth rest).map (List.modifyHead (c :: ·))
    else if c = ',' ∧ depth = 0 then (parts? quoted depth rest).map ([] :: ·)
    else if c = ')' ∧ depth = 0 then some [[]]
    else
      let depth := if c = '(' then depth + 1 else if c = ')' then depth - 1 else depth
      (parts? quoted depth rest).map (List.modifyHead (c :: ·))

/-- Whether a text belongs to one part wherever it begins outside of quotes, and leaves no bracket open. -/
def Passes (t : Text) : Prop :=
  ∀ depth rest, parts? false depth (t ++ rest) = (parts? false depth rest).map (List.modifyHead (t ++ ·))

/-- What is put before the first part in two steps can be put there in one. -/
theorem map_modifyHead (f g : Text → Text) (parts : Option (List Text)) :
    (parts.map (List.modifyHead f)).map (List.modifyHead g) =
      parts.map (List.modifyHead fun t => g (f t)) := by
  rw [Option.map_map]
  congr 1
  funext l
  exact List.modifyHead_modifyHead

theorem passes_nil : Passes [] := by
  intro depth rest
  have hid : List.modifyHead (fun t : Text => [] ++ t) = id := List.modifyHead_id
  rw [hid, Option.map_id]
  rfl

theorem Passes.append {s t : Text} (hs : Passes s) (ht : Passes t) : Passes (s ++ t) := by
  intro depth rest
  rw [List.append_assoc, hs, ht, map_modifyHead]
  simp only [List.append_assoc]

def isMark (c : CodePoint) : Bool := c = quote || c = ',' || c = '(' || c = ')'

theorem passes_of_plain {t : Text} (h : ∀ c ∈ t, isMark c = false) : Passes t := by
  induction t with
  | nil => exact passes_nil
  | cons c t ih =>
    obtain ⟨hc,ht⟩ := List.forall_mem_cons.mp h
    rw [← List.singleton_append]
    refine Passes.append ?_ (ih ht)
    intro depth rest
    simp only [isMark, Bool.or_eq_false_iff, decide_eq_false_iff_not] at hc
    simp [parts?, hc]

theorem passes_of_all {t : Text} (h : t.all fun c => !isMark c) : Passes t := by
  apply passes_of_plain
  intro c hc
  simpa using List.all_eq_true.mp h c hc

theorem parts?_quote (quoted : Bool) (depth : ℕ) (rest : Text) : parts? quoted depth (quote :: rest) =
    (parts? (!quoted) depth rest).map (List.modifyHead (quote :: ·)) := by simp [parts?]

theorem parts?_quoted {c : CodePoint} (hc : c ≠ quote) (depth : ℕ) (rest : Text) :
    parts? true depth (c :: rest) = (parts? true depth rest).map (List.modifyHead (c :: ·)) := by
  simp [parts?, hc]

theorem parts?_comma (rest : Text) :
    parts? false 0 (CodePoint.ofChar ',' :: rest) = (parts? false 0 rest).map ([] :: ·) := by
  have hquote : CodePoint.ofChar ',' ≠ quote := by decide
  simp [parts?, hquote]

theorem parts?_end (rest : Text) : parts? false 0 (CodePoint.ofChar ')' :: rest) = some [[]] := by
  have hquote : CodePoint.ofChar ')' ≠ quote := by decide
  have hcomma : CodePoint.ofChar ')' ≠ CodePoint.ofChar ',' := by decide
  simp [parts?, hquote, hcomma]

theorem Passes.brackets {t : Text} (h : Passes t) : Passes ("(" ++ t ++ ")") := by
  have hopen : Text.ofString "(" = [CodePoint.ofChar '('] := rfl
  have hclose : Text.ofString ")" = [CodePoint.ofChar ')'] := rfl
  have hquote : CodePoint.ofChar '(' ≠ quote ∧ CodePoint.ofChar ')' ≠ quote := by decide
  have hcomma : CodePoint.ofChar '(' ≠ CodePoint.ofChar ',' ∧
      CodePoint.ofChar ')' ≠ CodePoint.ofChar ',' := by
    decide
  have hbracket : CodePoint.ofChar '(' ≠ CodePoint.ofChar ')' := by decide
  intro depth rest
  have hstart (u : Text) : parts? false depth (CodePoint.ofChar '(' :: u) =
      (parts? false (depth + 1) u).map (List.modifyHead (CodePoint.ofChar '(' :: ·)) := by
    simp [parts?, hquote, hcomma, hbracket]
  have hend : parts? false (depth + 1) (CodePoint.ofChar ')' :: rest) =
      (parts? false depth rest).map (List.modifyHead (CodePoint.ofChar ')' :: ·)) := by
    simp [parts?, hquote, hcomma, hbracket.symm]
  have htext : Text.ofString "(" ++ t ++ Text.ofString ")" ++ rest =
      CodePoint.ofChar '(' :: (t ++ CodePoint.ofChar ')' :: rest) := by simp [hopen, hclose]
  rw [htext, hstart, h, hend, map_modifyHead, map_modifyHead]
  simp [hopen, hclose]

/-- Inside of quotes nothing is a mark, and two quotes leave a text where it was. -/
theorem parts?_inQuotes (t : Text) (depth : ℕ) (rest : Text) : parts? true depth (inQuotes t rest) =
    (parts? false depth rest).map (List.modifyHead (inQuotes t [] ++ ·)) := by
  induction t with
  | nil => exact parts?_quote true depth rest
  | cons c t ih =>
    rw [inQuotes_cons, inQuotes_cons]
    split
    · rw [parts?_quote, Bool.not_true, parts?_quote, Bool.not_false, ih, map_modifyHead, map_modifyHead]
      rfl
    · next hc =>
      rw [parts?_quoted hc, ih, map_modifyHead]
      rfl

theorem passes_quoted (t : Text) : Passes (quote :: inQuotes t []) := by
  intro depth rest
  have hinside : inQuotes t [] ++ rest = inQuotes t rest := by simp [inQuotes]
  rw [List.cons_append, hinside, parts?_quote, Bool.not_false, parts?_inQuotes, map_modifyHead]
  rfl

theorem isMark_of_isPoint {c : CodePoint} (h : Numeral.isPoint c) : isMark c = false := by
  rw [← Bool.not_eq_true]
  intro hmark
  simp only [isMark, Bool.or_eq_true, decide_eq_true_eq] at hmark
  rcases hmark with ((rfl | rfl) | rfl) | rfl
  all_goals exact absurd h (by decide)

theorem isMark_of_mem_toText {x : Double} {c : CodePoint} (h : c ∈ x.toText) : isMark c = false := by
  by_cases hx : x.isFinite
  · exact isMark_of_isPoint (isPoint_of_mem_toText hx h)
  · have hnames : ∀ t ∈ specialNames, t.all fun c => !isMark c := by decide
    simpa using List.all_eq_true.mp (hnames _ (toText_mem_specialNames hx)) c h

/-- The literal of a stored value belongs to one part. -/
theorem passes_literal {v : Value} (hv : IsStored v) : Passes (literal v) := by
  cases hv with
  | int n => exact passes_of_plain fun c hc => isMark_of_isPoint (isPoint_of_mem_ofInt hc)
  | float x => exact passes_of_plain fun c hc => isMark_of_mem_toText hc
  | text t =>
    rw [literal_text]
    exact passes_quoted t
  | bytes bs =>
    have hinside : inQuotes bs.upperHex [] = bs.upperHex ++ [quote] :=
      inQuotes_of_not_mem (fun hquote => ne_quote_of_mem_upperHex hquote rfl) []
    rw [literal_bytes, ← hinside, ← List.singleton_append]
    exact (passes_of_all (by decide)).append (passes_quoted bs.upperHex)

/-! ## Columns of a statement -/

inductive Constrains (c : Column) : Text → Prop where
  | counted (hkey : c.isPrimaryKey) (hcounted : c.isAutoIncrement) :
      Constrains c " PRIMARY KEY AUTOINCREMENT"
  | key (hkey : c.isPrimaryKey) (hcounted : c.isAutoIncrement = false) : Constrains c " PRIMARY KEY NOT NULL"
  | required (hkey : c.isPrimaryKey = false) (hrequired : c.isNotNull) (hdefault : c.defaultValue = .none) :
      Constrains c " NOT NULL"
  | filled {stored : Value} (hkey : c.isPrimaryKey = false) (hrequired : c.isNotNull)
      (hdefault : c.defaultValue ≠ .none) (h : c.kind.encode c.defaultValue c.ordinal none = .ok stored) :
      Constrains c (" NOT NULL DEFAULT " ++ literal stored)
  | free (hkey : c.isPrimaryKey = false) (hrequired : c.isNotNull = false) : Constrains c []

/-- The clause of a column is its name, its type and its constraints. -/
theorem columnDefinition_eq_ok {c : Column} {clause : Text} (h : columnDefinition c = .ok clause) :
    ∃ constraints, Constrains c constraints ∧
      clause = c.name ++ " " ++ c.storageClass.name ++ constraints := by
  simp only [columnDefinition] at h
  split at h
  · next hboth =>
    cases h
    obtain ⟨hkey,hcounted⟩ := Bool.and_eq_true_iff.mp hboth
    exact ⟨_,.counted hkey hcounted,rfl⟩
  · next hboth =>
    split at h
    · next hkey =>
      cases h
      exact ⟨_,.key hkey (by simpa [hkey] using hboth),rfl⟩
    · next hkey =>
      rw [Bool.not_eq_true] at hkey
      split at h
      · next hrequired =>
        split at h
        · next hdefault =>
          cases h
          exact ⟨_,.required hkey hrequired (Value.isNone_iff.mp hdefault),rfl⟩
        · next hdefault =>
          obtain ⟨stored,hstored,h⟩ := bind_eq_ok.mp h
          cases h
          exact ⟨_,.filled hkey hrequired (mt Value.isNone_iff.mpr hdefault) hstored,by simp⟩
      · next hrequired =>
        cases h
        exact ⟨_,.free hkey (by simpa using hrequired),by simp⟩

/-- A column that needs a value has a clause with its default, if it is no key and the default can be
stored. -/
theorem columnDefinition_of_filled {c : Column} {stored : Value} (hkey : c.isPrimaryKey = false)
    (hrequired : c.isNotNull) (hdefault : c.defaultValue ≠ .none)
    (h : c.kind.encode c.defaultValue c.ordinal none = .ok stored) : columnDefinition c =
      .ok (c.name ++ " " ++ c.storageClass.name ++ (" NOT NULL DEFAULT " ++ literal stored)) := by
  have hnone : c.defaultValue.isNone = false := Bool.eq_false_iff.mpr (mt Value.isNone_iff.mp hdefault)
  simp only [columnDefinition, hkey, hrequired, hnone, h]
  simp [bind, Except.bind, pure, Except.pure]

namespace Constrains
variable {c : Column} {constraints : Text} (h : Constrains c constraints)
include h

theorem passes : Passes constraints := by
  cases h with
  | filled _ _ hdefault hstored =>
    exact (passes_of_all (by decide)).append (passes_literal (isStored_of_encode hdefault hstored))
  | _ => exact passes_of_all (by decide)

theorem endsName {tail : Text} (htail : EndsName tail) : EndsName (constraints ++ tail) := by
  have hspace : isNamePoint (CodePoint.ofChar ' ') = false := by decide
  cases h with
  | free => exact htail
  | _ =>
    rintro c ⟨⟩
    exact hspace

end Constrains

/-! ## The statement -/

/-- The name and the type that a column is declared with. -/
def ColumnClause.declared (c : ColumnClause) : Text × Text := (c.name,c.type)

def Reads (part : Text) (column : Option (Text × Text)) : Prop :=
  Passes part ∧ ∀ tail, EndsName tail →
    (readColumn? ("\n" ++ (part ++ tail))).map ColumnClause.declared = column

theorem isLatinBlank_of_mem_newline : ∀ c ∈ Text.ofString "\n", c.isLatinBlank :=
  List.all_eq_true.mp (by decide)

theorem IsPlainName.passes {t : Text} (h : IsPlainName t) : Passes t := by
  have hmark (c : CodePoint) (hc : isNamePoint c) : isMark c = false := by
    rw [← Bool.not_eq_true]
    intro hmark
    simp only [isMark, Bool.or_eq_true, decide_eq_true_eq] at hmark
    rcases hmark with ((rfl | rfl) | rfl) | rfl
    all_goals exact absurd hc (by decide)
  exact passes_of_plain fun c hc => hmark c (h.isNamePoint_of_mem hc)

theorem reads_column {name constraints : Text} {k : StorageClass} (hname : IsPlainName name)
    (hpasses : Passes constraints) (hends : ∀ {tail}, EndsName tail → EndsName (constraints ++ tail)) :
    Reads (name ++ " " ++ k.name ++ constraints) (some (name,k.name)) := by
  constructor
  · have hspace : Passes (Text.ofString " ") := passes_of_all (by decide)
    have htype : Passes k.name := by cases k <;> exact passes_of_all (by decide)
    exact ((hname.passes.append hspace).append htype).append hpasses
  · intro tail htail
    rw [List.append_assoc _ constraints, readColumn?_of_plain isLatinBlank_of_mem_newline hname (hends htail)]
    rfl

theorem reads_foreignKey {k : ForeignKey} (hcolumn : IsPlainName k.columnName)
    (htable : IsPlainName k.referencedTable) (hreferenced : IsPlainName k.referencedColumn) :
    Reads (foreignKeyDefinition k) none := by
  have hfirst : Text.ofString "FOREIGN KEY(" =
      Text.ofString "FOREIGN" ++ (Text.ofString " KEY" ++ Text.ofString "(") := rfl
  have hsecond : Text.ofString ") REFERENCES " = Text.ofString ")" ++ Text.ofString " REFERENCES " := rfl
  have htext : foreignKeyDefinition k = Text.ofString "FOREIGN" ++ (Text.ofString " KEY" ++
      ((Text.ofString "(" ++ k.columnName ++ Text.ofString ")") ++ (Text.ofString " REFERENCES " ++
      (k.referencedTable ++ (Text.ofString "(" ++ k.referencedColumn ++ Text.ofString ")"))))) := by
    simp [foreignKeyDefinition, hfirst, hsecond]
  rw [htext]
  constructor
  · have hforeign : Passes (Text.ofString "FOREIGN") := passes_of_all (by decide)
    have hkey : Passes (Text.ofString " KEY") := passes_of_all (by decide)
    have hreferences : Passes (Text.ofString " REFERENCES ") := passes_of_all (by decide)
    exact hforeign.append (hkey.append (hcolumn.passes.brackets.append
      (hreferences.append (htable.passes.append hreferenced.passes.brackets))))
  · intro tail _
    have hname : ∀ c ∈ Text.ofString "FOREIGN", isNamePoint c := List.all_eq_true.mp (by decide)
    have hend (u : Text) : EndsName (Text.ofString " KEY" ++ u) := endsName_append (by decide) u
    have hreserved : (Text.ofString "FOREIGN").map Text.lowerLatin ∈ reservedWords := by decide
    rw [List.append_assoc, List.append_assoc (Text.ofString " KEY"), readColumn?,
      nextWord_append isLatinBlank_of_mem_newline hname (by decide) (hend _)]
    simp [hreserved]

theorem joined_cons_cons (separator p q : Text) (ps : List Text) :
    Text.joined separator (p :: q :: ps) = p ++ (separator ++ Text.joined separator (q :: ps)) := by
  simp [Text.joined, List.intercalate]

/-- The columns of a statement are read from its parts. -/
theorem parts?_body {ps : List Text} {columns : List (Option (Text × Text))}
    (h : List.Forall₂ Reads ps columns) :
    ∃ parts, parts? false 0 ("\n" ++ (Text.joined ",\n" ps ++ "\n)")) = some parts ∧
      parts.filterMap (fun part => (readColumn? part).map ColumnClause.declared) = columns.filterMap id := by
  have hline : Passes (Text.ofString "\n") := passes_of_all (by decide)
  have hend : EndsName (Text.ofString "\n" ++ []) := endsName_append (by decide) []
  rw [List.append_nil] at hend
  have hclose : Text.ofString "\n)" = Text.ofString "\n" ++ [CodePoint.ofChar ')'] := rfl
  have hcomma : Text.ofString ",\n" = CodePoint.ofChar ',' :: Text.ofString "\n" := rfl
  induction h with
  | nil => exact ⟨[Text.ofString "\n\n"],rfl,rfl⟩
  | @cons p column ps columns hp hps ih =>
    cases hps with
    | nil =>
      have htext : Text.ofString "\n" ++ (Text.joined (Text.ofString ",\n") [p] ++ Text.ofString "\n)") =
          (Text.ofString "\n" ++ (p ++ Text.ofString "\n")) ++ [CodePoint.ofChar ')'] := by
        simp [Text.joined, hclose]
      refine ⟨[Text.ofString "\n" ++ (p ++ Text.ofString "\n")],?_,?_⟩
      · rw [htext, hline.append (hp.1.append hline), parts?_end]
        simp
      · rw [List.filterMap_cons, hp.2 _ hend, List.filterMap_cons]
        rfl
    | @cons q other ps columns hq hps =>
      obtain ⟨parts,hparts,hcolumns⟩ := ih
      have htext : Text.ofString "\n" ++ (Text.joined (Text.ofString ",\n") (p :: q :: ps) ++ Text.ofString "\n)") =
          (Text.ofString "\n" ++ (p ++ [])) ++ CodePoint.ofChar ',' ::
            (Text.ofString "\n" ++ (Text.joined (Text.ofString ",\n") (q :: ps) ++ Text.ofString "\n)")) := by
        simp [joined_cons_cons, hcomma]
      refine ⟨(Text.ofString "\n" ++ (p ++ [])) :: parts,?_,?_⟩
      · rw [htext, hline.append (hp.1.append passes_nil), parts?_comma, hparts]
        simp
      · rw [List.filterMap_cons, hp.2 [] nofun, hcolumns]
        rfl

structure TableDefinition where
  name : Text
  columns : List ColumnClause

/-- Reads the statement that makes a table. -/
def readTable? (t : Text) : Option TableDefinition := do
  let rest ← skipWords? ["CREATE","TABLE","IF","NOT","EXISTS"] t
  let (name,rest) := nextWord rest
  match rest.dropWhile CodePoint.isLatinBlank with
  | [] => none
  | c :: body =>
    if c = '(' then (parts? false 0 body).map fun parts => ⟨name,parts.filterMap readColumn?⟩ else none

/-- Whether the tables and columns that the foreign keys of a schema name have names that need no quotes. -/
def Refers (s : Schema) : Prop := ∀ k ∈ s.foreignKeys,
  IsPlainName k.columnName ∧ IsPlainName k.referencedTable ∧ IsPlainName k.referencedColumn

/-- The names and types of the columns that a schema needs, with the salt behind them. -/
def declaredColumns (s : Schema) : List (Text × Text) :=
  (s.columns.map fun c => (c.name,c.storageClass.name)) ++
    if s.hasEncryptedColumns then [(saltColumnName,StorageClass.blob.name)] else []

theorem isPlainName_saltColumnName : IsPlainName saltColumnName := by decide

theorem reads_columnDefinition {c : Column} {clause : Text} (hname : IsPlainName c.name)
    (h : columnDefinition c = .ok clause) : Reads clause (some (c.name,c.storageClass.name)) := by
  obtain ⟨constraints,hconstraints,rfl⟩ := columnDefinition_eq_ok h
  exact reads_column hname hconstraints.passes hconstraints.endsName

theorem reads_columns {columns : List Column} {clauses : List Text}
    (hnames : ∀ c ∈ columns, IsPlainName c.name)
    (h : columns.mapM columnDefinition = .ok clauses) :
    List.Forall₂ Reads clauses (columns.map fun c => some (c.name,c.storageClass.name)) := by
  induction columns generalizing clauses with
  | nil =>
    cases h
    exact .nil
  | cons c columns ih =>
    obtain ⟨hname,hnames⟩ := List.forall_mem_cons.mp hnames
    rw [List.mapM_cons] at h
    obtain ⟨clause,hclause,h⟩ := bind_eq_ok.mp h
    obtain ⟨clauses,hclauses,h⟩ := bind_eq_ok.mp h
    cases h
    exact .cons (reads_columnDefinition hname hclause) (ih hnames hclauses)

/-- The parts of the statement of a schema, with the columns among them. -/
theorem reads_parts {s : Schema} {clauses : List Text} (hnames : s.HasPlainNames) (hrefers : Refers s)
    (h : s.columns.mapM columnDefinition = .ok clauses) :
    List.Forall₂ Reads
      (clauses ++ (if s.hasEncryptedColumns then [saltColumnName ++ " " ++ StorageClass.blob.name] else []) ++
        s.foreignKeys.map foreignKeyDefinition)
      ((declaredColumns s).map some ++ s.foreignKeys.map fun _ => none) := by
  refine List.rel_append (R := Reads) ?_ ?_
  · rw [declaredColumns, List.map_append]
    refine List.rel_append (R := Reads) ?_ ?_
    · rw [List.map_map]
      exact reads_columns hnames.2 h
    · split
      · have hsalt : Reads (saltColumnName ++ Text.ofString " " ++ StorageClass.blob.name ++ [])
            (some (saltColumnName,StorageClass.blob.name)) :=
          reads_column isPlainName_saltColumnName passes_nil id
        rw [List.append_nil] at hsalt
        exact .cons hsalt .nil
      · exact .nil
  · rw [List.forall₂_map_left_iff, List.forall₂_map_right_iff, List.forall₂_same]
    intro k hk
    obtain ⟨hcolumn,htable,hreferenced⟩ := hrefers k hk
    exact reads_foreignKey hcolumn htable hreferenced

/-- The statement that makes the table of a schema is read as the table with the columns of the schema. -/
theorem readTable?_createTable {s : Schema} {sql : Text} (hnames : s.HasPlainNames) (hrefers : Refers s)
    (h : createTable s = .ok sql) : ∃ definition, readTable? sql = some definition ∧
      definition.name = s.name ∧ definition.columns.map ColumnClause.declared = declaredColumns s := by
  obtain ⟨clauses,hclauses,h⟩ := bind_eq_ok.mp h
  cases h
  obtain ⟨parts,hparts,hcolumns⟩ := parts?_body (reads_parts hnames hrefers hclauses)
  generalize Text.joined _ _ = body at hparts ⊢
  have hhead (u : Text) : skipWords? ["CREATE","TABLE","IF","NOT","EXISTS"]
      (Text.ofString "CREATE TABLE IF NOT EXISTS " ++ u) = some (Text.ofString " " ++ u) := rfl
  have hopen : Text.ofString "\n(\n" = Text.ofString "\n" ++ CodePoint.ofChar '(' :: Text.ofString "\n" := rfl
  have hspace : ∀ c ∈ Text.ofString " ", c.isLatinBlank := List.all_eq_true.mp (by decide)
  have hend (u : Text) : EndsName (Text.ofString "\n" ++ u) := endsName_append (by decide) u
  have hdrop (u : Text) : (Text.ofString "\n" ++ CodePoint.ofChar '(' :: u).dropWhile CodePoint.isLatinBlank =
      CodePoint.ofChar '(' :: u := rfl
  have hname (u : Text) := nextWord_append hspace (fun _ => hnames.1.isNamePoint_of_mem) hnames.1.ne_nil (hend u)
  have htext : Text.ofString "CREATE TABLE IF NOT EXISTS " ++ s.name ++ Text.ofString "\n(\n" ++ body ++
      Text.ofString "\n)" = Text.ofString "CREATE TABLE IF NOT EXISTS " ++ (s.name ++ (Text.ofString "\n" ++
        CodePoint.ofChar '(' :: (Text.ofString "\n" ++ (body ++ Text.ofString "\n)")))) := by
    simp [hopen]
  refine ⟨⟨s.name,parts.filterMap readColumn?⟩,?_,rfl,?_⟩
  · rw [readTable?, htext, hhead]
    simp only [Option.bind_eq_bind, Option.bind_some, hname, hdrop, if_true, hparts, Option.map_some]
  · rw [List.map_filterMap, hcolumns]
    simp

end SealedRows.Sql
