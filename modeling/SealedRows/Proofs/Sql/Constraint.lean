import SealedRows.Proofs.Sql.Definition

/-! # Constraints of columns

How a database reads what stands behind the type of a column, as far as the statements here go. A default is
a literal, so a column has a default if it is no key and its encoded default has a literal.
-/
namespace SealedRows.Sql

inductive Constraint where
  | primaryKey
  | autoincrement
  | notNull
  | default (v : Value)

def readConstraint? (t : Text) : Option (Constraint × Text) :=
  let (word,rest) := nextWord t
  let word := word.map Text.upperLatin
  if word = "PRIMARY" then (skipWords? ["KEY"] rest).map fun rest => (.primaryKey,rest)
  else if word = "AUTOINCREMENT" then some (.autoincrement,rest)
  else if word = "NOT" then (skipWords? ["NULL"] rest).map fun rest => (.notNull,rest)
  else if word = "DEFAULT" then
    (readLiteral? (rest.dropWhile CodePoint.isLatinBlank)).map fun (v,rest) => (.default v,rest)
  else none

def readConstraints? (t : Text) : Option (List Constraint) :=
  if t.all CodePoint.isLatinBlank then some []
  else
    match readConstraint? t with
    | none => none
    | some (constraint,rest) =>
      if rest.length < t.length then (readConstraints? rest).map (constraint :: ·) else none
termination_by t.length

theorem readConstraints?_nil : readConstraints? [] = some [] := by
  rw [readConstraints?]
  rfl

theorem readConstraints?_cons {t rest : Text} {constraint : Constraint}
    (h : readConstraint? t = some (constraint,rest)) (hlength : rest.length < t.length)
    (hblank : t.all CodePoint.isLatinBlank = false) :
    readConstraints? t = (readConstraints? rest).map (constraint :: ·) := by
  rw [readConstraints?, h]
  simp [hblank, hlength]

theorem readConstraints?_of_none {t : Text} (h : readConstraint? t = none)
    (hblank : t.all CodePoint.isLatinBlank = false) : readConstraints? t = none := by
  rw [readConstraints?, h]
  simp [hblank]

def Defaults (constraints : Text) (v : Value) : Prop :=
  ∃ cs, readConstraints? constraints = some cs ∧ .default v ∈ cs

theorem isLatinBlank_of_isPoint {c : CodePoint} (h : Numeral.isPoint c) : c.isLatinBlank = false := by
  simp only [Numeral.isPoint, Bool.or_eq_true, decide_eq_true_eq] at h
  rcases h with ((((h | rfl) | rfl) | rfl) | rfl) | rfl
  · exact Numeral.isLatinBlank_of_isLatinDigit h
  all_goals decide

theorem isLatinBlank_of_mem_toText {x : Double} {c : CodePoint} (h : c ∈ x.toText) :
    c.isLatinBlank = false := by
  by_cases hx : x.isFinite
  · exact isLatinBlank_of_isPoint (isPoint_of_mem_toText hx h)
  · have hnames : ∀ t ∈ specialNames, t.all fun c => !c.isLatinBlank := by decide
    simpa using List.all_eq_true.mp (hnames _ (toText_mem_specialNames hx)) c h

/-- The literal of a stored value begins with what is no blank. -/
theorem isLatinBlank_of_head_literal {v : Value} (hv : IsStored v) :
    ∀ c ∈ (literal v).head?, c.isLatinBlank = false := by
  intro c hc
  cases hv with
  | int n => exact isLatinBlank_of_isPoint (isPoint_of_mem_ofInt (List.mem_of_mem_head? hc))
  | float x => exact isLatinBlank_of_mem_toText (List.mem_of_mem_head? hc)
  | text t =>
    rw [literal_text] at hc
    cases hc
    decide
  | bytes bs =>
    rw [literal_bytes] at hc
    cases hc
    decide

theorem readConstraint?_default {v : Value} (hv : IsStored v) : readConstraint? (" DEFAULT " ++ literal v) =
    (readLiteral? (literal v)).map fun (w,rest) => (.default w,rest) := by
  have hword : nextWord (Text.ofString " DEFAULT " ++ literal v) =
      (Text.ofString "DEFAULT",Text.ofString " " ++ literal v) := rfl
  have hdrop : (Text.ofString " " ++ literal v).dropWhile CodePoint.isLatinBlank = literal v := by
    change (literal v).dropWhile CodePoint.isLatinBlank = literal v
    have hhead := isLatinBlank_of_head_literal hv
    cases hliteral : literal v with
    | nil => rfl
    | cons c t =>
      rw [hliteral] at hhead
      exact List.dropWhile_cons_of_neg (by simp [hhead c rfl])
  have hupper : (Text.ofString "DEFAULT").map Text.upperLatin = Text.ofString "DEFAULT" := by decide
  have hother : Text.ofString "DEFAULT" ≠ "PRIMARY" ∧ Text.ofString "DEFAULT" ≠ "AUTOINCREMENT" ∧
      Text.ofString "DEFAULT" ≠ "NOT" := by decide
  simp only [readConstraint?, hword, hupper, hother, if_false, if_true, hdrop]

theorem readConstraints?_notNull (v : Value) : readConstraints? (" NOT NULL DEFAULT " ++ literal v) =
    (readConstraints? (" DEFAULT " ++ literal v)).map (Constraint.notNull :: ·) := by
  have hfirst : readConstraint? (Text.ofString " NOT NULL DEFAULT " ++ literal v) =
      some (.notNull,Text.ofString " DEFAULT " ++ literal v) := rfl
  have hshorter : (Text.ofString " DEFAULT ").length < (Text.ofString " NOT NULL DEFAULT ").length := by decide
  exact readConstraints?_cons hfirst (by simpa using hshorter) rfl

theorem readConstraints?_filled {v : Value} (hv : IsStored v) (hliteral : HasLiteral v) :
    readConstraints? (" NOT NULL DEFAULT " ++ literal v) = some [.notNull,.default v] := by
  have hread : readLiteral? (literal v ++ []) = some (v,[]) := readLiteral?_literal hliteral nofun
  have hdefault := readConstraint?_default hv
  have hpositive : 0 < (Text.ofString " DEFAULT ").length := by decide
  have hlength : ([] : Text).length < (Text.ofString " DEFAULT " ++ literal v).length := by
    rw [List.length_append]
    exact Nat.add_pos_left hpositive _
  rw [List.append_nil] at hread
  rw [hread] at hdefault
  rw [readConstraints?_notNull, readConstraints?_cons hdefault hlength rfl, readConstraints?_nil]
  rfl

theorem readConstraints?_unfilled {v : Value} (hv : IsStored v) (hliteral : ¬HasLiteral v) :
    readConstraints? (" NOT NULL DEFAULT " ++ literal v) = none := by
  have hdefault := readConstraint?_default hv
  rw [readLiteral?_of_not_hasLiteral hv hliteral] at hdefault
  rw [readConstraints?_notNull, readConstraints?_of_none hdefault rfl]
  rfl

/-- Two constraints that are read one after the other. -/
theorem readConstraints?_pair {t rest : Text} {a b : Constraint} (ha : readConstraint? t = some (a,rest))
    (hb : readConstraint? rest = some (b,[])) (hlength : rest.length < t.length) (hpositive : 0 < rest.length)
    (ht : t.all CodePoint.isLatinBlank = false) (hrest : rest.all CodePoint.isLatinBlank = false) :
    readConstraints? t = some [a,b] := by
  rw [readConstraints?_cons ha hlength ht, readConstraints?_cons hb hpositive hrest, readConstraints?_nil]
  rfl

theorem readConstraints?_counted :
    readConstraints? " PRIMARY KEY AUTOINCREMENT" = some [.primaryKey,.autoincrement] := by
  have hfirst : readConstraint? " PRIMARY KEY AUTOINCREMENT" =
      some (.primaryKey,Text.ofString " AUTOINCREMENT") := rfl
  exact readConstraints?_pair hfirst rfl (by decide) (by decide) (by decide) (by decide)

theorem readConstraints?_key : readConstraints? " PRIMARY KEY NOT NULL" = some [.primaryKey,.notNull] := by
  have hfirst : readConstraint? " PRIMARY KEY NOT NULL" = some (.primaryKey,Text.ofString " NOT NULL") := rfl
  exact readConstraints?_pair hfirst rfl (by decide) (by decide) (by decide) (by decide)

/-- The constraints of a column that needs a value give it a default if it is no key and what it stores of
the default has a literal. -/
theorem Constrains.defaults_iff {c : Column} {constraints : Text} (h : Constrains c constraints)
    (hrequired : c.isNotNull) (hdefault : c.defaultValue ≠ .none) (v : Value) :
    Defaults constraints v ↔ c.isPrimaryKey = false ∧
      c.kind.encode c.defaultValue c.ordinal none = .ok v ∧ HasLiteral v := by
  cases h with
  | counted hkey =>
    refine iff_of_false ?_ fun hboth => by simp [hkey] at hboth
    rintro ⟨cs,hcs,hv⟩
    rw [readConstraints?_counted] at hcs
    cases hcs
    simp at hv
  | key hkey =>
    refine iff_of_false ?_ fun hboth => by simp [hkey] at hboth
    rintro ⟨cs,hcs,hv⟩
    rw [readConstraints?_key] at hcs
    cases hcs
    simp at hv
  | required _ _ hnone => exact absurd hnone hdefault
  | free _ hnone => simp [hrequired] at hnone
  | @filled stored hkey _ _ hstored =>
    have hplain := isStored_of_encode hdefault hstored
    constructor
    · rintro ⟨cs,hcs,hv⟩
      by_cases hliteral : HasLiteral stored
      · rw [readConstraints?_filled hplain hliteral] at hcs
        cases hcs
        have hv : v = stored := by simpa using hv
        rw [hv]
        exact ⟨hkey,hstored,hliteral⟩
      · rw [readConstraints?_unfilled hplain hliteral] at hcs
        cases hcs
    · rintro ⟨-,hencode,hliteral⟩
      cases hencode.symm.trans hstored
      exact ⟨_,readConstraints?_filled hplain hliteral,by simp⟩

end SealedRows.Sql
