import Mathlib.Data.List.SplitBy
import SealedRows.Condition
import SealedRows.Text.Blank

/-! # Tokens of SQL

How a database divides a condition into tokens, as far as conditions on columns and parameters go: names
and reserved words are as long as they can be, so are the signs of comparisons, and blanks only keep
tokens apart. Reserved words count in upper and lower case.
-/
namespace SealedRows.Sql

/-- What may stand in a name: letters, digits, underscores and all beyond ASCII. -/
def isNamePoint (c : CodePoint) : Bool :=
  (65 ≤ c.val && c.val ≤ 90) || (97 ≤ c.val && c.val ≤ 122) || Text.isLatinDigit c ||
    c.val == 0x5F || 0x80 ≤ c.val

def isSignPoint (c : CodePoint) : Bool := 0x3C ≤ c.val && c.val ≤ 0x3E

inductive PointClass where
  | name | sign | blank
  /-- A token of its own. -/
  | single
  deriving DecidableEq

def PointClass.of (c : CodePoint) : PointClass :=
  if isNamePoint c then .name else if isSignPoint c then .sign
  else if c.isLatinBlank then .blank else .single

def joins (a b : CodePoint) : Bool := PointClass.of a ≠ .single ∧ PointClass.of a = PointClass.of b

def reservedWords : List Text :=
  ["add","all","alter","and","as","autoincrement","between","case","cast","check","collate","commit",
    "constraint","create","current_date","current_time","current_timestamp","default","deferrable",
    "delete","distinct","drop","else","escape","except","exists","foreign","from","group","having","in",
    "index","insert","intersect","into","is","isnull","join","limit","not","nothing","notnull","null","on",
    "or","order","primary","raise","references","returning","select","set","table","then","to",
    "transaction","union","unique","update","using","values","when","where","with"]

/-- Whether a text is a name that needs no quotes. -/
def IsPlainName (t : Text) : Prop :=
  t.head?.any (!Text.isLatinDigit ·) ∧ t.all isNamePoint ∧ t.map Text.lowerLatin ∉ reservedWords

instance (t : Text) : Decidable (IsPlainName t) := inferInstanceAs (Decidable (_ ∧ _))

inductive Token where
  | opening | closing | dot
  /-- The place of a parameter. -/
  | mark
  | comparison (op : Operator)
  | and | or | not | is | null
  | name (t : Text)
  deriving DecidableEq

namespace Token

def keywords : List (Text × Token) :=
  [("and",and),("or",or),("not",not),("is",is),("null",null)]

def signs : List (Text × Token) := [("(",opening),(")",closing),(".",dot),("?",mark)]

def ofWord? (t : Text) : Option Token :=
  signs.lookup t <|> (Operator.ofSymbol? t).map comparison <|>
    keywords.lookup (t.map Text.lowerLatin) <|> if IsPlainName t then some (name t) else none

end Token

def tokens? (t : Text) : Option (List Token) :=
  ((t.splitBy joins).filter fun word => !word.all CodePoint.isLatinBlank).mapM Token.ofWord?

example : tokens? "NOT(a<=?)" = some [.not,.opening,.name "a",.comparison .le,.mark,.closing] := by
  decide

def headClass (t : Text) : Option PointClass := t.head?.map PointClass.of

def lastClass (t : Text) : Option PointClass := t.getLast?.map PointClass.of

theorem headClass_append {l : Text} (h : l ≠ []) (r : Text) : headClass (l ++ r) = headClass l := by
  obtain ⟨c,rest,rfl⟩ := List.exists_cons_of_ne_nil h
  rfl

theorem lastClass_append (l : Text) {r : Text} (h : r ≠ []) : lastClass (l ++ r) = lastClass r := by
  obtain ⟨rest,c,rfl⟩ := (List.eq_nil_or_concat r).resolve_left h
  simp [lastClass]

def Apart (l r : Text) : Prop :=
  ∀ k, lastClass l = some k → headClass r = some k → k = .single

theorem apart_of_last_single {l r : Text} (h : lastClass l = some .single) : Apart l r := by
  intro k hk _
  rw [h] at hk
  cases hk
  rfl

theorem apart_of_head_single {l r : Text} (h : headClass r = some .single) : Apart l r := by
  intro k _ hk
  rw [h] at hk
  cases hk
  rfl

theorem apart_of_head_blank {l r : Text} (hl : lastClass l ≠ some .blank)
    (hr : headClass r = some .blank) : Apart l r := by
  intro k hk hk'
  rw [hr] at hk'
  cases hk'
  exact absurd hk hl

theorem apart_of_last_blank {l r : Text} (hl : lastClass l = some .blank)
    (hr : headClass r ≠ some .blank) : Apart l r := by
  intro k hk hk'
  rw [hl] at hk
  cases hk
  exact absurd hk' hr

theorem Apart.joins_eq_false {l r : Text} (h : Apart l r) :
    ∀ a ∈ l.getLast?, ∀ b ∈ r.head?, joins a b = false := by
  intro a ha b hb
  by_contra hab
  simp only [joins, Bool.not_eq_false, decide_eq_true_eq] at hab
  refine hab.1 (h _ (by simp [lastClass, Option.mem_def.mp ha]) ?_)
  simp [headClass, Option.mem_def.mp hb, hab.2]

theorem tokens?_append {l r : Text} {ls rs : List Token} (hl : tokens? l = some ls)
    (hr : tokens? r = some rs) (h : Apart l r) : tokens? (l ++ r) = some (ls ++ rs) := by
  unfold tokens? at *
  rw [List.splitBy_append h.joins_eq_false, List.filter_append, List.mapM_append, hl, hr]
  rfl

theorem isLatinBlank_eq_false {c : CodePoint} (h : isNamePoint c) : c.isLatinBlank = false := by
  simp [isNamePoint, Text.isLatinDigit] at h
  simp [CodePoint.isLatinBlank]
  omega

section
variable {t : Text} (ht : IsPlainName t)
include ht

theorem IsPlainName.ne_nil : t ≠ [] := by
  rintro rfl
  cases ht.1

/-- The points of a name belong together. -/
theorem IsPlainName.isChain_joins : t.IsChain fun a b => joins a b := by
  have hall := List.all_eq_true.mp ht.2.1
  refine (List.pairwise_of_forall_mem_list ?_).isChain
  intro a ha b hb
  simp [joins, PointClass.of, hall a ha, hall b hb]

/-- A name is no sign and no reserved word. -/
theorem Token.ofWord?_name : ofWord? t = some (.name t) := by
  have hne : ∀ w : Text, w.all isNamePoint = false → w ≠ t := by
    rintro w hw rfl
    rw [ht.2.1] at hw
    cases hw
  have hsigns : signs.lookup t = none := by
    refine List.lookup_eq_none_iff.mpr ?_
    intro p hp
    have hp : p.1.all isNamePoint = false := by revert p; decide
    simpa using (hne _ hp).symm
  have hsymbol : Operator.ofSymbol? t = none := by
    refine List.find?_eq_none.mpr ?_
    intro op _
    have hop : op.symbol.all isNamePoint = false := by cases op <;> decide
    simpa using hne _ hop
  have hkeywords : keywords.lookup (t.map Text.lowerLatin) = none := by
    refine List.lookup_eq_none_iff.mpr ?_
    intro p hp
    have hp : p.1 ∈ reservedWords := by revert p; decide
    have : t.map Text.lowerLatin ≠ p.1 := by
      intro h
      exact ht.2.2 (h ▸ hp)
    simpa using this
  simp [ofWord?, hsigns, hsymbol, hkeywords, ht]

theorem IsPlainName.headClass_eq : headClass t = some .name := by
  obtain ⟨c,rest,rfl⟩ := List.exists_cons_of_ne_nil ht.ne_nil
  have hc := List.all_eq_true.mp ht.2.1 c (List.mem_cons_self ..)
  simp [headClass, PointClass.of, hc]

theorem IsPlainName.lastClass_eq : lastClass t = some .name := by
  have hlast := List.getLast_mem ht.ne_nil
  have hc := List.all_eq_true.mp ht.2.1 _ hlast
  simp [lastClass, List.getLast?_eq_getLast_of_ne_nil ht.ne_nil, PointClass.of, hc]

theorem IsPlainName.mark_not_mem : ('?' : CodePoint) ∉ t := by
  intro h
  have hmark := List.all_eq_true.mp ht.2.1 _ h
  revert hmark
  decide

theorem tokens?_name : tokens? t = some [.name t] := by
  have hblank : t.all CodePoint.isLatinBlank = false := by
    obtain ⟨c,rest,rfl⟩ := List.exists_cons_of_ne_nil ht.ne_nil
    have hc := List.all_eq_true.mp ht.2.1 c (List.mem_cons_self ..)
    simp [isLatinBlank_eq_false hc]
  unfold tokens?
  rw [List.splitBy_of_isChain ht.ne_nil ht.isChain_joins]
  simp [hblank, Token.ofWord?_name ht]

end

end SealedRows.Sql
