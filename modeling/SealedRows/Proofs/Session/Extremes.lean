import SealedRows.Proofs.Schema.TableKeys
import SealedRows.Proofs.Session.Dangling
import SealedRows.Proofs.Session.Opens
import SealedRows.Proofs.Sql.Answerable
import SealedRows.Proofs.Sql.Discreet
import SealedRows.Proofs.Sql.Sorting

/-! # Comparisons and extremes

A column that a condition may compare to a value compares in the database as its values do, and its
greatest and its least stored value are read as the greatest and the least of the values.
-/
namespace SealedRows

def Sql.IsExtreme (op : Operator) (m : Value) (stored : List Value) : Prop :=
  m ∈ stored ∧ ∀ a ∈ stored, compares op m a

/-- How the value that a function chooses compares to the others. -/
def Aggregate.comparison? : Aggregate → Option Operator
  | max => some .ge
  | min => some .le
  | _ => none

/-- Whether the database compares the stored forms of values as the values compare. -/
def Column.KeepsComparisons (c : Column) : Prop :=
  ∀ v w a b, c.kind.IsOwn v → c.kind.IsOwn w → c.encode v none = .ok a → c.encode w none = .ok b →
    ∀ op : Operator, op.holds v w = .ok (Sql.compares op a b)

/-- Whether values have an extreme when they are stored, and whatever it is, what is read of it equals one
of them and compares to all. -/
def Column.KeepsExtremes (c : Column) (op : Operator) : Prop :=
  ∀ vs stored, vs ≠ [] → (∀ v ∈ vs, c.kind.IsOwn v) →
    List.Forall₂ (fun v a => c.encode v none = .ok a) vs stored →
      (∃ m, Sql.IsExtreme op m stored) ∧ ∀ m, Sql.IsExtreme op m stored →
        ∃ w, c.decode m none = .ok w ∧ (∃ v ∈ vs, w.equals v = .ok true) ∧
          ∀ v ∈ vs, op.holds w v = .ok true

/-- Whether a database is going to answer with a single value. -/
def Database.Answers (db : Database) (v : Value) : Prop :=
  ∃ rowCount lastRow name, db.replies.headD .empty = .success rowCount lastRow [name] [[v]]

namespace SortKey
variable {k l m : SortKey}

theorem order_self (k : SortKey) : k.order k = .eq := by
  cases k <;> exact Std.compare_self

theorem order_swap (k l : SortKey) : (k.order l).swap = l.order k := by
  cases k <;> cases l <;> exact Std.OrientedOrd.eq_swap.symm

theorem isLE_trans (hkl : k.rank = l.rank) (hlm : l.rank = m.rank) (h : (k.order l).isLE)
    (h' : (l.order m).isLE) : (k.order m).isLE := by
  cases k with
  | null =>
    cases l <;> cases hkl
    cases m <;> cases hlm
    rfl
  | number q =>
    cases l <;> cases hkl
    cases m <;> cases hlm
    exact Std.TransOrd.isLE_trans h h'
  | text a =>
    cases l <;> cases hkl
    cases m <;> cases hlm
    exact Std.TransOrd.isLE_trans (α := Bytes) h h'
  | blob a =>
    cases l <;> cases hkl
    cases m <;> cases hlm
    exact Std.TransOrd.isLE_trans (α := Bytes) h h'

end SortKey

namespace Operator

theorem accepts_le (o : Ordering) : le.accepts o = o.isLE := by
  cases o <;> rfl

theorem accepts_ge (o : Ordering) : ge.accepts o = o.swap.isLE := by
  cases o <;> rfl

end Operator

namespace Sql
variable {f : Aggregate} {op : Operator} {a b : Value} {k l m : SortKey}

theorem compares_of_key (ha : key? a = some k) (hb : key? b = some l) (op : Operator) :
    compares op a b = op.accepts (k.order l) := by
  rw [compares, ha, hb]

theorem accepts_self (hf : f.comparison? = some op) (k : SortKey) : op.accepts (k.order k) := by
  rw [SortKey.order_self]
  cases f <;> cases hf <;> rfl

theorem accepts_total (hf : f.comparison? = some op) (h : op.accepts (k.order l) = false) :
    op.accepts (l.order k) := by
  rw [← SortKey.order_swap k l]
  generalize k.order l = o at h
  cases f <;> cases hf <;> cases o <;> first | rfl | cases h

theorem accepts_trans (hf : f.comparison? = some op) (hkl : k.rank = l.rank) (hlm : l.rank = m.rank)
    (h : op.accepts (k.order l)) (h' : op.accepts (l.order m)) : op.accepts (k.order m) := by
  cases f <;> cases hf
  · rw [Operator.accepts_ge, SortKey.order_swap] at *
    exact SortKey.isLE_trans hlm.symm hkl.symm h' h
  · rw [Operator.accepts_le] at *
    exact SortKey.isLE_trans hkl hlm h h'

theorem exists_extreme (hf : f.comparison? = some op) {rank : ℕ} {stored : List Value}
    (hstored : stored ≠ []) (hkeys : ∀ a ∈ stored, ∃ k, key? a = some k ∧ k.rank = rank) :
    ∃ m, IsExtreme op m stored := by
  induction stored with
  | nil => exact absurd rfl hstored
  | cons a rest ih =>
    obtain ⟨⟨k,ha,hk⟩,hrest⟩ := List.forall_mem_cons.mp hkeys
    have hself : compares op a a := by
      rw [compares_of_key ha ha]
      exact accepts_self hf k
    by_cases hnil : rest = []
    · subst hnil
      exact ⟨a,List.mem_cons_self,List.forall_mem_singleton.mpr hself⟩
    · obtain ⟨m,hm,hall⟩ := ih hnil hrest
      cases hkeep : compares op m a with
      | true => exact ⟨m,List.mem_cons_of_mem a hm,List.forall_mem_cons.mpr ⟨hkeep,hall⟩⟩
      | false =>
        -- The head passes what the extreme of the rest passes.
        refine ⟨a,List.mem_cons_self,List.forall_mem_cons.mpr ⟨hself,fun b hb => ?_⟩⟩
        obtain ⟨l,hl,hrank⟩ := hrest m hm
        obtain ⟨n,hn,hrank'⟩ := hrest b hb
        have hmb := hall b hb
        rw [compares_of_key hl ha] at hkeep
        rw [compares_of_key hl hn] at hmb
        rw [compares_of_key ha hn]
        exact accepts_trans hf (hk.trans hrank.symm) (hrank.trans hrank'.symm) (accepts_total hf hkeep) hmb

end Sql

namespace ValueKind
variable {kind : ValueKind} {v w : Value} {k : SortKey}

theorem IsOwn.hasKey_of_canonical (h : kind.IsOwn v) (hkind : kind.isStoredInOrder)
    (hw : Canonical false kind v w) (hk : v.HasKey k) : w.HasKey k := by
  cases hw with
  | null => exact absurd rfl h.ne_none
  | integer l hn =>
    cases hk with
    | number hd hq =>
      rw [number?_of_integer? hn] at hd
      exact .number hd hq
    | text t => cases hn
    | blob hbs => cases v <;> first | cases hn; done | cases hbs
  | bool hv hb =>
    obtain ⟨b,rfl⟩ := h.isTruth rfl
    cases hb
    exact hk
  | buffer bs =>
    cases hk with
    | number hd => cases hd
    | blob hbs => exact .blob hbs
  | float64 | float32 | string | bytes => exact hk
  | float32Nearest _ hencrypted => cases hencrypted
  | stringJoined _ hencrypted => cases hencrypted
  | decimal | timestamp | timestampUniversal => cases hkind

end ValueKind

namespace Column
variable {c : Column}

theorem keepsComparisons (hplain : c.isEncrypted = false) (hkind : c.kind.isStoredInOrder) :
    c.KeepsComparisons := by
  intro v w a b hv hw ha hb op
  rw [encode_eq_ok_of_plain hplain hv.ne_none] at ha
  rw [encode_eq_ok_of_plain hplain hw.ne_none] at hb
  exact hv.holds_eq hw hkind ha hb op

theorem exists_key (hplain : c.isEncrypted = false) (hkind : c.kind.isStoredInOrder) {v a : Value}
    (hv : c.kind.IsOwn v) (ha : c.encode v none = .ok a) :
    ∃ k, v.HasKey k ∧ Sql.key? a = some k ∧ k.rank = c.kind.keyRank := by
  rw [encode_eq_ok_of_plain hplain hv.ne_none] at ha
  exact hv.exists_key hkind ha

/-- What is read of the stored form of a value compares as the value does. -/
theorem exists_decode_of_key (hplain : c.isEncrypted = false) (hkind : c.kind.isStoredInOrder)
    {v a : Value} {k : SortKey} (hv : c.kind.IsOwn v) (ha : c.encode v none = .ok a) (hk : v.HasKey k) :
    ∃ w, c.decode a none = .ok w ∧ w.HasKey k := by
  rw [encode_eq_ok_of_plain hplain hv.ne_none] at ha
  obtain ⟨hne,w,hdecode,hcanonical⟩ := ValueKind.decodePlain_encodePlain hv.ne_none ha
  exact ⟨w,(decode_eq_ok_of_plain hplain hne).mpr hdecode,
    hv.hasKey_of_canonical hkind (hcanonical hv.admits) hk⟩

theorem keepsExtremes (hplain : c.isEncrypted = false) (hkind : c.kind.isStoredInOrder) {f : Aggregate}
    {op : Operator} (hf : f.comparison? = some op) : c.KeepsExtremes op := by
  intro vs stored hvs hown hstored
  constructor
  · apply Sql.exists_extreme hf
    · rintro rfl
      cases hstored
      exact hvs rfl
    · intro a ha
      obtain ⟨v,hv,hencode⟩ := exists_of_forall₂ hstored.flip ha
      obtain ⟨k,_,hkey⟩ := exists_key hplain hkind (hown v hv) hencode
      exact ⟨k,hkey⟩
  · rintro m ⟨hm,hall⟩
    obtain ⟨v,hv,hencode⟩ := exists_of_forall₂ hstored.flip hm
    obtain ⟨k,hk,hkey,hrank⟩ := exists_key hplain hkind (hown v hv) hencode
    obtain ⟨w,hdecode,hw⟩ := exists_decode_of_key hplain hkind (hown v hv) hencode hk
    refine ⟨w,hdecode,⟨v,hv,?_⟩,?_⟩
    · have heq := hw.holds_eq hk rfl .eq
      rwa [SortKey.order_self] at heq
    · intro u hu
      obtain ⟨a,ha,hencode'⟩ := exists_of_forall₂ hstored hu
      obtain ⟨l,hl,hkey',hrank'⟩ := exists_key hplain hkind (hown u hu) hencode'
      rw [hw.holds_eq hl (hrank.trans hrank'.symm), ← Sql.compares_of_key hkey hkey', hall a ha]

end Column

namespace Database
variable {db : Database} {v : Value}

theorem queryValue_of_answers (h : db.Answers v) (sql : Text) (parameters : List Value) :
    queryValue sql parameters db = (.ok v,db.after [⟨.statement sql parameters,.none⟩]) := by
  obtain ⟨rowCount,lastRow,name,hreply⟩ := h
  have hask := ask_eq (.statement sql parameters) (.querying sql) db
  rw [hreply] at hask
  have hquery : query sql parameters db =
      (.ok [[⟨name,v⟩]],db.after [⟨.statement sql parameters,.none⟩]) := by
    unfold query
    rw [bind_of_ok hask]
    rfl
  unfold queryValue
  rw [bind_of_ok hquery]
  rfl

end Database

namespace Session
variable {catalog : Catalog} {session : Session} {s : Schema} {f : Aggregate} {c : Column}
  {typeName field : Text} {predicate : Value}

theorem exists_optionalClause (s : Schema) (qualify : Bool) (predicate : Value) :
    ∃ r, ∀ session : Session, optionalClause s qualify predicate session = (r,session) := by
  unfold optionalClause clauseFor
  split
  · exact ⟨_,fun _ => rfl⟩
  · cases conditionOf predicate with
    | error fault => exact ⟨_,fun _ => rfl⟩
    | ok v =>
      simp only [ofExcept, pure_bind]
      cases Clause.ofValue s qualify v <;> exact ⟨_,fun _ => rfl⟩

theorem schemaFor_again (hs : (schemaFor typeName session).1 = .ok s) {later : Session}
    (hregistry : later.registry = (schemaFor typeName session).2.registry) :
    schemaFor typeName later = (.ok s,later) := by
  obtain ⟨e,he,rfl⟩ := Registry.find?_of_schemaFor (mapError_eq_ok.mp hs)
  have hfind : later.registry.find? typeName = some e := by
    rw [hregistry]
    exact he
  unfold schemaFor
  rw [Registry.schemaFor_of_find? hfind]
  rfl

section
variable (hs : (schemaFor typeName session).1 = .ok s) (hc : aggregateColumn s f field = .ok c)
  {clause : Option Text} {parameters : List Value}
  (hclause : (optionalClause s false predicate session).1 = .ok (clause,parameters)) {v : Value}
  (hanswers : session.database.Answers v)
include hs hc hclause hanswers

/-- The database is asked once, and its answer is the value. -/
theorem computed_of_answers : ∃ later, computed f typeName (some field) predicate session = (.ok v,later) ∧
    later.registry = (schemaFor typeName session).2.registry ∧
    later.database = session.database.after [⟨.statement
      (Sql.aggregate f.name s.name c.name (f = .countDistinct) clause) parameters,.none⟩] := by
  obtain ⟨r,hr⟩ := exists_optionalClause s false predicate
  have hclause : r = .ok (clause,parameters) := by rw [← hclause, hr]
  have hdatabase : (schemaFor typeName session).2.database = session.database := rfl
  refine ⟨{ (schemaFor typeName session).2 with database := session.database.after _ },?_,rfl,rfl⟩
  unfold computed
  rw [schemaFor_bind hs]
  dsimp only
  rw [hc]
  simp only [ofExcept, map_pure, pure_bind]
  rw [bind_of_ok ((hr _).trans (by rw [hclause]))]
  dsimp only [onDatabase]
  rw [hdatabase, Database.queryValue_of_answers hanswers]
  rfl

theorem chosen_of_answers : (chosen f typeName field predicate session).1 = c.decode v none ∧
    session.sent (chosen f typeName field predicate) =
      [⟨.statement (Sql.aggregate f.name s.name c.name (f = .countDistinct) clause) parameters,.none⟩] := by
  have hresolve : s.resolve field = .ok c := Schema.resolve_eq_ok.mpr (resolve?_of_aggregateColumn hc)
  obtain ⟨later,hcomputed,hregistry,hdatabase⟩ := computed_of_answers hs hc hclause hanswers
  have hrun : chosen f typeName field predicate session = (c.decode v none,later) := by
    unfold chosen
    rw [bind_of_ok hcomputed, bind_of_ok (schemaFor_again hs hregistry), hresolve]
    simp only [ofExcept, pure_bind]
    cases c.decode v none <;> rfl
  refine ⟨congrArg Prod.fst hrun,sent_of_after ?_⟩
  rw [hrun, hdatabase]

end

theorem aggregateColumn_of_namesPlain (hc : s.NamesPlain field c) (hblob : c.kind.isBlobStored = false)
    (f : Aggregate) : aggregateColumn s f field = .ok c := by
  have hresolve : s.resolve field = .ok c := Schema.resolve_eq_ok.mpr (Schema.names_iff.mp hc.1)
  unfold aggregateColumn
  simp only [hresolve, bind, Except.bind, hc.2, Column.isBlobStored, hblob, Bool.and_false,
    Bool.false_eq_true, if_false]
  rfl

/-- If a condition may compare a field to a value, the stored values of the field compare as the values
do. What the database chooses of them is read as the greatest or the least of the values. -/
theorem keeps_of_ofComparison {qualify : Bool} {operator : Operator} {literal : Value} {clause : Clause}
    (h : Clause.ofComparison s qualify field operator literal = .ok clause) (hliteral : literal ≠ .none) :
    ∃ c, s.resolve? field = some c ∧ c.KeepsComparisons ∧
      ∀ (f : Aggregate) (op : Operator), f.comparison? = some op → c.KeepsExtremes op ∧
        ∀ (session : Session) (typeName : Text) (predicate : Value) (clause : Option Text)
          (parameters : List Value) (m : Value), (schemaFor typeName session).1 = .ok s →
            (optionalClause s false predicate session).1 = .ok (clause,parameters) →
              session.database.Answers m →
                (chosen f typeName field predicate session).1 = c.decode m none ∧
                  session.sent (chosen f typeName field predicate) =
                    [⟨.statement (Sql.aggregate f.name s.name c.name false clause) parameters,.none⟩] := by
  obtain ⟨c,hcolumn,hcompared⟩ := bind_eq_ok.mp h
  have hc : s.NamesPlain field c := Clause.leafColumn_eq_ok.mp hcolumn
  have hblob : c.kind.isBlobStored = false := by
    rw [Clause.ofComparison_of_ne_none hcolumn hliteral] at h
    obtain ⟨_,hcomparable,_⟩ := bind_eq_ok.mp h
    exact Clause.checkComparable_eq_ok.mp hcomparable
  have hkind : c.kind.isStoredInOrder := by simp [ValueKind.isStoredInOrder, hblob]
  refine ⟨c,Schema.names_iff.mp hc.1,Column.keepsComparisons hc.2 hkind,?_⟩
  intro f op hf
  refine ⟨Column.keepsExtremes hc.2 hkind hf,?_⟩
  intro session typeName predicate clause parameters m hs hclause hanswers
  have hdistinct : f ≠ .countDistinct := by
    rintro rfl
    cases hf
  have hchosen := chosen_of_answers hs (aggregateColumn_of_namesPlain hc hblob f) hclause hanswers
  rwa [decide_eq_false hdistinct] at hchosen

end Session

namespace Item

def asking : Session :=
  .new catalog .aes256 ⟨Database.memory,[.success 0 none ["MAX(id)"] [[.int 7]]],[]⟩ []

set_option maxRecDepth 4000 in
theorem exists_asked : ∃ (s : Schema) (clause : Clause), (Session.schemaFor "Item" asking).1 = .ok s ∧
    s.name = "items" ∧ s.resolve? "id" = some number ∧
      Clause.ofComparison s false "id" .gt (.int 0) = .ok clause :=
  ⟨_,_,rfl,rfl,rfl,rfl⟩

theorem max_number : ∃ (s : Schema) (clause : Clause),
    Clause.ofComparison s false "id" .gt (.int 0) = .ok clause ∧
      Sql.IsExtreme .ge (.int 7) [.int 3, .int 7, .int 1] ∧
      (∀ v ∈ [.int 3, .int 7, .int 1], Operator.ge.holds (.int 7) v = .ok true) ∧
      (Session.max "Item" "id" .none asking).1 = .ok (.int 7) ∧
      asking.sent (Session.max "Item" "id" .none) =
        [⟨.statement "SELECT MAX(id) FROM items" [],.none⟩] := by
  obtain ⟨s,clause,hs,hname,hresolve,hclause⟩ := exists_asked
  obtain ⟨c,hc,_,hchooses⟩ := Session.keeps_of_ofComparison hclause nofun
  cases hresolve.symm.trans hc
  obtain ⟨hextremes,hchosen⟩ := hchooses .max .ge rfl
  obtain ⟨hmax,hsent⟩ := hchosen asking "Item" .none none [] (.int 7) hs rfl ⟨0,none,"MAX(id)",rfl⟩
  rw [hname] at hsent
  have hextreme : Sql.IsExtreme .ge (.int 7) [.int 3, .int 7, .int 1] := ⟨by simp,by decide⟩
  have hint (n : Int) : number.kind.IsOwn (.int n) :=
    ⟨.integer _ rfl,by rintro ⟨⟩,by rintro ⟨⟩,by rintro _ ⟨⟩⟩
  have hown : ∀ v ∈ [.int 3, .int 7, .int 1], number.kind.IsOwn v :=
    List.forall_mem_cons.mpr ⟨hint 3,List.forall_mem_cons.mpr ⟨hint 7,List.forall_mem_singleton.mpr (hint 1)⟩⟩
  obtain ⟨w,hw,_,hall⟩ := (hextremes _ _ (List.cons_ne_nil _ _) hown
    (.cons rfl (.cons rfl (.cons rfl .nil)))).2 _ hextreme
  cases hw
  exact ⟨s,clause,hclause,hextreme,hall,hmax.trans rfl,hsent⟩

end Item
end SealedRows
