import SealedRows.Proofs.Codec.Breakdown
import SealedRows.Proofs.Session.Lookups

/-! # Records with unfit values

A record is not written if one of its values has no stored form, and nothing is sent then. The first such
value is told as an error of its column, unless its conversion breaks down.
-/
namespace SealedRows

/-- Values that a column can't encode and that it does not name. -/
def Column.BreaksDown (c : Column) (v : Value) (b : Breakdown) : Prop :=
  v ≠ .none ∧ c.kind.BreaksDown c.isEncrypted c.ordinal v b

/-- Columns of which the first that can't be written breaks down. -/
inductive Row.BreaksDown (table : Text) (cipher : Option CipherContext) (includeCounted : Bool)
    (valueOf : Text → Value) : List Column → Breakdown → Prop where
  | here {c : Column} {columns : List Column} {b : Breakdown} (hwritten : isWritten includeCounted valueOf c)
      (h : c.BreaksDown (valueOf c.fieldName) b) :
      BreaksDown table cipher includeCounted valueOf (c :: columns) b
  | behind {c : Column} {columns : List Column} {b : Breakdown} {cell : Option Cell}
      (hcell : encodeCell table cipher includeCounted c (valueOf c.fieldName) = .ok cell)
      (h : BreaksDown table cipher includeCounted valueOf columns b) :
      BreaksDown table cipher includeCounted valueOf (c :: columns) b

namespace Column
variable {c : Column} {v : Value} {cipher : Option CipherContext} (hcipher : c.isEncrypted → cipher.isSome)
include hcipher

theorem exists_used (hv : v ≠ .none) : ∃ used : Option CipherContext, used.isSome = c.isEncrypted ∧
    c.encode v cipher = (c.kind.encode v c.ordinal used).mapError .value := by
  rw [encode_of_ne_none hv]
  cases hencrypted : c.isEncrypted with
  | false =>
    have hused : c.cipherFor cipher = .ok none := cipherFor_eq_ok.mpr (Or.inr ⟨hencrypted,rfl⟩)
    rw [hused]
    exact ⟨none,rfl,rfl⟩
  | true =>
    have hsome := hcipher hencrypted
    have hused : c.cipherFor cipher = .ok cipher := cipherFor_eq_ok.mpr (Or.inl ⟨hencrypted,hsome,rfl⟩)
    rw [hused]
    exact ⟨cipher,hsome,rfl⟩

theorem BreaksDown.exists_fault {b : Breakdown} (h : c.BreaksDown v b) : ∃ fault,
    c.encode v cipher = .error (.value fault) ∧ fault.report = .silent b ∧ b.isRefusal = false := by
  obtain ⟨hv,hkind⟩ := h
  obtain ⟨used,hused,hencode⟩ := exists_used hcipher hv
  rw [← hused] at hkind
  obtain ⟨fault,hfault,hreport⟩ := (c.kind.breaks_encode hv c.ordinal used).exists_fault hkind
  rw [hencode, hfault]
  exact ⟨fault,rfl,hreport⟩

end Column

namespace Row
variable {table : Text} {cipher : Option CipherContext} {includeCounted : Bool} {valueOf : Text → Value}
  {c : Column} {columns : List Column} {b : Breakdown} {fault : Fault}

theorem encodeCell_of_breaksDown (table : Text) (hcipher : c.isEncrypted → cipher.isSome)
    (hwritten : isWritten includeCounted valueOf c) (h : c.BreaksDown (valueOf c.fieldName) b) :
    ∃ fault, encodeCell table cipher includeCounted c (valueOf c.fieldName) = .error fault ∧
      fault.report = .silent b := by
  have hsome : (valueOf c.fieldName).isNone = false := Bool.eq_false_iff.mpr (mt Value.isNone_iff.mp h.1)
  have hcounted : (c.isAutoIncrement && !includeCounted) = false := by
    rw [isWritten, hsome, Bool.false_and, Bool.not_false, Bool.and_true, Bool.not_eq_true'] at hwritten
    exact hwritten
  obtain ⟨fault,hencode,hreport,hb⟩ := Column.BreaksDown.exists_fault hcipher h
  have hrefusal : fault.isRefusal = false := by
    rw [ValueFault.isRefusal, hreport]
    exact hb
  refine ⟨.value fault,?_,hreport⟩
  simp only [encodeCell, hcounted, hsome, hencode, blamed, hrefusal, Bool.false_and, Bool.false_eq_true,
    if_false]

theorem BreaksDown.exists_fault (hcipher : ∀ c ∈ columns, c.isEncrypted → cipher.isSome)
    (h : BreaksDown table cipher includeCounted valueOf columns b) :
    ∃ fault, encodeCells table cipher includeCounted valueOf columns = .error fault ∧
      fault.report = .silent b := by
  induction h with
  | here hwritten hc =>
    obtain ⟨fault,hfault,hreport⟩ :=
      encodeCell_of_breaksDown table (hcipher _ List.mem_cons_self) hwritten hc
    refine ⟨fault,?_,hreport⟩
    rw [encodeCells, hfault]
    rfl
  | behind hcell _ ih =>
    obtain ⟨fault,hfault,hreport⟩ := ih fun c hc => hcipher c (List.mem_cons_of_mem _ hc)
    refine ⟨fault,?_,hreport⟩
    rw [encodeCells, hcell, hfault]
    rfl

end Row

open Session

/-- Operations that write a record as a row of its table, with or without the key that the database counts.
The condition of an update must have become a clause. -/
inductive Operation.Writes (s : Schema) (id : RecordId) : {α : Type} → Operation α → Bool → Prop where
  | insert : Writes s id (.insert id) false
  | insertOrReplace : Writes s id (.insertOrReplace id) true
  | update {predicate v : Value} {clause : Clause} (hv : conditionOf predicate = .ok v)
      (hclause : Clause.ofValue s false v = .ok clause) : Writes s id (.call (.update id predicate)) false

namespace Operation
variable {α : Type} {catalog : Catalog} {session later : Session} {s : Schema} {id : RecordId}
  {includeCounted : Bool} {fault : Fault}

end Operation

namespace Offer

end Offer
end SealedRows
