import SealedRows.Proofs.Codec.Represented
import SealedRows.Proofs.Schema.History
import SealedRows.Proofs.Session.Fetched

/-! # Keys that match no row

A reference is looked up by the primary key of the other table, in whose kind the key is encoded. A key
that matches no row leaves the reference empty if that kind can represent it; a key that is out of its
range is an error before the database is asked.
-/
namespace SealedRows

namespace IntLayout

theorem least_lt_bound (l : IntLayout) : l.least < l.bound := by
  obtain ⟨signed,width⟩ := l
  cases signed <;> cases width <;> decide

theorem forall_holds_iff (l m : IntLayout) :
    (∀ n, l.Holds n → m.Holds n) ↔ m.least ≤ l.least ∧ l.bound ≤ m.bound := by
  have hrange := l.least_lt_bound
  constructor
  · intro h
    -- The least and the greatest integer of the one layout are held by the other.
    have hleast := h l.least ⟨by omega,hrange⟩
    have hgreatest := h (l.bound - 1) ⟨by omega,by omega⟩
    unfold Holds at hleast hgreatest
    omega
  · rintro ⟨hleast,hbound⟩ n ⟨hn,hn'⟩
    exact ⟨by omega,by omega⟩

end IntLayout

theorem ValueKind.integer_of_canRefer {kind : ValueKind} (h : kind.canRefer) : ∃ l, kind = .integer l := by
  cases kind with
  | integer l => exact ⟨l,rfl⟩
  | _ => cases h

theorem ValueKind.integer_of_canBeReferred {kind : ValueKind} (h : kind.canBeReferred) :
    ∃ l, kind = .integer l ∧ kind.isBlobStored = false := by
  obtain ⟨hinteger,hplain⟩ := Bool.and_eq_true_iff.mp h
  cases kind with
  | integer l => exact ⟨l,rfl,by simpa using hplain⟩
  | _ => cases hinteger

theorem Registry.schemaFor_of_find? {registry : Registry} {typeName : Text} {e : RegistryEntry}
    (h : registry.find? typeName = some e) (catalog : Catalog) :
    registry.schemaFor catalog typeName = (.ok e.schema,registry) := by
  have hfuel : fuelFor catalog ≠ 0 := by simp [fuelFor]
  obtain ⟨fuel,hfuel⟩ := Nat.exists_eq_add_one_of_ne_zero hfuel
  rw [schemaFor, hfuel, register, h, Option.isSome_some, if_pos rfl]
  dsimp only
  rw [h]

theorem Visited.find?_eq_none_of_table {visited : Visited} {table : Text}
    (h : ∀ e ∈ visited, e.1.1 ≠ table) (key : Value) : visited.find? table key = none := by
  rw [find?, Option.map_eq_none_iff, List.find?_eq_none]
  intro e he
  simp [h e he]

/-- Whether the next answer of a database is that there are no rows. -/
def Database.FindsNothing (db : Database) : Prop :=
  ∃ rowCount lastRow names, db.replies.headD .empty = .success rowCount lastRow names []

theorem Database.query_of_findsNothing {db : Database} (h : db.FindsNothing) (sql : Text)
    (parameters : List Value) :
    query sql parameters db = (.ok [],db.after [⟨.statement sql parameters,.none⟩]) := by
  obtain ⟨rowCount,lastRow,names,hreply⟩ := h
  have hask := ask_eq (.statement sql parameters) (.querying sql) db
  rw [hreply] at hask
  unfold query
  rw [bind_of_ok hask]
  rfl

theorem ValueKind.encode_integer {l : IntLayout} (hplain : (integer l).isBlobStored = false) {v : Value}
    {n : Int} (hv : v.integer? = some n) (ordinal : Int) :
    (integer l).encode v ordinal none =
      if l.Holds n then .ok (.int n) else .error (.unfit v (integer l)) := by
  have hint : v.toInt = .ok n := by
    cases v <;> cases hv <;> rfl
  have hbytes : (integer l).toBytes v =
      if l.Holds n then .ok (l.toBytes n) else .error (.unfit v (integer l)) := by
    simp only [toBytes, hv]
  have hencode : (integer l).encode v ordinal none = (integer l).encodePlain v := by
    cases v <;> cases hv <;> rfl
  rw [hencode, encodePlain, hplain, if_neg Bool.false_ne_true, hbytes, hint]
  by_cases hrange : l.Holds n
  · rw [if_pos hrange, if_pos hrange]
    rfl
  · rw [if_neg hrange, if_neg hrange]
    rfl

namespace Session
variable {catalog : Catalog} {ring : KeyRing}

theorem fetchReferenced_of_findsNothing (ring : KeyRing) {t : Schema} {c : Column} {column : Text} {l : IntLayout}
    (hc : t.column? column = some c) (hkind : c.kind = .integer l) (hplain : c.isBlobStored = false)
    {v : Value} {n : Int} (hv : v.integer? = some n) {db : Database} (hdb : db.FindsNothing)
    (registry : Registry) (heap : Heap) :
    fetchReferenced ring t column v registry heap db =
      if l.Holds n then
        (.ok none,heap,db.after [⟨.statement (referenceQuery t c v) [.int n],.none⟩])
      else (.error (.value (.unfit v c.kind)),heap,db) := by
  have hsome : v.isNone = false := by
    cases v <;> cases hv <;> rfl
  have hencode : c.kind.encode v c.ordinal none =
      if l.Holds n then .ok (.int n) else .error (.unfit v c.kind) := by
    unfold Column.isBlobStored at hplain
    rw [hkind] at hplain ⊢
    exact ValueKind.encode_integer hplain hv c.ordinal
  have hparameters : lookupParameters c v =
      if l.Holds n then .ok [.int n] else .error (.unfit v c.kind) := by
    rw [lookupParameters, hsome, if_neg Bool.false_ne_true, hencode]
    split <;> rfl
  unfold fetchReferenced
  rw [hc]
  dsimp only
  rw [hparameters]
  by_cases hrange : l.Holds n
  · rw [if_pos hrange, if_pos hrange]
    dsimp only
    rw [Database.query_of_findsNothing hdb]
  · rw [if_neg hrange, if_neg hrange]

theorem load_of_findsNothing {t : Schema} {c : Column} {k : ForeignKey} {l : IntLayout}
    {reading : Traversal Database}
    (hgiven : reading.registry.schemaFor catalog k.referencedType = (.ok t,reading.registry))
    (hunmet : ∀ e ∈ reading.visited, e.1.1 ≠ k.referencedTable) (hnothing : reading.source.FindsNothing)
    (hc : t.column? k.referencedColumn = some c) (hkind : c.kind = .integer l)
    (hplain : c.isBlobStored = false) {v : Value} {n : Int} (hv : v.integer? = some n)
    (onward : RecordId → Schema → Traversal.Step Database Unit) (id : RecordId) :
    Traversal.load catalog (source ring) onward id k v reading =
      if l.Holds n then
        (.ok (),{ reading.navigated id k.navigationField none with
          source := reading.source.after [⟨.statement (referenceQuery t c v) [.int n],.none⟩] })
      else (.error (.value (.unfit v c.kind)),reading) := by
  have hkey : v.isHashable := by
    cases v <;> cases hv <;> rfl
  have hnew := Visited.find?_eq_none_of_table hunmet v
  have hschema : Traversal.schemaFor catalog k.referencedType reading = (.ok t,reading) := by
    rw [Traversal.schemaFor_eq (by rw [hgiven]), hgiven]
  have hfetched := fetchReferenced_of_findsNothing ring hc hkind hplain hv hnothing reading.registry
    reading.heap
  have hfetch : Traversal.fetch (source ring) t k.referencedColumn v reading =
      if l.Holds n then
        (.ok none,{ reading with
          source := reading.source.after [⟨.statement (referenceQuery t c v) [.int n],.none⟩] })
      else (.error (.value (.unfit v c.kind)),reading) := by
    unfold Traversal.fetch source
    dsimp only
    rw [hfetched]
    split <;> rfl
  rw [Traversal.load_of_unmet hkey hnew, bind_of_ok hschema]
  by_cases hrange : l.Holds n
  · rw [if_pos hrange] at hfetch ⊢
    rw [bind_of_ok hfetch]
    rfl
  · rw [if_neg hrange] at hfetch ⊢
    rw [bind_of_error hfetch]

/-- A key that matches no row leaves the reference empty if the kind of the referenced key can represent
it, and is an error otherwise; so no key is an error if the one range contains the other. -/
theorem load_dangling {typeName : Text} {s : Schema} {o : Column} {k : ForeignKey}
    (hs : catalog.schemaOf typeName = .ok s) (ho : o ∈ s.columns) (hk : o.foreignKey = some k)
    {reading : Traversal Database} (hbuilt : Registry.Built catalog reading.registry)
    (hregistered : (reading.registry.find? k.referencedType).isSome)
    (hunmet : ∀ e ∈ reading.visited, e.1.1 ≠ k.referencedTable) (hnothing : reading.source.FindsNothing)
    (ring : KeyRing) (onward : RecordId → Schema → Traversal.Step Database Unit) (id : RecordId) :
    let load (v : Value) := Traversal.load catalog (source ring) onward id k v reading
    ∃ (l referenced : IntLayout) (t : Schema) (c : Column), o.kind = .integer l ∧
      catalog.schemaOf k.referencedType = .ok t ∧ t.primaryKey = .ok c ∧ c.kind = .integer referenced ∧
      (∀ v n, v.integer? = some n → l.Holds n → load v =
        if referenced.Holds n then
          (.ok (),{ reading.navigated id k.navigationField none with
            source := reading.source.after [⟨.statement (referenceQuery t c v) [.int n],.none⟩] })
        else (.error (.value (.unfit v c.kind)),reading)) ∧
      ((∀ v n, v.integer? = some n → l.Holds n → (load v).1 = .ok ()) ↔
        referenced.least ≤ l.least ∧ l.bound ≤ referenced.bound) := by
  intro load
  obtain ⟨e,he⟩ := Option.isSome_iff_exists.mp hregistered
  have hgiven := Registry.schemaFor_of_find? he catalog
  have ht : catalog.schemaOf k.referencedType = .ok e.schema :=
    ((Registry.Built.schemaFor hbuilt k.referencedType).2 e.schema (by rw [hgiven])).1
  obtain ⟨_,hrefer,_⟩ := (Schema.isKeyColumn_of_schemaOf hs ho).foreign k hk
  obtain ⟨l,hl⟩ := ValueKind.integer_of_canRefer hrefer
  have hmem : k ∈ s.foreignKeys := List.mem_filterMap.mpr ⟨o,ho,hk⟩
  obtain ⟨c,hc,hprimary,_,_,hreferred⟩ := ForeignKey.column?_of_schemaOf hs hmem ht
  obtain ⟨referenced,hreferenced,hplain⟩ := ValueKind.integer_of_canBeReferred hreferred
  have hload : ∀ {v n}, v.integer? = some n → load v = if referenced.Holds n then _ else _ := fun hv =>
    load_of_findsNothing hgiven hunmet hnothing hc hreferenced hplain hv onward id
  refine ⟨l,referenced,e.schema,c,hl,ht,hprimary,hreferenced,fun v n hv _ => hload hv,?_⟩
  rw [← IntLayout.forall_holds_iff]
  constructor
  · -- The lookup of an integer that only the owning kind can hold fails.
    intro h n hn
    by_contra hrange
    have hok := h (.int n) n rfl hn
    rw [hload (v := .int n) rfl, if_neg hrange] at hok
    cases hok
  · intro h v n hv hn
    rw [hload hv, if_pos (h n hn)]

end Session

namespace Delivery
open Session

/-- Orders refer to customers by numbers of thirty-two bits, and customers have numbers of eight. -/
def declarations : List TypeDeclaration :=
  [⟨"Customer",some "customers",none,true,
      [⟨"id","int",some { ColumnOptions.plain with kind := some (.integer ⟨true,.one⟩), primaryKey := true },
        .required,true⟩]⟩,
    ⟨"Order",some "orders",none,true,
      [Circle.key, Circle.reference "customer_id" "customer",
        ⟨"customer","Customer",none,.value .none,true⟩]⟩]

def catalog : Catalog := declarations.map (Catalog.typeOf none)

def reference : ForeignKey := ⟨"customers","Customer","id","customer_id","customer_id","customer",true⟩

def number : Column :=
  { name := "id", fieldName := "id", kind := .integer ⟨true,.one⟩, ordinal := 0, isPrimaryKey := true }

def owner : Column :=
  { name := "customer_id", fieldName := "customer_id", kind := .integer ⟨true,.four⟩, ordinal := 1
    foreignKey := some reference }

set_option maxRecDepth 8000 in
theorem exists_schemas : ∃ s t : Schema, catalog.schemaOf "Order" = .ok s ∧ owner ∈ s.columns ∧
    catalog.schemaOf "Customer" = .ok t ∧ t.primaryKey = .ok number :=
  ⟨_,_,rfl,List.mem_cons_of_mem _ List.mem_cons_self,rfl,rfl⟩

/-- An order was read, and nothing else is found. -/
def reading : Traversal Database :=
  ⟨(Registry.schemaFor catalog [] "Order").2,[],[],⟨Database.memory,[],[]⟩⟩

def load (v : Value) : Except Fault Unit × Traversal Database :=
  Traversal.load catalog (source (.empty .aes256)) (fun _ _ => pure ()) 0 reference v reading

theorem reached : Registry.Reached catalog reading.registry := .schemaFor .empty "Order"

set_option maxRecDepth 8000 in
theorem isSome_customer : (reading.registry.find? "Customer").isSome := by decide

theorem findsNothing : reading.source.FindsNothing := ⟨0,none,[],rfl⟩

set_option maxRecDepth 8000 in
theorem load_out_of_range :
    (load (.int 300)).1 = .error (.value (.unfit (.int 300) (.integer ⟨true,.one⟩))) := rfl

/-- The number of a customer that does not exist leaves the reference of an order empty. -/
theorem load_in_range : (load (.int 100)).1 = .ok () ∧
    ¬∀ (v : Value) (n : Int), v.integer? = some n → IntLayout.Holds ⟨true,.four⟩ n → (load v).1 = .ok () := by
  obtain ⟨s,t,hs,ho,ht,hprimary⟩ := exists_schemas
  obtain ⟨l,referenced,u,c,hl,hu,hc,hreferenced,hload,hall⟩ := load_dangling hs ho rfl reached.built
    isSome_customer nofun findsNothing (.empty .aes256) (fun _ _ => pure ()) 0
  cases ht.symm.trans hu
  cases hprimary.symm.trans hc
  cases hl
  cases hreferenced
  constructor
  · have hsmall := hload (.int 100) 100 rfl (by decide)
    rw [if_pos (by decide)] at hsmall
    exact congrArg Prod.fst hsmall
  · intro hok
    have hranges := hall.mp hok
    revert hranges
    decide

/-- An order of a customer whose number is out of range can't be read. -/
theorem not_load_dangling : ¬∀ (ds : List TypeDeclaration) (catalog : Catalog) (typeName : Text)
    (s : Schema) (o : Column) (k : ForeignKey) (reading : Traversal Database),
    Catalog.ofDeclarations ds = .ok catalog → catalog.schemaOf typeName = .ok s → o ∈ s.columns →
    o.foreignKey = some k → k.autoResolve → Registry.Reached catalog reading.registry →
    (reading.registry.find? k.referencedType).isSome → reading.visited = [] →
    reading.source.FindsNothing → ∀ (l : IntLayout) (n : Int), o.kind = .integer l → l.Holds n →
    ∀ (ring : KeyRing) (onward : RecordId → Schema → Traversal.Step Database Unit) (id : RecordId),
      (Traversal.load catalog (source ring) onward id k (.int n) reading).1 = .ok () := by
  intro h
  obtain ⟨s,_,hs,ho,_⟩ := exists_schemas
  have hok := h declarations catalog "Order" s owner reference reading rfl hs ho rfl rfl reached
    isSome_customer rfl findsNothing ⟨true,.four⟩ 300 rfl (by decide) (.empty .aes256)
    (fun _ _ => pure ()) 0
  cases load_out_of_range.symm.trans hok

end Delivery
end SealedRows
