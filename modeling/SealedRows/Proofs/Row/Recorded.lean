import SealedRows.Proofs.Reference.Keyed
import SealedRows.Proofs.Row.Decoded

/-! # Records of rows

A record is made of the decoded values of a row, and holds them in the fields of their columns. A statement
on one table gives one new record for each of its rows, in their order.
-/
namespace SealedRows

theorem lookup_eq_some_of_forall {α β : Type} [BEq α] [LawfulBEq α] {l : List (α × β)} {a : α} {b : β}
    (hmem : a ∈ l.map (·.1)) (hall : ∀ e ∈ l, e.1 = a → e.2 = b) : l.lookup a = some b := by
  induction l with
  | nil => cases hmem
  | cons e l ih =>
    obtain ⟨k,v⟩ := e
    obtain ⟨hk,hl⟩ := List.forall_mem_cons.mp hall
    by_cases hname : k = a
    · cases hname
      rw [List.lookup_cons_self]
      exact congrArg some (hk rfl)
    · have hne : (a == k) = false := beq_eq_false_iff_ne.mpr (Ne.symm hname)
      rw [List.lookup_cons, hne]
      exact ih ((List.mem_cons.mp hmem).resolve_left (Ne.symm hname)) hl

namespace Record
variable {type : RecordType} {values : List (Text × Value)} {r : Record} {field : Text} {v : Value}
  {content : Content}

/-! ## What records hold -/

theorem value_of_initial {f : Field} {e : Text × Content} (h : initial f = some e) :
    ∃ v, e = (f.name,.value v) := by
  unfold initial at h
  split at h
  · cases h
  · split at h <;> cases h
    exact ⟨_,rfl⟩
  · cases h
    exact ⟨_,rfl⟩

/-- A new record holds what is given for its fields, and values in all others. -/
theorem mem_contents_of_make {given : List (Text × Content)} (h : make type given = .ok r)
    {e : Text × Content} (he : e ∈ r.contents) :
    given.lookup e.1 = some e.2 ∨ given.lookup e.1 = none ∧ ∃ v, e.2 = .value v := by
  unfold make at h
  dsimp only at h
  obtain ⟨_,h⟩ := guard_eq_ok.mp h
  obtain ⟨_,h⟩ := guard_eq_ok.mp h
  cases h
  obtain ⟨f,_,he⟩ := List.mem_filterMap.mp he
  split at he
  · next hgiven =>
    cases he
    exact Or.inl hgiven
  · next hgiven =>
    obtain ⟨v,rfl⟩ := value_of_initial he
    exact Or.inr ⟨hgiven,v,rfl⟩

theorem content?_of_make {given : List (Text × Content)} (h : make type given = .ok r)
    (hgiven : given.lookup field = some content) (hfield : field ∈ type.fields.map (·.name)) :
    r.content? field = some content := by
  have hlookup : r.contents.lookup field = some content := by
    refine lookup_eq_some_of_forall ?_ fun e he hname => ?_
    · unfold make at h
      dsimp only at h
      obtain ⟨_,h⟩ := guard_eq_ok.mp h
      obtain ⟨_,h⟩ := guard_eq_ok.mp h
      cases h
      obtain ⟨f,hf,rfl⟩ := List.mem_map.mp hfield
      refine List.mem_map.mpr ⟨(f.name,content),List.mem_filterMap.mpr ⟨f,hf,?_⟩,rfl⟩
      rw [hgiven]
    · subst hname
      rcases mem_contents_of_make h he with hsome | ⟨hnone,_⟩
      · exact Option.some.inj (hsome.symm.trans hgiven)
      · cases hnone.symm.trans hgiven
  rw [content?, hlookup]

/-- A field that is set to one value holds it, whatever else is set. -/
theorem content?_foldl_withField {late : List (Text × Value)} (hall : ∀ e ∈ late, e.1 = field → e.2 = v)
    (h : r.content? field = some (.value v) ∨ field ∈ late.map (·.1)) :
    (late.foldl (fun r e => r.withField e.1 (.value e.2)) r).content? field = some (.value v) := by
  induction late generalizing r with
  | nil => exact h.resolve_right List.not_mem_nil
  | cons e late ih =>
    obtain ⟨he,hlate⟩ := List.forall_mem_cons.mp hall
    rw [List.foldl_cons]
    refine ih hlate ?_
    rw [content?_withField]
    by_cases hname : field = e.1
    · rw [if_pos hname, he hname.symm]
      exact Or.inl rfl
    · rw [if_neg hname]
      exact h.imp_right fun hmem => (List.mem_cons.mp hmem).resolve_left hname

def givenOf (type : RecordType) (values : List (Text × Value)) : List (Text × Content) :=
  type.fields.filterMap fun f =>
    if !f.init then none
    else
      match values.lookup f.name, f.default with
      | some v, _ => some (f.name,.value v)
      | none, .required => some (f.name,.value .none)
      | none, _ => none

def lateOf (type : RecordType) (values : List (Text × Value)) : List (Text × Value) :=
  type.fields.filterMap fun f =>
    if f.init then none else (values.lookup f.name).map fun v => (f.name,v)

theorem ofValues_eq_ok : ofValues type values = .ok r ↔ ∃ made, make type (givenOf type values) = .ok made ∧
    (lateOf type values).foldl (fun r e => r.withField e.1 (.value e.2)) made = r := by
  refine bind_eq_ok.trans ?_
  simp only [pure_eq_ok]
  rfl

theorem value_of_mem_lateOf {e : Text × Value} (h : e ∈ lateOf type values) (hname : e.1 = field)
    (hv : values.lookup field = some v) : e.2 = v := by
  obtain ⟨f,_,he⟩ := List.mem_filterMap.mp h
  split at he
  · cases he
  · obtain ⟨w,hw,rfl⟩ := Option.map_eq_some_iff.mp he
    cases hname
    exact Option.some.inj (hw.symm.trans hv)

theorem content_of_mem_givenOf {e : Text × Content} (h : e ∈ givenOf type values) :
    e.2 = .value ((values.lookup e.1).getD .none) := by
  obtain ⟨f,_,he⟩ := List.mem_filterMap.mp h
  split at he
  · cases he
  · split at he
    · next hv =>
      cases he
      rw [hv]
      rfl
    · next hv _ =>
      cases he
      rw [hv]
      rfl
    · cases he

/-- A record that is made of decoded values holds them. -/
theorem content?_of_ofValues (h : ofValues type values = .ok r) (hv : values.lookup field = some v)
    (hfield : field ∈ type.fields.map (·.name)) : r.content? field = some (.value v) := by
  obtain ⟨made,hmade,rfl⟩ := ofValues_eq_ok.mp h
  refine content?_foldl_withField (fun e he hname => value_of_mem_lateOf he hname hv) ?_
  obtain ⟨f,hf,rfl⟩ := List.mem_map.mp hfield
  cases hinit : f.init with
  | true =>
    refine Or.inl (content?_of_make hmade (lookup_eq_some_of_forall ?_ ?_) hfield)
    · refine List.mem_map.mpr ⟨(f.name,.value v),List.mem_filterMap.mpr ⟨f,hf,?_⟩,rfl⟩
      rw [hinit, hv]
      rfl
    · intro e he hname
      rw [content_of_mem_givenOf he, hname, hv]
      rfl
  | false =>
    refine Or.inr (List.mem_map.mpr ⟨(f.name,v),List.mem_filterMap.mpr ⟨f,hf,?_⟩,rfl⟩)
    rw [hinit, hv]
    rfl

def IsPlain (r : Record) : Prop := ∀ field content, r.content? field = some content → ∃ v, content = .value v

theorem isPlain_foldl_withField (h : r.IsPlain) (late : List (Text × Value)) :
    (late.foldl (fun r e => r.withField e.1 (.value e.2)) r).IsPlain := by
  induction late generalizing r with
  | nil => exact h
  | cons e late ih =>
    refine ih fun field content hcontent => ?_
    rw [content?_withField] at hcontent
    split at hcontent
    · cases hcontent
      exact ⟨e.2,rfl⟩
    · exact h field content hcontent

theorem isPlain_of_make {given : List (Text × Content)} (h : make type given = .ok r)
    (hgiven : ∀ e ∈ given, ∃ v, e.2 = .value v) : r.IsPlain := by
  intro field content hcontent
  unfold content? at hcontent
  split at hcontent
  · next hlookup =>
    cases hcontent
    obtain ⟨before,after,hcontents,_⟩ := List.lookup_eq_some_iff.mp hlookup
    have hmem : (field,content) ∈ r.contents := by simp [hcontents]
    rcases mem_contents_of_make h hmem with hsome | ⟨_,hvalue⟩
    · obtain ⟨before,after,hcontents,_⟩ := List.lookup_eq_some_iff.mp hsome
      exact hgiven (field,content) (by simp [hcontents])
    · exact hvalue
  · obtain ⟨v,_,rfl⟩ := Option.map_eq_some_iff.mp hcontent
    exact ⟨v,rfl⟩

theorem isPlain_of_ofValues (h : ofValues type values = .ok r) : r.IsPlain := by
  obtain ⟨made,hmade,rfl⟩ := ofValues_eq_ok.mp h
  exact isPlain_foldl_withField (isPlain_of_make hmade fun e he => ⟨_,content_of_mem_givenOf he⟩) _

def IsOfRow (ring : KeyRing) (e : RegistryEntry) (row : Row) (r : Record) : Prop :=
  ∃ values, row.decode ring e = .ok values ∧ ofValues e.schema.record values = .ok r

theorem IsOfRow.isPlain {ring : KeyRing} {e : RegistryEntry} {row : Row} (h : r.IsOfRow ring e row) :
    r.IsPlain := by
  obtain ⟨values,_,hmade⟩ := h
  exact isPlain_of_ofValues hmade

end Record

/-! ## Records of a table -/

namespace Heap
variable {ring : KeyRing} {e : RegistryEntry} {h : Heap} {rows : List Row}

/-- The places behind a heap hold what is added to it. -/
theorem exists_of_mem_range' {new : List Record} {id : RecordId}
    (hid : id ∈ List.range' h.length new.length) : ∃ r ∈ new, (h ++ new)[id]? = some r := by
  obtain ⟨hle,hlt⟩ := List.mem_range'_1.mp hid
  have hplace : id - h.length < new.length := Nat.sub_lt_left_of_lt_add hle hlt
  refine ⟨new[id - h.length],List.getElem_mem _,?_⟩
  rw [List.getElem?_append_right hle, List.getElem?_eq_getElem hplace]

theorem filterMap_places (places : List RecordId) :
    (places.map fun id => [some id]).flatten.filterMap id = places := by
  induction places with
  | nil => rfl
  | cons id places ih => exact congrArg (id :: ·) ih

theorem assemble_eq_ok {row : Row} {parts : List (Option (List (Text × Value)))} :
    Row.assemble ring false [e] row = .ok parts ↔
      ∃ values, row.decode ring e = .ok values ∧ parts = [some values] := by
  have hassemble : Row.assemble ring false [e] row = Row.decodeParts ring false 0 [e] [row] := rfl
  rw [hassemble, Row.decodeParts, Row.decodeParts]
  · cases row.decode ring e <;> simp [bind, Except.bind, pure, Except.pure, eq_comm]
  · intros
    contradiction

section
variable {one : Heap → RegistryEntry → Option (List (Text × Value)) →
    Except Fault (Option RecordId × Heap)}
  (hone : ∀ (g : Heap) (values : List (Text × Value)), one g e (some values) =
    match Record.ofValues e.schema.record values with
    | .error b => .error (.general b)
    | .ok r => .ok (some g.length,g ++ [r]))
include hone

theorem addDecoded_row {values : List (Text × Value)} {r : Record}
    (hr : Record.ofValues e.schema.record values = .ok r) (g : Heap) :
    addDecoded.row one g [e] [some values] = .ok ([some g.length],g ++ [r]) := by
  rw [addDecoded.row, hone, hr]
  rfl

theorem addDecoded_all {decoded : List (List (Option (List (Text × Value))))}
    {ids : List (List (Option RecordId))} {later : Heap}
    (hdecoded : List.Forall₂ (fun row parts => Row.assemble ring false [e] row = .ok parts) rows decoded)
    (hall : addDecoded.all [e] one h decoded = .ok (ids,later)) :
    ∃ new, later = h ++ new ∧ ids = (List.range' h.length new.length).map (fun id => [some id]) ∧
      List.Forall₂ (Record.IsOfRow ring e) rows new := by
  induction hdecoded generalizing h ids with
  | nil =>
    cases hall
    exact ⟨[],(List.append_nil _).symm,rfl,.nil⟩
  | @cons row parts rows decoded hrow _ ih =>
    obtain ⟨values,hvalues,rfl⟩ := assemble_eq_ok.mp hrow
    obtain ⟨⟨first,middle⟩,hfirst,hall⟩ := bind_eq_ok.mp hall
    obtain ⟨⟨rest,last⟩,hlast,hall⟩ := bind_eq_ok.mp hall
    cases hall
    cases hr : Record.ofValues e.schema.record values with
    | error b =>
      rw [addDecoded.row, hone, hr] at hfirst
      cases hfirst
    | ok r =>
      rw [addDecoded_row hone hr] at hfirst
      cases hfirst
      obtain ⟨new,rfl,rfl,hnew⟩ := ih hlast
      refine ⟨r :: new,List.append_assoc h [r] new,?_,.cons ⟨values,hvalues,hr⟩ hnew⟩
      rw [List.length_cons, List.range'_succ, List.map_cons, List.length_append, List.length_singleton]

end

/-- The rows of a table give one new record each, or none at all if one of them is bad. -/
theorem addRows_table (h : Heap) (ring : KeyRing) (e : RegistryEntry) (rows : List Row) :
    (∃ fault, h.addRows ring [e] false rows = (.error fault,h)) ∨
      ∃ new, h.addRows ring [e] false rows =
          (.ok ((List.range' h.length new.length).map fun id => [some id]),h ++ new) ∧
        List.Forall₂ (Record.IsOfRow ring e) rows new := by
  unfold addRows
  cases hrows : rows.mapM (Row.assemble ring false [e]) with
  | error fault => exact Or.inl ⟨fault,rfl⟩
  | ok decoded =>
    unfold addDecoded
    dsimp only
    split
    · next ids later hall =>
      obtain ⟨new,rfl,rfl,hnew⟩ := addDecoded_all (fun _ _ => rfl) (forall₂_of_mapM hrows) hall
      exact Or.inr ⟨new,rfl,hnew⟩
    · next fault _ => exact Or.inl ⟨fault,rfl⟩

end Heap
end SealedRows
