import SealedRows.Proofs.Reference.Typed
import SealedRows.Proofs.Session.Sends

/-! # Records made of rows

A record that is made of a row is of the type of its table, and it is added behind all records that
there are. So the database is a source of records of the types that it is asked for.
-/
namespace SealedRows

namespace Record

def IsMade (r : Record) : Prop := ∃ type values, ofValues type values = .ok r

theorem type_foldl_withField (late : List (Text × Value)) (r : Record) :
    (late.foldl (fun r e => r.withField e.1 (.value e.2)) r).type = r.type := by
  induction late generalizing r with
  | nil => rfl
  | cons e late ih => exact ih _

theorem type_of_ofValues {type : RecordType} {values : List (Text × Value)} {r : Record}
    (h : ofValues type values = .ok r) : r.type = type := by
  obtain ⟨made,hmade,h⟩ := bind_eq_ok.mp h
  cases h
  rw [type_foldl_withField]
  unfold make at hmade
  dsimp only at hmade
  split at hmade
  · cases hmade
  · split at hmade
    · cases hmade
    · cases hmade
      rfl

end Record

namespace Heap
variable {h middle later : Heap} {entries all : List RegistryEntry} {ids more : List (Option RecordId)}

/-- Whether a heap has grown by records that were made, and the places that were given hold records of
the types of tables. -/
structure Grown (entries : List RegistryEntry) (h later : Heap) (ids : List (Option RecordId)) : Prop where
  grows : ∃ new, later = h ++ new ∧ ∀ r ∈ new, r.IsMade
  typed : ∀ id, some id ∈ ids → ∃ e ∈ entries, ∃ r : Record, later[id]? = some r ∧
    r.type = e.schema.record

theorem grown_nil (entries : List RegistryEntry) (h : Heap) : Grown entries h h [] :=
  ⟨⟨[],(List.append_nil h).symm,nofun⟩,nofun⟩

theorem Grown.append (hfirst : Grown entries h middle ids) (hrest : Grown entries middle later more) :
    Grown entries h later (ids ++ more) := by
  obtain ⟨new,rfl,hnew⟩ := hfirst.grows
  obtain ⟨newer,rfl,hnewer⟩ := hrest.grows
  constructor
  · refine ⟨new ++ newer,List.append_assoc h new newer,?_⟩
    intro r hr
    rcases List.mem_append.mp hr with hr | hr
    · exact hnew r hr
    · exact hnewer r hr
  · intro id hid
    rcases List.mem_append.mp hid with hid | hid
    · obtain ⟨e,he,r,hr,htype⟩ := hfirst.typed id hid
      have hlt : id < (h ++ new).length := (List.getElem?_eq_some_iff.mp hr).1
      exact ⟨e,he,r,by rw [List.getElem?_append_left hlt, hr],htype⟩
    · exact hrest.typed id hid

theorem grown_add {e : RegistryEntry} (he : e ∈ entries) {values : List (Text × Value)} {r : Record}
    (hr : Record.ofValues e.schema.record values = .ok r) :
    Grown entries h (h ++ [r]) [some h.length] := by
  constructor
  · exact ⟨[r],rfl,List.forall_mem_singleton.mpr ⟨_,values,hr⟩⟩
  · intro id hid
    have hplace : id = h.length := by simpa using hid
    subst hplace
    exact ⟨e,he,r,List.getElem?_concat_length,Record.type_of_ofValues hr⟩

section
variable {one : Heap → RegistryEntry → Option (List (Text × Value)) →
  Except Fault (Option RecordId × Heap)}
  (hone : ∀ {g g' : Heap} {e values id}, e ∈ all → one g e values = .ok (id,g') → Grown all g g' [id])
include hone

theorem grown_row {values : List (Option (List (Text × Value)))} (hentries : ∀ e ∈ entries, e ∈ all)
    (hrow : addDecoded.row one h entries values = .ok (ids,later)) : Grown all h later ids := by
  induction entries generalizing h values ids with
  | nil =>
    cases hrow
    exact grown_nil all _
  | cons e entries ih =>
    obtain ⟨he,hrest⟩ := List.forall_mem_cons.mp hentries
    cases values with
    | nil =>
      cases hrow
      exact grown_nil all _
    | cons v values =>
      obtain ⟨⟨id,middle⟩,hfirst,hrow⟩ := bind_eq_ok.mp hrow
      obtain ⟨⟨rest,last⟩,hlast,hrow⟩ := bind_eq_ok.mp hrow
      cases hrow
      exact (hone he hfirst).append (ih hrest hlast)

theorem grown_all {rows : List (List (Option (List (Text × Value))))}
    {ids : List (List (Option RecordId))}
    (hall : addDecoded.all all one h rows = .ok (ids,later)) : Grown all h later ids.flatten := by
  induction rows generalizing h ids with
  | nil =>
    cases hall
    exact grown_nil all _
  | cons values rows ih =>
    obtain ⟨⟨first,middle⟩,hrow,hall⟩ := bind_eq_ok.mp hall
    obtain ⟨⟨rest,last⟩,hlast,hall⟩ := bind_eq_ok.mp hall
    cases hall
    exact (grown_row hone (fun _ he => he) hrow).append (ih hlast)

end

theorem addRows_cases (h : Heap) (ring : KeyRing) (entries : List RegistryEntry) (outer : Bool)
    (rows : List Row) : (∃ fault, h.addRows ring entries outer rows = (.error fault,h)) ∨
      ∃ ids later, h.addRows ring entries outer rows = (.ok ids,later) ∧
        Grown entries h later ids.flatten := by
  unfold addRows
  cases rows.mapM (Row.assemble ring outer entries) with
  | error fault => exact Or.inl ⟨fault,rfl⟩
  | ok decoded =>
    unfold addDecoded
    dsimp only
    split
    · next ids later hall =>
      refine Or.inr ⟨ids,later,rfl,grown_all ?_ hall⟩
      intro g g' e values id he hone
      cases values with
      | none =>
        cases hone
        exact ⟨⟨[],(List.append_nil g).symm,nofun⟩,by simp⟩
      | some values =>
        dsimp only at hone
        split at hone
        · cases hone
        · next r hr =>
          cases hone
          exact grown_add he hr
    · next fault _ => exact Or.inl ⟨fault,rfl⟩

end Heap

namespace Session

theorem typeName_entryOf (registry : Registry) (s : Schema) :
    (entryOf registry s).schema.record.name = s.record.name := by
  unfold entryOf
  cases hfind : registry.find? s.record.name with
  | none => rfl
  | some e =>
    have hname : e.typeName = s.record.name := by simpa using List.find?_some hfind
    exact hname

/-- A lookup makes no record or one of the type that it is asked for. -/
theorem fetchReferenced_cases (ring : KeyRing) (s : Schema) (column : Text) (key : Value)
    (registry : Registry) (heap : Heap) (db : Database) :
    (∃ result later, fetchReferenced ring s column key registry heap db = (result,heap,later) ∧
        ∀ found, result ≠ .ok (some found)) ∨
      ∃ (ids : List (List (Option RecordId))) (made : Heap) (later : Database),
        fetchReferenced ring s column key registry heap db =
            (.ok ids.flatten.head?.join,made,later) ∧
          Heap.Grown [entryOf registry s] heap made ids.flatten := by
  unfold fetchReferenced
  cases s.column? column with
  | none => exact Or.inl ⟨_,_,rfl,nofun⟩
  | some c =>
    dsimp only
    cases lookupParameters c key with
    | error fault => exact Or.inl ⟨_,_,rfl,nofun⟩
    | ok ps =>
      dsimp only
      split
      · exact Or.inl ⟨_,_,rfl,nofun⟩
      · exact Or.inl ⟨_,_,rfl,nofun⟩
      · next rows later _ _ =>
        rcases Heap.addRows_cases heap ring [entryOf registry s] false rows with
          ⟨fault,hrows⟩ | ⟨ids,made,hrows,hgrown⟩
        · rw [hrows]
          exact Or.inl ⟨_,_,rfl,nofun⟩
        · rw [hrows]
          exact Or.inr ⟨ids,made,later,rfl,hgrown⟩

/-- The database gives records of the types that it is asked for, whatever it answers. -/
theorem source_typed (ring : KeyRing) : (source ring).Typed Record.IsMade := by
  intro s column key registry heap db
  have hfetch : (source ring).fetch s column key registry heap db =
      fetchReferenced ring s column key registry heap db := rfl
  rw [hfetch]
  rcases fetchReferenced_cases ring s column key registry heap db with
    ⟨result,later,hrun,hresult⟩ | ⟨ids,made,later,hrun,hgrown⟩
  · rw [hrun]
    refine ⟨[],(List.append_nil heap).symm,nofun,?_⟩
    intro found hfound
    exact absurd hfound (hresult found)
  · rw [hrun]
    obtain ⟨new,rfl,hnew⟩ := hgrown.grows
    refine ⟨new,rfl,hnew,?_⟩
    intro found hfound
    -- Only the first row of an answer counts.
    have hfirst : ids.flatten.head? = some (some found) :=
      Option.join_eq_some_iff.mp (Except.ok.inj hfound)
    obtain ⟨e,he,r,hr,htype⟩ := hgrown.typed found (List.mem_of_head? hfirst)
    cases List.mem_singleton.mp he
    refine ⟨r,hr,?_⟩
    rw [Record.IsOf, htype, typeName_entryOf]

/-- Resolving references in a session changes nothing but the fields of foreign keys, which receive null
or records of types of the tables that they refer to. -/
theorem resolve_assigned {catalog : Catalog} {session : Session} (hready : Ready catalog session)
    {records : List (RecordId × Schema)}
    (hrecords : ∀ e ∈ records, catalog.schemaOf e.2.record.name = .ok e.2 ∧
      ∃ r : Record, session.heap[e.1]? = some r ∧ r.IsOf e.2) :
    let after := (resolve records session).2.heap
    ∀ (id : RecordId) (r' : Record), after[id]? = some r' →
      ∃ r : Record, (session.heap[id]? = some r ∨ session.heap.length ≤ id ∧ r.IsMade) ∧
        Record.Assigned catalog after r r' := by
  intro after
  obtain ⟨htyped,_⟩ := (Traversal.kept_typed (source_typed session.ring)).resolveAll
    (t := ⟨session.registry,session.heap,[],session.database⟩)
    ⟨hready.built,Nat.le_refl _,fun id r hr => ⟨r,Or.inl hr,.refl _ _ r⟩,nofun⟩ hrecords
  rw [← hready.catalog_eq] at htyped ⊢
  exact htyped.records

end Session
end SealedRows
