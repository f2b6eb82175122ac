import SealedRows.Proofs.Session.Calls

/-! # Joins that compare plain columns

Tables are joined by plain columns of tables of different names, and the condition of a join is one on
the records of its first table.
-/
namespace SealedRows.Session
variable {catalog : Catalog} {session : Session} {s : Schema}

theorem joinClauses_spares (hs : (s.columns.map (·.name)).Nodup) {others : List (Schema × JoinFields)}
    (hothers : ∀ e ∈ others, (e.1.columns.map (·.name)).Nodup) {clauses : List Text}
    (h : joinClauses s others = .ok clauses) : ∃ parts : List (Schema × Text × Text),
      parts.map (·.1) = others.map (·.1) ∧ clauses = parts.map (Statement.joinClause s) ∧
        (∀ e ∈ parts, s.name ≠ e.1.name ∧ s.Spares false e.2.1 ∧ e.1.Spares false e.2.2) ∧
          ∀ e ∈ others, s.hides e.2.first = false ∧ e.1.hides e.2.joined = false := by
  unfold joinClauses at h
  induction others generalizing clauses with
  | nil =>
    cases h
    exact ⟨[],rfl,rfl,nofun,nofun⟩
  | cons e others ih =>
    obtain ⟨he,hrest⟩ := List.forall_mem_cons.mp hothers
    rw [List.mapM_cons] at h
    obtain ⟨clause,hclause,h⟩ := bind_eq_ok.mp h
    obtain ⟨rest,hclauses,h⟩ := bind_eq_ok.mp h
    cases h
    obtain ⟨own,joined,rfl,hspares,hplain⟩ := Sql.joinClause_spares hs he hclause
    obtain ⟨parts,hparts,rfl,hall,hfields⟩ := ih hrest hclauses
    refine ⟨(e.1,own,joined) :: parts,?_,rfl,?_,?_⟩
    · rw [List.map_cons, List.map_cons, hparts]
    · exact List.forall_mem_cons.mpr ⟨hspares,hall⟩
    · exact List.forall_mem_cons.mpr ⟨hplain,hfields⟩

def JoinReveals (catalog : Catalog) (first : Text) (joined : List (Text × JoinFields))
    (predicate : Value) : Prop :=
  catalog.Reveals first predicate ∨
    ∃ e ∈ joined, catalog.Hides first e.2.first ∨ catalog.Hides e.1 e.2.joined

def HasSchemas (catalog : Catalog) : List (Text × JoinFields) → List (Schema × JoinFields) → Prop :=
  List.Forall₂ fun e other => catalog.schemaOf e.1 = .ok other.1 ∧ other.2 = e.2

theorem HasSchemas.names {joined : List (Text × JoinFields)} {others : List (Schema × JoinFields)}
    (h : HasSchemas catalog joined others) :
    (others.map (·.1)).map (·.record.name) = joined.map (·.1) := by
  induction h with
  | nil => rfl
  | cons he _ ih =>
    rw [List.map_cons, List.map_cons, List.map_cons, ih, Catalog.name_of_schemaOf he.1]

theorem HasSchemas.schemaOf_name {joined : List (Text × JoinFields)}
    {others : List (Schema × JoinFields)} (h : HasSchemas catalog joined others) {first : Text}
    (hs : catalog.schemaOf first = .ok s) :
    ∀ t ∈ s :: others.map (·.1), catalog.schemaOf t.record.name = .ok t := by
  refine List.forall_mem_cons.mpr ⟨Catalog.schemaOf_name hs,?_⟩
  intro t ht
  obtain ⟨other,hother,rfl⟩ := List.mem_map.mp ht
  obtain ⟨e,_,ht,_⟩ := exists_of_forall₂ h.flip hother
  exact Catalog.schemaOf_name ht

/-- The records of joined rows have the schemas of their tables. -/
theorem HasSchemas.schemaOf_of_present {joined : List (Text × JoinFields)}
    {others : List (Schema × JoinFields)} (h : HasSchemas catalog joined others) {first : Text}
    (hs : catalog.schemaOf first = .ok s) {rows : List (List (Option RecordId))} {e : RecordId × Schema}
    (he : e ∈ rows.flatMap fun row =>
      (List.zip row (s :: others.map (·.1))).filterMap fun (id,t) => id.map fun id => (id,t)) :
    catalog.schemaOf e.2.record.name = .ok e.2 := by
  obtain ⟨row,_,he⟩ := List.mem_flatMap.mp he
  obtain ⟨⟨id,t⟩,hzip,he⟩ := List.mem_filterMap.mp he
  cases id with
  | none => cases he
  | some id =>
    cases he
    exact h.schemaOf_name hs t (List.of_mem_zip hzip).2

/-- What is known before the statement of a join is sent. -/
theorem allowed_join {first : Text} {joined : List (Text × JoinFields)} {predicate : Value}
    {others : List (Schema × JoinFields)} {clauses : List Text} {filter : Option Filter} {outer : Bool}
    {sql : Text} (hs : catalog.schemaOf first = .ok s) (hothers : HasSchemas catalog joined others)
    (hclauses : joinClauses s others = .ok clauses) (hplain : ¬predicate.Reveals s)
    (hfilter : ∀ f, filter = some f → f.Spares s true)
    (hsql : Sql.join (s :: others.map (·.1)) clauses (filter.map (·.text)) outer = .ok sql) :
    ¬JoinReveals catalog first joined predicate ∧
      ∀ ps, Allowed catalog (first :: joined.map (·.1)) (.statement sql ps) := by
  have hdeclared := hothers.schemaOf_name hs
  have hnames : ∀ other ∈ others, (other.1.columns.map (·.name)).Nodup := by
    intro other hother
    have ht := hdeclared other.1 (List.mem_cons_of_mem _ (List.mem_map_of_mem hother))
    exact Schema.nodup_names_of_schemaOf ht
  obtain ⟨parts,hparts,rfl,hspares,hfields⟩ :=
    joinClauses_spares (Schema.nodup_names_of_schemaOf hs) hnames hclauses
  constructor
  · rintro (hreveals | ⟨e,he,hhides⟩)
    · exact Catalog.not_reveals hs hplain hreveals
    · obtain ⟨other,hother,ht,hsame⟩ := exists_of_forall₂ hothers he
      obtain ⟨hown,hjoined⟩ := hfields other hother
      rw [hsame] at hown hjoined
      rcases hhides with hhides | hhides
      · exact Catalog.not_hides hs hown hhides
      · exact Catalog.not_hides ht hjoined hhides
  · intro ps
    rw [← hparts] at hsql
    refine ⟨.join s parts filter outer,sql,ps,rfl,hsql,?_,Or.inl ?_,trivial,⟨hfilter,hspares⟩⟩
    · rw [Statement.schemas, hparts]
      exact hdeclared
    · rw [Statement.schemas, List.map_cons, Catalog.name_of_schemaOf hs, hparts, hothers.names]

theorem guarded_joinRows (first : Text) (joined : List (Text × JoinFields)) (predicate : Value)
    (outer : Bool) : Guarded (JoinReveals catalog first joined predicate) catalog
      (first :: joined.map (·.1)) session (joinRows first joined predicate outer) := by
  unfold Guarded joinRows
  refine (sends_schemaFor first).bind fun s hs later => ?_
  refine (sends_mapM (R := fun e other => catalog.schemaOf e.1 = .ok other.1 ∧ other.2 = e.2)
    fun e _ later => ?_).bind fun others hothers later => ?_
  · refine (sends_schemaFor e.1).bind fun t ht later => ?_
    exact sends_pure ⟨ht,rfl⟩
  have hothers : HasSchemas catalog joined others := hothers
  refine (sends_ofExcept .join _).bind fun clauses hclauses later => ?_
  refine (sends_optionalClause (Schema.nodup_names_of_schemaOf hs) true predicate).bind
    fun (text,ps) hclause later => ?_
  obtain ⟨filter,hfilter,hspares,hplain⟩ := hclause
  refine (sends_ofExcept .join _).bind fun sql hsql later => ?_
  rw [show text = filter.map (·.text) from hfilter] at hsql
  obtain ⟨hneeds,hallowed⟩ := allowed_join hs hothers hclauses hplain hspares hsql
  refine (sends_query fun ps => ⟨hneeds,hallowed ps⟩).bind fun rows _ later => ?_
  refine (sends_build _ outer rows).bind fun records _ later => ?_
  exact (sends_resolve (allowed_lookup hneeds) fun e he => hothers.schemaOf_of_present hs he).bind
    fun _ _ later => sends_pure hneeds

end SealedRows.Session
