import SealedRows.Proofs.Row.Recorded
import SealedRows.Proofs.Session.Made

/-! # Fields of new records

A record that is made of decoded values holds each of them in its field, and in every other field what the
declaration provides: its default, be it made anew, or null if there is none. One kind of field gets
nothing at all: a field without a default that takes no value when the record is made, if none is set
afterwards.
-/
namespace SealedRows

/-- With different keys, an entry that is made of an element is found by the key of that element. -/
theorem lookup_filterMap {α β γ : Type} [BEq γ] [LawfulBEq γ] {key : α → γ} {g : α → Option (γ × β)}
    (hg : ∀ a e, g a = some e → e.1 = key a) {l : List α} (hl : (l.map key).Nodup) {a : α} (ha : a ∈ l) :
    (l.filterMap g).lookup (key a) = (g a).map (·.2) := by
  cases hga : g a with
  | some e =>
    have hmem : e ∈ l.filterMap g := List.mem_filterMap.mpr ⟨a,ha,hga⟩
    refine lookup_eq_some_of_forall (List.mem_map.mpr ⟨e,hmem,hg a e hga⟩) fun d hd hname => ?_
    obtain ⟨b,hb,hgb⟩ := List.mem_filterMap.mp hd
    have hab : b = a := List.inj_on_of_nodup_map hl hb ha ((hg b d hgb).symm.trans hname)
    rw [hab, hga] at hgb
    rw [← Option.some.inj hgb]
  | none =>
    refine List.lookup_eq_none_iff.mpr fun d hd => ?_
    obtain ⟨b,hb,hgb⟩ := List.mem_filterMap.mp hd
    rw [bne_iff_ne]
    intro hname
    have hab : b = a := List.inj_on_of_nodup_map hl hb ha ((hg b d hgb).symm.trans hname.symm)
    rw [hab, hga] at hgb
    cases hgb

/-- Whether what a type shows under the name of a field is the default of the field. A default that is made anew
for each record hides whatever is shown. -/
structure Field.Agrees (f : Field) (shown : Option Value) : Prop where
  value : ∀ v, f.default = .value v → shown = some v
  required : f.default = .required → shown = none

namespace RecordType

/-- Whether the values that are seen through all records are the defaults of the fields. -/
def SharesDefaults (r : RecordType) : Prop := ∀ f ∈ r.fields, f.Agrees (r.shared? f.name)

/-- A field is one of those that are declared last, or it has the name of none of them. -/
theorem mem_foldl_withField {declared fields : List Field} {f : Field}
    (h : f ∈ declared.foldl withField fields) :
    f ∈ declared ∨ f ∈ fields ∧ ∀ d ∈ declared, d.name ≠ f.name := by
  induction declared generalizing fields with
  | nil => exact Or.inr ⟨h,fun _ hd => absurd hd List.not_mem_nil⟩
  | cons d rest ih =>
    rcases ih h with hf | ⟨hf,hrest⟩
    · exact Or.inl (List.mem_cons_of_mem d hf)
    · unfold withField at hf
      split at hf
      · obtain ⟨g,hg,rfl⟩ := List.mem_map.mp hf
        split
        · exact Or.inl List.mem_cons_self
        · next hname =>
          rw [if_neg hname] at hrest
          exact Or.inr ⟨hg,List.forall_mem_cons.mpr ⟨Ne.symm hname,hrest⟩⟩
      · next hnew =>
        rcases List.mem_append.mp hf with hf | hf
        · refine Or.inr ⟨hf,List.forall_mem_cons.mpr ⟨fun hname => hnew ?_,hrest⟩⟩
          exact List.any_eq_true.mpr ⟨f,hf,decide_eq_true hname.symm⟩
        · rw [List.mem_singleton.mp hf]
          exact Or.inl List.mem_cons_self

end RecordType

namespace Catalog
variable {base : Option RecordType} {d : TypeDeclaration}

theorem name_of_sharedBy {f : FieldDeclaration} {e : Text × Value} (h : sharedBy f = some e) :
    e.1 = f.name := by
  unfold sharedBy at h
  split at h
  · cases h
    rfl
  · cases h

/-- What is seen through records under a name is what the declaration of that name gives, or else what the type
that is extended shows. -/
theorem shared?_typeOf (name : Text) : (typeOf base d).shared? name =
    ((if d.isRecord then d.fields.filterMap sharedBy else []).lookup name).or
      (base.bind (·.shared? name)) := by
  refine List.lookup_append.trans ?_
  cases base <;> rfl

theorem lookup_sharedBy (hnames : (d.fields.map (·.name)).Nodup) {f : FieldDeclaration} (hf : f ∈ d.fields) :
    (d.fields.filterMap sharedBy).lookup f.name = (sharedBy f).map (·.2) :=
  lookup_filterMap (fun _ _ => name_of_sharedBy) hnames hf

theorem lookup_sharedBy_of_ne {name : Text} (hname : ∀ f ∈ d.fields, f.name ≠ name) :
    (d.fields.filterMap sharedBy).lookup name = none := by
  refine List.lookup_eq_none_iff.mpr fun e he => ?_
  obtain ⟨f,hf,hshared⟩ := List.mem_filterMap.mp he
  rw [bne_iff_ne, name_of_sharedBy hshared]
  exact (hname f hf).symm

theorem agrees_fieldOf (hnames : (d.fields.map (·.name)).Nodup) (hrecord : d.isRecord)
    {f : FieldDeclaration} (hf : f ∈ d.fields) :
    (fieldOf base f).Agrees ((typeOf base d).shared? f.name) := by
  rw [shared?_typeOf, if_pos hrecord, lookup_sharedBy hnames hf]
  cases hdefault : f.default with
  | required =>
    have hnone : sharedBy f = none := by rw [sharedBy, hdefault]
    cases hinherited : base.bind (·.shared? f.name) with
    | none =>
      have hfield : (fieldOf base f).default = .required := by simp [fieldOf, hdefault, hinherited]
      constructor <;> simp [hfield, hnone]
    | some w =>
      have hfield : (fieldOf base f).default = .value w := by simp [fieldOf, hdefault, hinherited]
      constructor <;> simp [hfield, hnone]
  | value w =>
    have hfield : (fieldOf base f).default = .value w := by simp [fieldOf, hdefault]
    constructor <;> simp [hfield, sharedBy, hdefault]
  | made w =>
    have hfield : (fieldOf base f).default = .made w := by simp [fieldOf, hdefault]
    constructor <;> simp [hfield]

/-- A field that isn't declared again shows what it showed, and one that is may take that over. -/
theorem typeOf_sharesDefaults (hnames : (d.fields.map (·.name)).Nodup)
    (h : ∀ r, base = some r → r.SharesDefaults) : (typeOf base d).SharesDefaults := by
  have hinherited : ∀ f ∈ (base.map (·.fields)).getD [], f.Agrees (base.bind (·.shared? f.name)) := by
    cases base with
    | none => exact List.forall_mem_nil _
    | some r => exact h r rfl
  intro f hf
  by_cases hrecord : d.isRecord
  · have hf : f ∈ (d.fields.map (fieldOf base)).foldl RecordType.withField
        ((base.map (·.fields)).getD []) := by
      rwa [typeOf, if_pos hrecord] at hf
    rcases RecordType.mem_foldl_withField hf with hf | ⟨hf,hothers⟩
    · obtain ⟨g,hg,rfl⟩ := List.mem_map.mp hf
      exact agrees_fieldOf hnames hrecord hg
    · have hnone : (d.fields.filterMap sharedBy).lookup f.name = none :=
        lookup_sharedBy_of_ne fun g hg => hothers _ (List.mem_map_of_mem hg)
      rw [shared?_typeOf, if_pos hrecord, hnone, Option.none_or]
      exact hinherited f hf
  · have hf : f ∈ (base.map (·.fields)).getD [] := by
      rwa [typeOf, if_neg hrecord] at hf
    rw [shared?_typeOf, if_neg hrecord, List.lookup_nil, Option.none_or]
    exact hinherited f hf

theorem sharesDefaults_of_mem {ds : List TypeDeclaration} {catalog : Catalog}
    (hcatalog : ofDeclarations ds = .ok catalog) (hnames : ∀ d ∈ ds, (d.fields.map (·.name)).Nodup)
    {r : RecordType} (hr : r ∈ catalog) : r.SharesDefaults :=
  forall_mem_of_declarations hcatalog (fun d hd _ _ hbase => typeOf_sharesDefaults (hnames d hd) hbase) r hr

end Catalog

/-! ## What is put into fields -/

/-- What a field of a new record is to hold: the value that is given for it, or else what the declaration
provides, or else null. -/
def Field.filling (f : Field) (values : List (Text × Value)) : Value :=
  match values.lookup f.name with
  | some v => v
  | none =>
    match f.default with
    | .required => .none
    | .value v => v
    | .made v => v

/-- Whether nothing is put into a field of a new record: it has no default and takes no value when the record is
made, and none is set afterwards. -/
structure Field.IsPassedOver (f : Field) (values : List (Text × Value)) : Prop where
  lookup : values.lookup f.name = none
  required : f.default = .required
  late : f.init = false

namespace Record
variable {type : RecordType} {values : List (Text × Value)} {given : List (Text × Content)} {r : Record}
  {field : Text} {f : Field}

/-! ### When the record is made -/

def givenFor (values : List (Text × Value)) (f : Field) : Option (Text × Content) :=
  if !f.init then none
  else
    match values.lookup f.name, f.default with
    | some v, _ => some (f.name,.value v)
    | none, .required => some (f.name,.value .none)
    | none, _ => none

theorem givenFor_eq_some {e : Text × Content} (h : givenFor values f = some e) : e.1 = f.name ∧ f.init := by
  unfold givenFor at h
  split at h
  · cases h
  · next hinit =>
    refine ⟨?_,by simpa using hinit⟩
    split at h <;> cases h <;> rfl

/-- A field that must be given is given, be it null. -/
theorem isSome_givenFor (values : List (Text × Value)) (hinit : f.init) (hrequired : f.default = .required) :
    (givenFor values f).isSome := by
  simp only [givenFor, hinit, hrequired]
  cases values.lookup f.name <;> rfl

/-- A record can be made of whatever values were decoded. -/
theorem exists_ofValues (type : RecordType) (values : List (Text × Value)) :
    ∃ r, ofValues type values = .ok r := by
  suffices h : ∃ made, make type (givenOf type values) = .ok made by
    obtain ⟨made,hmade⟩ := h
    exact ⟨_,ofValues_eq_ok.mpr ⟨made,hmade,rfl⟩⟩
  have hother : ¬(givenOf type values).any fun e => !type.fields.any fun f => f.name = e.1 && f.init := by
    rw [List.any_eq_true]
    rintro ⟨e,he,hother⟩
    obtain ⟨f,hf,hgiven⟩ := List.mem_filterMap.mp he
    obtain ⟨hname,hinit⟩ := givenFor_eq_some hgiven
    have hany : type.fields.any fun f => f.name = e.1 && f.init :=
      List.any_eq_true.mpr ⟨f,hf,by simp [hname, hinit]⟩
    rw [hany] at hother
    cases hother
  have hmissing : ∀ f ∈ type.fields, f.default = .required → f.init →
      ((givenOf type values).lookup f.name).isSome := by
    intro f hf hrequired hinit
    obtain ⟨e,he⟩ := Option.isSome_iff_exists.mp (isSome_givenFor values hinit hrequired)
    rw [List.lookup_isSome_iff]
    exact ⟨e,List.mem_filterMap.mpr ⟨f,hf,he⟩,by rw [(givenFor_eq_some he).1, beq_self_eq_true]⟩
  refine ⟨_,guard_eq_ok.mpr ⟨hother,guard_eq_ok.mpr ⟨?_,rfl⟩⟩⟩
  rw [List.any_eq_true]
  rintro ⟨f,hf,h⟩
  split at h
  · next hrequired =>
    obtain ⟨hinit,hnone⟩ := Bool.and_eq_true_iff.mp h
    have hsome := hmissing f hf hrequired hinit
    rw [Option.isNone_iff_eq_none] at hnone
    rw [hnone] at hsome
    cases hsome
  · cases h

def entryOf (given : List (Text × Content)) (f : Field) : Option (Text × Content) :=
  match given.lookup f.name with
  | some content => some (f.name,content)
  | none => initial f

theorem name_of_entryOf {e : Text × Content} (h : entryOf given f = some e) : e.1 = f.name := by
  unfold entryOf at h
  split at h
  · cases h
    rfl
  · obtain ⟨v,rfl⟩ := value_of_initial h
    rfl

theorem contents_of_make (h : make type given = .ok r) :
    r.contents = type.fields.filterMap (entryOf given) := by
  unfold make at h
  dsimp only at h
  obtain ⟨-,h⟩ := guard_eq_ok.mp h
  obtain ⟨-,h⟩ := guard_eq_ok.mp h
  cases h
  rfl

theorem lookup_contents_of_make (htype : type.HasDistinctFields) (hf : f ∈ type.fields)
    (h : make type (givenOf type values) = .ok r) : r.contents.lookup f.name =
      (((givenFor values f).map (·.2)).or ((initial f).map (·.2))) := by
  have hgiven : (givenOf type values).lookup f.name = (givenFor values f).map (·.2) :=
    lookup_filterMap (fun _ _ he => (givenFor_eq_some he).1) htype hf
  have hentry : (type.fields.filterMap (entryOf (givenOf type values))).lookup f.name =
      (entryOf (givenOf type values) f).map (·.2) :=
    lookup_filterMap (fun _ _ => name_of_entryOf) htype hf
  rw [contents_of_make h, hentry, entryOf, hgiven]
  cases givenFor values f <;> rfl

/-! ### Afterwards -/

theorem lookup_foldl_withField_of_ne {late : List (Text × Value)} (h : ∀ e ∈ late, e.1 ≠ field) :
    (late.foldl (fun r e => r.withField e.1 (.value e.2)) r).contents.lookup field =
      r.contents.lookup field := by
  induction late generalizing r with
  | nil => rfl
  | cons e late ih =>
    obtain ⟨he,hlate⟩ := List.forall_mem_cons.mp h
    have hne : (field == e.1) = false := beq_eq_false_iff_ne.mpr he.symm
    rw [List.foldl_cons, ih hlate, withField, List.lookup_cons, hne]
    exact lookup_filter_ne _ he.symm

/-- What a new record holds itself in a field for which there is no value. -/
theorem lookup_contents_of_ofValues (htype : type.HasDistinctFields) (hf : f ∈ type.fields)
    (hnone : values.lookup f.name = none) (h : ofValues type values = .ok r) :
    r.contents.lookup f.name =
      (((givenFor values f).map (·.2)).or ((initial f).map (·.2))) := by
  obtain ⟨made,hmade,rfl⟩ := ofValues_eq_ok.mp h
  rw [lookup_foldl_withField_of_ne, lookup_contents_of_make htype hf hmade]
  rintro e he hname
  obtain ⟨g,_,hg⟩ := List.mem_filterMap.mp he
  split at hg
  · cases hg
  · obtain ⟨v,hv,rfl⟩ := Option.map_eq_some_iff.mp hg
    rw [show g.name = f.name from hname, hnone] at hv
    cases hv

/-! ### In the end -/

theorem content?_of_lookup {content : Content} (h : r.contents.lookup field = some content) :
    r.content? field = some content := by
  rw [content?, h]

theorem content?_of_lookup_none (h : r.contents.lookup field = none) :
    r.content? field = (r.type.shared? field).map .value := by
  rw [content?, h]

/-- Without a value, a field with a default is not given. -/
theorem givenFor_eq_none (hnone : values.lookup f.name = none) (hdefault : f.default ≠ .required) :
    givenFor values f = none := by
  rw [givenFor, hnone]
  cases hd : f.default with
  | required => exact absurd hd hdefault
  | value v => exact ite_self none
  | made v => exact ite_self none

/-- A value that is made anew belongs to the record that holds it. -/
theorem lookup_contents_of_made (htype : type.HasDistinctFields) (hf : f ∈ type.fields)
    (hnone : values.lookup f.name = none) {v : Value} (hdefault : f.default = .made v)
    (h : ofValues type values = .ok r) : r.contents.lookup f.name = some (.value v) := by
  have hgiven : givenFor values f = none := givenFor_eq_none hnone (by simp [hdefault])
  rw [lookup_contents_of_ofValues htype hf hnone h, hgiven, initial, hdefault]
  rfl

/-- What a field without a value shows in a new record is its default or null, if it has or is given one. -/
theorem content?_of_no_value (htype : type.HasDistinctFields) (hshares : type.SharesDefaults)
    (hf : f ∈ type.fields) (hnone : values.lookup f.name = none) (h : ofValues type values = .ok r) :
    (f.IsPassedOver values ∧ r.content? f.name = none) ∨
      ¬f.IsPassedOver values ∧ r.content? f.name = some (.value (f.filling values)) := by
  have hcontents := lookup_contents_of_ofValues htype hf hnone h
  have hr := type_of_ofValues h
  cases hdefault : f.default with
  | required =>
    cases hinit : f.init with
    | true =>
      refine Or.inr ⟨fun hpassed => by simp [hpassed.late] at hinit,content?_of_lookup ?_⟩
      rw [hcontents, Field.filling, hnone, hdefault, givenFor, hinit, hnone, hdefault]
      rfl
    | false =>
      have hnothing : r.contents.lookup f.name = none := by
        rw [hcontents, givenFor, hinit, initial, hdefault]
        rfl
      refine Or.inl ⟨⟨hnone,hdefault,hinit⟩,?_⟩
      rw [content?_of_lookup_none hnothing, hr, (hshares f hf).required hdefault, Option.map_none]
  | value v =>
    refine Or.inr ⟨fun hpassed => (by cases hdefault.symm.trans hpassed.required),?_⟩
    have hfilling : f.filling values = v := by rw [Field.filling, hnone, hdefault]
    rw [givenFor_eq_none hnone (by simp [hdefault]), Option.map_none, Option.none_or, initial,
      hdefault] at hcontents
    rw [hfilling]
    cases hinit : f.init with
    | true =>
      rw [hinit] at hcontents
      exact content?_of_lookup hcontents
    | false =>
      -- The record holds nothing itself, and the value of its type is seen through it.
      rw [hinit] at hcontents
      rw [content?_of_lookup_none hcontents, hr, (hshares f hf).value v hdefault, Option.map_some]
  | made v =>
    refine Or.inr ⟨fun hpassed => (by cases hdefault.symm.trans hpassed.required),?_⟩
    rw [content?_of_lookup (lookup_contents_of_made htype hf hnone hdefault h), Field.filling, hnone,
      hdefault]

/-- A new record can be made of any values, and every field of it holds its value, its default or null, unless
it is passed over. A default that is made anew is the record's own. -/
theorem ofValues_fills {ds : List TypeDeclaration} {catalog : Catalog}
    (hcatalog : Catalog.ofDeclarations ds = .ok catalog)
    (hnames : ∀ d ∈ ds, (d.fields.map (·.name)).Nodup) (htype : type ∈ catalog)
    (values : List (Text × Value)) : ∃ r, ofValues type values = .ok r ∧ r.type = type ∧
      ∀ f ∈ type.fields,
        (¬f.IsPassedOver values → r.content? f.name = some (.value (f.filling values))) ∧
        (f.IsPassedOver values → r.content? f.name = none) ∧
        (∀ v, f.default = .made v → values.lookup f.name = none →
          r.contents.lookup f.name = some (.value v)) := by
  have hdistinct := Catalog.hasDistinctFields_of_mem hcatalog htype
  have hshares := Catalog.sharesDefaults_of_mem hcatalog hnames htype
  obtain ⟨r,hr⟩ := exists_ofValues type values
  refine ⟨r,hr,type_of_ofValues hr,fun f hf => ⟨fun hpassed => ?_,fun hpassed => ?_,fun _ hdefault hnone =>
    lookup_contents_of_made hdistinct hf hnone hdefault hr⟩⟩
  · cases hv : values.lookup f.name with
    | some v =>
      rw [content?_of_ofValues hr hv (List.mem_map_of_mem hf), Field.filling, hv]
    | none =>
      rcases content?_of_no_value hdistinct hshares hf hv hr with ⟨h,-⟩ | ⟨-,h⟩
      · exact absurd h hpassed
      · exact h
  · rcases content?_of_no_value hdistinct hshares hf hpassed.lookup hr with ⟨-,h⟩ | ⟨h,-⟩
    · exact h
    · exact absurd hpassed h

end Record
end SealedRows

namespace SealedRows.Ticket

/-- A type of tickets with fields of all sorts, of which only the key is read from a row. -/
def declaration : TypeDeclaration :=
  ⟨"Ticket",some "tickets",none,true,
    [⟨"id","int",some { ColumnOptions.plain with primaryKey := true },.required,true⟩,
      ⟨"owner","str",none,.required,true⟩,
      ⟨"open","bool",none,.value (.bool true),false⟩,
      ⟨"tags","list",none,.emptyList,false⟩,
      ⟨"priority","int",none,.required,false⟩]⟩

def type : RecordType := Catalog.typeOf none declaration

theorem ofDeclarations_eq : Catalog.ofDeclarations [declaration] = .ok [type] := rfl

/-- A select of the key alone makes a full record, but for the field that nothing is put into. -/
theorem fills_key : ∃ r, Record.ofValues type [("id",.int 7)] = .ok r ∧
    r.content? "id" = some (.value (.int 7)) ∧ r.content? "owner" = some (.value .none) ∧
    r.content? "open" = some (.value (.bool true)) ∧ r.content? "priority" = none ∧
    r.contents.lookup (Text.ofString "tags") = some (.value (.list [])) := by
  obtain ⟨r,hr,-,hfields⟩ := Record.ofValues_fills ofDeclarations_eq (by decide)
    (List.mem_singleton.mpr rfl) [("id",.int 7)]
  have hid := hfields type.fields[0] (List.getElem_mem _)
  have howner := hfields type.fields[1] (List.getElem_mem _)
  have hopen := hfields type.fields[2] (List.getElem_mem _)
  have htags := hfields type.fields[3] (List.getElem_mem _)
  have hpriority := hfields type.fields[4] (List.getElem_mem _)
  exact ⟨r,hr,hid.1 fun h => absurd h.lookup nofun,howner.1 fun h => absurd h.late nofun,
    hopen.1 fun h => absurd h.required nofun,hpriority.2.1 ⟨rfl,rfl,rfl⟩,htags.2.2 _ rfl rfl⟩

/-- Not every field of a new record holds something. -/
theorem not_fills : ¬∀ (ds : List TypeDeclaration) (catalog : Catalog) (type : RecordType)
    (values : List (Text × Value)), Catalog.ofDeclarations ds = .ok catalog →
      (∀ d ∈ ds, (d.fields.map (·.name)).Nodup) → type ∈ catalog →
      ∃ r, Record.ofValues type values = .ok r ∧
        ∀ f ∈ type.fields, r.content? f.name = some (.value (f.filling values)) := by
  intro h
  obtain ⟨r,hr,hfields⟩ := h [declaration] [type] type [("id",.int 7)] ofDeclarations_eq (by decide)
    (List.mem_singleton.mpr rfl)
  cases hr
  have hpriority := hfields type.fields[4] (List.getElem_mem _)
  cases hpriority

end SealedRows.Ticket
