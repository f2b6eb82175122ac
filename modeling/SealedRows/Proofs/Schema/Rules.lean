import SealedRows.Proofs.Outcome
import SealedRows.Schema.Build

/-! # Rules for fields

What a field must be like to make a column, and to refer to another type. Each check lets through
exactly the fields that keep its rule. All that is refused is an error of the record type, but where the
types of another record type are looked at, these may stand for nothing at all.
-/
namespace SealedRows

theorem ValueKind.canBeReferred_iff {kind : ValueKind} :
    kind.canBeReferred ↔ ∃ l, kind = .integer l ∧ l.width ≠ .eight := by
  cases kind with
  | integer l =>
    rcases l with ⟨signed,width⟩
    cases width <;> simp [canBeReferred, isInteger, isBlobStored]
  | _ => simp [canBeReferred, isInteger]

theorem ValueKind.canRefer_iff {kind : ValueKind} :
    kind.canRefer ↔ ∃ l, kind = .integer l ∧ (l.width = .two ∨ l.width = .four) := by
  cases kind with
  | integer l =>
    rcases l with ⟨signed,width⟩
    cases width <;> simp [canRefer]
  | _ => simp [canRefer]

/-- Up to `None`, a type is a declared one exactly if no other is among its members. -/
theorem Hint.unwrapped_eq_record_iff {h : Hint} {name : Text} :
    h.unwrapped.1 = .one (.record name) ↔ h.members.filter (· ≠ .none) = [.record name] := by
  cases h with
  | one t =>
    simp only [unwrapped, members, Hint.one.injEq]
    by_cases ht : t = .none
    · subst ht
      simp
    · rw [List.filter_cons_of_pos (by simpa using ht), List.filter_nil, List.cons.injEq,
        and_iff_left rfl]
  | union style ts =>
    simp only [unwrapped, members]
    split
    · next t ht => rw [ht, Hint.one.injEq, List.cons.injEq, and_iff_left rfl]
    · next hnot => exact iff_of_false nofun (hnot _)

namespace Schema

def keyField? (r : RecordType) : Option Field :=
  r.fields.find? fun f => f.options.primaryKey && !f.options.ignored

/-- The kind of a field that is declared with it, or is found from the types of its record type. -/
inductive HasKind (catalog : Catalog) (r : RecordType) (f : Field) (kind : ValueKind) : Prop where
  | declared (h : f.options.kind = some kind)
  | written (h : f.options.kind = none) {hints : List (Text × Hint)} (hhints : catalog.hints r = .ok hints)
      (hkind : kindOf? hints f = some kind)

structure AllowsOptions (f : Field) (kind : ValueKind) : Prop where
  name_ne_salt : storageName f ≠ saltColumnName
  encrypted : f.options.encrypted →
    f.options.primaryKey = false ∧ f.options.autoIncrement = false ∧ f.options.defaultValue = .none
  autoIncrement : f.options.autoIncrement →
    f.options.primaryKey ∧ ∃ l, kind = .integer l ∧ l.width ≠ .eight

structure AllowsReference (f : Field) : Prop where
  primaryKey : f.options.primaryKey = false
  encrypted : f.options.encrypted = false
  autoIncrement : f.options.autoIncrement = false
  defaultValue : f.options.defaultValue = .none

/-- Whether a field of a name is there and holds records of a declared type with a table, or nothing. -/
structure LeadsTo (catalog : Catalog) (hints : List (Text × Hint)) (navigation : Text)
    (referenced : RecordType) : Prop where
  navigation_ne : navigation ≠ []
  hint : ∃ hint, Catalog.hintOf? hints navigation = some hint ∧
    hint.members.filter (· ≠ .none) = [.record referenced.name]
  declared : catalog.find? referenced.name = some referenced
  isRecord : referenced.isRecord
  table : referenced.table.isSome

def HasIntegerKey (catalog : Catalog) (r : RecordType) (key : Field) : Prop :=
  keyField? r = some key ∧ ∃ l, HasKind catalog r key (.integer l) ∧ l.width ≠ .eight

def referenceTo (f : Field) (option : ForeignKeyOption) (referenced : RecordType) (key : Field) :
    ForeignKey where
  referencedTable := referenced.tableName
  referencedType := referenced.name
  referencedColumn := storageName key
  fieldName := f.name
  columnName := storageName f
  navigationField := option.navigation
  autoResolve := option.autoResolve

/-- The reference of a column, if its field declares one and may refer. -/
inductive Declares (catalog : Catalog) (hints : List (Text × Hint)) (f : Field) (kind : ValueKind) :
    Option ForeignKey → Prop where
  | none (h : f.options.foreignKey = none) : Declares catalog hints f kind none
  | reference {option : ForeignKeyOption} (h : f.options.foreignKey = some option)
      (hallows : AllowsReference f)
      (hkind : ∃ l, kind = .integer l ∧ (l.width = .two ∨ l.width = .four)) {referenced : RecordType}
      {key : Field} (hleads : LeadsTo catalog hints option.navigation referenced)
      (hkey : HasIntegerKey catalog referenced key) :
      Declares catalog hints f kind (some (referenceTo f option referenced key))

def isStored (hints : List (Text × Hint)) (f : Field) : Bool :=
  !f.options.ignored && (kindOf? hints f).isSome

def columnAt (hints : List (Text × Hint)) (ordinal : Int) (f : Field) (kind : ValueKind)
    (reference : Option ForeignKey) : Column where
  name := storageName f
  fieldName := f.name
  kind := kind
  ordinal := ordinal
  nullable := ((Catalog.hintOf? hints f.name).map fun hint => hint.unwrapped.2).getD false
  isPrimaryKey := f.options.primaryKey
  isAutoIncrement := f.options.autoIncrement
  isEncrypted := f.options.encrypted
  isNotNull := f.options.isNotNull
  defaultValue := f.options.defaultValue
  foreignKey := reference

/-- Whether a column is the one of a field, wherever it stands. -/
def IsColumnFor (catalog : Catalog) (hints : List (Text × Hint)) (f : Field) (c : Column) : Prop :=
  ∃ kind reference, kindOf? hints f = some kind ∧ AllowsOptions f kind ∧
    Declares catalog hints f kind reference ∧ c = columnAt hints c.ordinal f kind reference

structure KeepsRules (catalog : Catalog) (hints : List (Text × Hint)) (f : Field) : Prop where
  unstored : kindOf? hints f = none →
    f.options.foreignKey = none ∧ f.options.primaryKey = false ∧ f.options.encrypted = false
  stored : ∀ kind, kindOf? hints f = some kind →
    AllowsOptions f kind ∧ ∃ reference, Declares catalog hints f kind reference

/-- Whether a field leads to a type whose types stand for nothing. -/
def LeadsAstray (catalog : Catalog) (hints : List (Text × Hint)) (f : Field) : Prop :=
  f.options.ignored = false ∧ ∃ option referenced, f.options.foreignKey = some option ∧
    LeadsTo catalog hints option.navigation referenced ∧ catalog.hints referenced = .error .noType

variable {catalog : Catalog} {r : RecordType} {hints : List (Text × Hint)} {f : Field}
  {kind : ValueKind} {fault : SchemaFault}

/-- Whether all errors of a step are errors of the record type, unless something stands for nothing. -/
def Blames {α : Type} (astray : Prop) (x : Except SchemaFault α) : Prop :=
  ∀ fault, x = .error fault → fault.isSchemaError ∨ fault = .general .wrongType ∧ astray

section
variable {α β : Type} {astray : Prop}

theorem blames_ok (a : α) : Blames astray (.ok a) := nofun

theorem blames_error (h : fault.isSchemaError) : Blames astray (.error fault : Except SchemaFault α) := by
  rintro _ ⟨⟩
  exact Or.inl h

theorem blames_guard {p : Prop} [Decidable p] {x : Except SchemaFault α} (hfault : fault.isSchemaError)
    (h : ¬p → Blames astray x) : Blames astray (if p then .error fault else x) := by
  split
  · exact blames_error hfault
  · next hp => exact h hp

theorem Blames.bind {x : Except SchemaFault α} {g : α → Except SchemaFault β} (hx : Blames astray x)
    (hg : ∀ a, x = .ok a → Blames astray (g a)) : Blames astray (x >>= g) := by
  cases x with
  | ok a => exact hg a rfl
  | error fault =>
    rintro _ ⟨⟩
    exact hx fault rfl

theorem Blames.mono {x : Except SchemaFault α} (h : Blames astray x) {other : Prop}
    (hother : astray → other) : Blames other x :=
  fun fault hx => (h fault hx).imp_right fun hastray => ⟨hastray.1,hother hastray.2⟩

end

theorem checkOptions_iff {table : Text} : checkOptions table f kind = .ok () ↔ AllowsOptions f kind := by
  simp only [checkOptions, guard_eq_ok, Bool.and_eq_true, not_and, and_true, Bool.not_eq_true',
    Bool.not_eq_false, Bool.not_eq_true, Value.isNone_iff, ValueKind.canBeReferred_iff]
  constructor
  · rintro ⟨hsalt,hprimary,hauto,hdefault,hkey⟩
    exact ⟨hsalt,fun hencrypted => ⟨hprimary hencrypted,hauto hencrypted,hdefault hencrypted⟩,hkey⟩
  · intro h
    exact ⟨h.name_ne_salt,fun hencrypted => (h.encrypted hencrypted).1,
      fun hencrypted => (h.encrypted hencrypted).2.1,fun hencrypted => (h.encrypted hencrypted).2.2,
      h.autoIncrement⟩

theorem checkForeign_iff {table : Text} : checkForeign table f = .ok () ↔ AllowsReference f := by
  simp only [checkForeign, guard_eq_ok, Bool.not_eq_true, Bool.not_eq_false, Bool.not_eq_eq_eq_not,
    Bool.not_true, Value.isNone_iff, and_true]
  constructor
  · rintro ⟨hprimary,hencrypted,hauto,hdefault⟩
    exact ⟨hprimary,hencrypted,hauto,hdefault⟩
  · rintro ⟨hprimary,hencrypted,hauto,hdefault⟩
    exact ⟨hprimary,hencrypted,hauto,hdefault⟩

theorem hintsOf_eq_ok : hintsOf catalog r = .ok hints ↔ catalog.hints r = .ok hints := by
  unfold hintsOf
  split
  · next hhints => rw [hhints, Except.ok.injEq, Except.ok.injEq]
  · next hhints => exact iff_of_false nofun (by rw [hhints]; nofun)
  · next hhints => exact iff_of_false nofun (by rw [hhints]; nofun)

theorem primaryKeyOf_eq_some_iff {column : Text} :
    primaryKeyOf catalog r = .ok (some (column,some kind)) ↔
      ∃ key, keyField? r = some key ∧ column = storageName key ∧ HasKind catalog r key kind := by
  unfold primaryKeyOf
  rw [← keyField?]
  split
  · next hkey => exact iff_of_false nofun fun ⟨_,h,_⟩ => by cases hkey.symm.trans h
  · next key hkey =>
    rw [hkey]
    simp only [Option.some.injEq, exists_eq_left']
    split
    · next declared hdeclared =>
      constructor
      · rintro ⟨⟩
        exact ⟨rfl,.declared hdeclared⟩
      · rintro ⟨rfl,hkind | ⟨hnone,_,_⟩⟩
        · cases hdeclared.symm.trans hkind
          rfl
        · cases hdeclared.symm.trans hnone
    · next hnone =>
      constructor
      · intro h
        obtain ⟨hints,hhints,h⟩ := bind_eq_ok.mp h
        injection h with h
        injection h with h
        injection h with hcolumn hkind
        exact ⟨hcolumn.symm,.written hnone (hintsOf_eq_ok.mp hhints) hkind⟩
      · rintro ⟨rfl,hkind | ⟨_,hhints,hkind⟩⟩
        · cases hnone.symm.trans hkind
        · exact bind_eq_ok.mpr ⟨_,hintsOf_eq_ok.mpr hhints,by rw [hkind]; rfl⟩

def referenced? (catalog : Catalog) (hints : List (Text × Hint)) (navigation : Text) : Option RecordType :=
  if navigation.isEmpty then none
  else
    match (Catalog.hintOf? hints navigation).map (·.unwrapped.1) with
    | some (Hint.one (.record name)) => (catalog.find? name).filter (·.isMapped)
    | _ => none

theorem referenced?_eq_some_iff {navigation : Text} {referenced : RecordType} :
    referenced? catalog hints navigation = some referenced ↔ LeadsTo catalog hints navigation referenced := by
  unfold referenced?
  constructor
  · intro h
    split at h
    · cases h
    · next hnavigation =>
      split at h
      · next name hname =>
        obtain ⟨hfind,hmapped⟩ := Option.filter_eq_some_iff.mp h
        obtain ⟨hint,hhint,hunwrapped⟩ := Option.map_eq_some_iff.mp hname
        have hdeclared : referenced.name = name := by simpa using List.find?_some hfind
        subst hdeclared
        rw [RecordType.isMapped, Bool.and_eq_true] at hmapped
        exact ⟨by simpa using hnavigation,⟨hint,hhint,Hint.unwrapped_eq_record_iff.mp hunwrapped⟩,hfind,
          hmapped.1,hmapped.2⟩
      · cases h
  · rintro ⟨hnavigation,⟨hint,hhint,hmembers⟩,hfind,hrecord,htable⟩
    rw [if_neg (by simpa using hnavigation), hhint, Option.map_some,
      Hint.unwrapped_eq_record_iff.mpr hmembers]
    exact Option.filter_eq_some_iff.mpr ⟨hfind,by rw [RecordType.isMapped, hrecord, htable]; rfl⟩

def referenceBy (r : RecordType) (f : Field) (option : ForeignKeyOption) (referenced : RecordType) :
    Option (Text × Option ValueKind) → Except SchemaFault ForeignKey
  | none => .error (.referencedWithoutKey referenced.tableName)
  | some (column,kind) =>
    if !kind.any (·.canBeReferred) then
      .error (.referencedKeyKind f.name r.tableName column referenced.tableName)
    else
      .ok ⟨referenced.tableName,referenced.name,column,f.name,storageName f,option.navigation,
        option.autoResolve⟩

section
variable {option : ForeignKeyOption} {referenced : RecordType} {k : ForeignKey}

theorem blames_referenceBy {key : Option (Text × Option ValueKind)} {astray : Prop} :
    Blames astray (referenceBy r f option referenced key) := by
  cases key with
  | none => exact blames_error rfl
  | some key => exact blames_guard rfl fun _ => blames_ok _

/-- A type is referred to by its key exactly if this holds integers of at most 32 bits. -/
theorem bind_referenceBy_eq_ok_iff :
    (primaryKeyOf catalog referenced >>= referenceBy r f option referenced) = .ok k ↔
      ∃ key, HasIntegerKey catalog referenced key ∧ k = referenceTo f option referenced key := by
  rw [bind_eq_ok]
  constructor
  · rintro ⟨found,hfound,h⟩
    cases found with
    | none => cases h
    | some found =>
      obtain ⟨column,keyKind⟩ := found
      obtain ⟨hkind,h⟩ := guard_eq_ok.mp h
      cases h
      cases keyKind with
      | none => exact absurd rfl hkind
      | some keyKind =>
        obtain ⟨key,hkey,rfl,hhas⟩ := primaryKeyOf_eq_some_iff.mp hfound
        obtain ⟨l,rfl,hl⟩ := ValueKind.canBeReferred_iff.mp (by simpa using hkind)
        exact ⟨key,⟨hkey,l,hhas,hl⟩,rfl⟩
  · rintro ⟨key,⟨hkey,l,hhas,hl⟩,rfl⟩
    have hreferred := ValueKind.canBeReferred_iff.mpr ⟨l,rfl,hl⟩
    refine ⟨_,primaryKeyOf_eq_some_iff.mpr ⟨key,hkey,rfl,hhas⟩,guard_eq_ok.mpr ⟨?_,rfl⟩⟩
    rw [Option.any_some, hreferred]
    nofun

/-- A reference is made in three steps: its column may refer, its field leads to a type, and this has a
primary key that may be referred to. -/
theorem foreignKeyOf_eq : ∃ fault : SchemaFault, fault.isSchemaError ∧
    foreignKeyOf catalog r hints f kind option =
      if !kind.canRefer then .error (.foreignKind (storageName f) r.tableName kind)
      else
        match referenced? catalog hints option.navigation with
        | none => .error fault
        | some referenced => primaryKeyOf catalog referenced >>= referenceBy r f option referenced := by
  -- The fault depends on the step that fails, so it is chosen in each case.
  unfold foreignKeyOf referenced?
  cases option.navigation.isEmpty with
  | true => exact ⟨_,rfl,rfl⟩
  | false =>
    cases Catalog.hintOf? hints option.navigation with
    | none => exact ⟨_,rfl,rfl⟩
    | some hint =>
      simp only [Option.map_some]
      cases hint.unwrapped.1 with
      | union style ts => exact ⟨_,rfl,rfl⟩
      | one t =>
        cases t with
        | record name =>
          simp only
          cases catalog.find? name with
          | none => exact ⟨_,rfl,rfl⟩
          | some referenced =>
            simp only [Option.filter_some]
            cases referenced.isMapped with
            | false => exact ⟨_,rfl,rfl⟩
            | true => exact ⟨.navigationNotRecord option.navigation r.tableName,rfl,rfl⟩
        | _ => exact ⟨_,rfl,rfl⟩

/-- A reference is made exactly if its column may refer and leads to a type with an integer key. -/
theorem foreignKeyOf_eq_ok_iff : foreignKeyOf catalog r hints f kind option = .ok k ↔
    (∃ l, kind = .integer l ∧ (l.width = .two ∨ l.width = .four)) ∧ ∃ referenced key,
      LeadsTo catalog hints option.navigation referenced ∧ HasIntegerKey catalog referenced key ∧
        k = referenceTo f option referenced key := by
  obtain ⟨fault,_,heq⟩ := @foreignKeyOf_eq catalog r hints f kind option
  rw [heq, guard_eq_ok, ← ValueKind.canRefer_iff]
  refine and_congr (by simp) ?_
  simp only [← referenced?_eq_some_iff]
  cases referenced? catalog hints option.navigation with
  | none => exact iff_of_false nofun (by rintro ⟨_,_,⟨⟩,_⟩)
  | some referenced =>
    simp only [Option.some.injEq, exists_and_left, exists_eq_left']
    exact bind_referenceBy_eq_ok_iff

end

def referenceOf (catalog : Catalog) (r : RecordType) (hints : List (Text × Hint)) (f : Field)
    (kind : ValueKind) : Except SchemaFault (Option ForeignKey) :=
  match f.options.foreignKey with
  | none => pure none
  | some option => do
    checkForeign r.tableName f
    some <$> foreignKeyOf catalog r hints f kind option

theorem referenceOf_eq_ok_iff {reference : Option ForeignKey} :
    referenceOf catalog r hints f kind = .ok reference ↔ Declares catalog hints f kind reference := by
  unfold referenceOf
  split
  · next hnone =>
    constructor
    · rintro ⟨⟩
      exact .none hnone
    · rintro (_ | ⟨hsome,_⟩)
      · rfl
      · cases hnone.symm.trans hsome
  · next option hoption =>
    constructor
    · intro h
      obtain ⟨_,hcheck,h⟩ := bind_eq_ok.mp h
      obtain ⟨k,hk,rfl⟩ := map_eq_ok.mp h
      obtain ⟨hkind,referenced,key,hleads,hkey,rfl⟩ := foreignKeyOf_eq_ok_iff.mp hk
      exact .reference hoption (checkForeign_iff.mp hcheck) hkind hleads hkey
    · rintro (hnone | ⟨hoption',hallows,hkind,hleads,hkey⟩)
      · cases hoption.symm.trans hnone
      · cases hoption.symm.trans hoption'
        refine bind_eq_ok.mpr ⟨(),checkForeign_iff.mpr hallows,map_eq_ok.mpr ⟨_,?_,rfl⟩⟩
        exact foreignKeyOf_eq_ok_iff.mpr ⟨hkind,_,_,hleads,hkey,rfl⟩

variable {ordinal : Nat}

theorem columnOf_of_ignored (h : f.options.ignored) : columnOf catalog r hints ordinal f = .ok none := by
  unfold columnOf
  rw [if_pos h]
  rfl

theorem columnOf_of_no_kind (h : f.options.ignored = false) (hkind : kindOf? hints f = none) :
    ∃ fault : SchemaFault, fault.isSchemaError ∧ columnOf catalog r hints ordinal f =
      if f.options.foreignKey.isSome || f.options.primaryKey || f.options.encrypted then .error fault
      else .ok none := by
  unfold columnOf
  simp only [h, hkind]
  exact ⟨_,rfl,rfl⟩

theorem columnOf_of_kind (h : f.options.ignored = false) (hkind : kindOf? hints f = some kind) :
    columnOf catalog r hints ordinal f = (checkOptions r.tableName f kind >>= fun _ =>
      referenceOf catalog r hints f kind >>= fun reference =>
        pure (some (columnAt hints ordinal f kind reference))) := by
  unfold columnOf referenceOf columnAt
  simp only [h, hkind, Option.map_map]
  cases f.options.foreignKey with
  | none => rfl
  | some option =>
    simp only [bind_assoc]
    rfl

/-- A field makes no column if it is ignored, or if it has no kind and asks for none. -/
theorem columnOf_eq_none_iff : columnOf catalog r hints ordinal f = .ok none ↔
    f.options.ignored ∨ (kindOf? hints f = none ∧ f.options.foreignKey = none ∧
      f.options.primaryKey = false ∧ f.options.encrypted = false) := by
  cases hignored : f.options.ignored with
  | true => exact iff_of_true (columnOf_of_ignored hignored) (Or.inl rfl)
  | false =>
    cases hkind : kindOf? hints f with
    | none =>
      obtain ⟨fault,_,hcolumn⟩ := columnOf_of_no_kind hignored hkind
      rw [hcolumn, guard_eq_ok]
      simp only [Bool.or_eq_true, not_or, Bool.not_eq_true, Option.isSome_eq_false_iff, Option.isNone_iff_eq_none,
        Bool.false_eq_true, false_or, true_and, and_true, and_assoc]
    | some kind =>
      refine iff_of_false (fun h => ?_) (by rintro (h | ⟨h,_⟩) <;> cases h)
      rw [columnOf_of_kind hignored hkind] at h
      obtain ⟨_,_,h⟩ := bind_eq_ok.mp h
      obtain ⟨_,_,h⟩ := bind_eq_ok.mp h
      cases h

/-- A field makes a column exactly if it keeps all rules for one. -/
theorem columnOf_eq_some_iff {c : Column} : columnOf catalog r hints ordinal f = .ok (some c) ↔
    f.options.ignored = false ∧ c.ordinal = ordinal ∧ IsColumnFor catalog hints f c := by
  cases hignored : f.options.ignored with
  | true =>
    rw [columnOf_of_ignored hignored]
    exact iff_of_false nofun fun h => nomatch h.1
  | false =>
    cases hkind : kindOf? hints f with
    | none =>
      obtain ⟨fault,_,hcolumn⟩ := columnOf_of_no_kind hignored hkind
      rw [hcolumn, guard_eq_ok]
      refine iff_of_false (fun h => nomatch h.2) ?_
      rintro ⟨_,_,kind,_,hsome,_⟩
      cases hkind.symm.trans hsome
    | some kind =>
      rw [columnOf_of_kind hignored hkind]
      constructor
      · intro h
        obtain ⟨_,hoptions,h⟩ := bind_eq_ok.mp h
        obtain ⟨reference,hreference,h⟩ := bind_eq_ok.mp h
        cases h
        exact ⟨rfl,rfl,kind,reference,hkind,checkOptions_iff.mp hoptions,
          referenceOf_eq_ok_iff.mp hreference,rfl⟩
      · rintro ⟨_,hordinal,kind',reference,hkind',hoptions,hreference,hc⟩
        cases hkind.symm.trans hkind'
        refine bind_eq_ok.mpr ⟨(),checkOptions_iff.mpr hoptions,
          bind_eq_ok.mpr ⟨reference,referenceOf_eq_ok_iff.mpr hreference,?_⟩⟩
        rw [hc, hordinal]
        rfl

theorem isStored_of_eq_none (h : columnOf catalog r hints ordinal f = .ok none) :
    isStored hints f = false := by
  rw [isStored]
  rcases columnOf_eq_none_iff.mp h with hignored | ⟨hkind,_⟩
  · rw [hignored, Bool.not_true, Bool.false_and]
  · rw [hkind, Option.isSome_none, Bool.and_false]

theorem isStored_of_eq_some {c : Column} (h : columnOf catalog r hints ordinal f = .ok (some c)) :
    isStored hints f := by
  obtain ⟨hignored,_,_,_,hkind,_⟩ := columnOf_eq_some_iff.mp h
  rw [isStored, hignored, hkind]
  rfl

theorem exists_columnOf_iff : (∃ column, columnOf catalog r hints ordinal f = .ok column) ↔
    (f.options.ignored = false → KeepsRules catalog hints f) := by
  constructor
  · rintro ⟨column,h⟩ hignored
    cases column with
    | none =>
      rcases columnOf_eq_none_iff.mp h with hi | ⟨hkind,hplain⟩
      · cases hignored.symm.trans hi
      · exact ⟨fun _ => hplain,fun kind hsome => by cases hkind.symm.trans hsome⟩
    | some c =>
      obtain ⟨_,_,kind,reference,hkind,hoptions,hreference,_⟩ := columnOf_eq_some_iff.mp h
      refine ⟨fun hnone => (by cases hkind.symm.trans hnone),fun kind' hkind' => ?_⟩
      cases hkind.symm.trans hkind'
      exact ⟨hoptions,reference,hreference⟩
  · intro h
    cases hignored : f.options.ignored with
    | true => exact ⟨none,columnOf_of_ignored hignored⟩
    | false =>
      have hrules := h hignored
      cases hkind : kindOf? hints f with
      | none => exact ⟨none,columnOf_eq_none_iff.mpr (Or.inr ⟨hkind,hrules.unstored hkind⟩)⟩
      | some kind =>
        obtain ⟨hoptions,reference,hreference⟩ := hrules.stored kind hkind
        exact ⟨some (columnAt hints ordinal f kind reference),columnOf_eq_some_iff.mpr
          ⟨hignored,rfl,kind,reference,hkind,hoptions,hreference,rfl⟩⟩

theorem blames_hintsOf : Blames (catalog.hints r = .error .noType) (hintsOf catalog r) := by
  unfold hintsOf
  split
  · exact blames_ok _
  · exact blames_error rfl
  · next h =>
    rintro _ ⟨⟩
    exact Or.inr ⟨rfl,h⟩

theorem blames_primaryKeyOf : Blames (catalog.hints r = .error .noType) (primaryKeyOf catalog r) := by
  unfold primaryKeyOf
  split
  · exact blames_ok _
  · split
    · exact blames_ok _
    · exact blames_hintsOf.bind fun hints _ => blames_ok _

theorem blames_checkOptions {table : Text} {astray : Prop} : Blames astray (checkOptions table f kind) := by
  simp only [checkOptions]
  exact blames_guard rfl fun _ => blames_guard rfl fun _ => blames_guard rfl fun _ =>
    blames_guard rfl fun _ => blames_guard rfl fun _ => blames_ok _

theorem blames_checkForeign {table : Text} {astray : Prop} : Blames astray (checkForeign table f) := by
  simp only [checkForeign]
  exact blames_guard rfl fun _ => blames_guard rfl fun _ => blames_guard rfl fun _ =>
    blames_guard rfl fun _ => blames_ok _

theorem blames_foreignKeyOf {option : ForeignKeyOption} :
    Blames (∃ referenced, LeadsTo catalog hints option.navigation referenced ∧
      catalog.hints referenced = .error .noType) (foreignKeyOf catalog r hints f kind option) := by
  obtain ⟨fault,hfault,heq⟩ := @foreignKeyOf_eq catalog r hints f kind option
  rw [heq]
  refine blames_guard rfl fun _ => ?_
  split
  · exact blames_error hfault
  · next referenced hreferenced =>
    have hleads := referenced?_eq_some_iff.mp hreferenced
    refine (blames_primaryKeyOf.mono fun hastray => ⟨referenced,hleads,hastray⟩).bind fun key _ => ?_
    exact blames_referenceBy

theorem blames_columnOf :
    Blames (LeadsAstray catalog hints f) (columnOf catalog r hints ordinal f) := by
  cases hignored : f.options.ignored with
  | true =>
    rw [columnOf_of_ignored hignored]
    exact blames_ok _
  | false =>
    cases hkind : kindOf? hints f with
    | none =>
      obtain ⟨fault,hfault,hcolumn⟩ := columnOf_of_no_kind hignored hkind
      rw [hcolumn]
      exact blames_guard hfault fun _ => blames_ok _
    | some kind =>
      rw [columnOf_of_kind hignored hkind]
      refine blames_checkOptions.bind fun _ _ => Blames.bind ?_ fun reference _ => blames_ok _
      unfold referenceOf
      split
      · exact blames_ok _
      · next option hoption =>
        refine blames_checkForeign.bind fun _ _ => ?_
        refine (blames_foreignKeyOf.mono ?_).bind fun k _ => blames_ok _
        rintro ⟨referenced,hleads,hastray⟩
        exact ⟨hignored,option,referenced,hoption,hleads,hastray⟩

end Schema
end SealedRows
