import Mathlib.Logic.Function.Basic
import SealedRows.Proofs.Schema.TableKeys
import SealedRows.Proofs.Session.Fetched

/-! # Sessions that share a registry

The default key of a session belongs to its ring, but the keys of tables are kept with the schemas, and
sessions that share a registry share these. So a table's key is the one that any of the sessions gave it
last, whatever cipher that session has, and it is gone as soon as any of them takes it away.
-/
namespace SealedRows

namespace Session

theorem setKey_eq (v : Value) (session : Session) : setKey v session =
    match session.ring.algorithm.checkedKey v with
    | .ok key => (.ok (),{ session with ring := { session.ring with defaultKey := some key } })
    | .error fault => (.error (.key fault),session) := by
  unfold setKey KeyRing.withDefault
  rw [get_bind]
  cases session.ring.algorithm.checkedKey v <;> rfl

/-- A key that is refused leaves the type registered. -/
theorem setTableKey_eq (typeName : Text) (v : Value) (session : Session) : setTableKey typeName v session =
    match schemaFor typeName session with
    | (.ok _,later) =>
      match session.ring.algorithm.checkedKey v with
      | .ok key => (.ok (),{ later with registry := later.registry.withKey typeName (some key) })
      | .error fault => (.error (.key fault),later)
    | (.error fault,later) => (.error fault,later) := by
  generalize hrun : schemaFor typeName session = outcome
  have hring : outcome.2.ring = session.ring := by
    rw [← hrun]
    rfl
  obtain ⟨result,later⟩ := outcome
  unfold setTableKey
  cases result with
  | error fault => rw [bind_of_error hrun]
  | ok s =>
    rw [bind_of_ok hrun, get_bind, ← hring]
    cases later.ring.algorithm.checkedKey v <;> rfl

theorem close_after (session : Session) : ∃ result db, close session =
    (result,{ session with
      ring := session.ring.cleared
      registry := session.registry.names.foldl (fun registry typeName => registry.withKey typeName none)
        session.registry
      database := db }) := by
  refine ⟨(close session).1,(close session).2.database,?_⟩
  unfold close
  rw [get_bind]
  rfl

/-- The key that a session uses for the table of a good type. -/
theorem keyOf_eq {catalog : Catalog} {session : Session} (hready : Ready catalog session) {typeName : Text}
    {s : Schema} (hs : (session.registry.schemaFor catalog typeName).1 = .ok s) :
    (keyOf typeName session).1 =
      match (session.registry.tableKey typeName).or session.ring.defaultKey with
      | some key => .ok key
      | none => .error (.key (.notInstalled s.name)) := by
  obtain ⟨e,he,hschema⟩ := Registry.find?_of_schemaFor hs
  have hname : s.record.name = typeName := ((Registry.Built.schemaFor hready.built typeName).2 s hs).2
  have hkey : e.key = session.registry.tableKey typeName := by
    rw [← Registry.tableKey_schemaFor catalog session.registry typeName typeName, Registry.tableKey, he]
    rfl
  have hrun : schemaFor typeName session =
      (.ok s,{ session with registry := (session.registry.schemaFor catalog typeName).2 }) := by
    rw [schemaFor_eq hready, hs]
    rfl
  have hentry : entryOf (session.registry.schemaFor catalog typeName).2 s = e := by
    rw [entryOf, hname, he]
    rfl
  unfold keyOf entryFor
  rw [bind_assoc, bind_of_ok hrun, bind_assoc, get_bind, pure_bind, get_bind]
  dsimp only
  rw [hentry, KeyRing.resolve, hkey, hschema]
  cases session.registry.tableKey typeName <;> cases session.ring.defaultKey <;> rfl

end Session

/-- What is done with the keys of a session. -/
inductive KeyStep where
  | setDefault (key : Value)
  | setTable (typeName : Text) (key : Value)
  | clear (typeNames : List Text)
  | close

namespace KeyStep
variable {catalog : Catalog} {session : Session} {typeName : Text}

def run : KeyStep → Session.Action Unit
  | setDefault key => Session.setKey key
  | setTable typeName key => Session.setTableKey typeName key
  | clear typeNames => Session.forgetKeys typeNames
  | close => Session.close

/-- The default key of a ring after a step of its session. -/
def defaultKey (a : Algorithm) : KeyStep → Option Bytes → Option Bytes
  | setDefault v, key => (a.checkedKey v).toOption.or key
  | setTable .., key => key
  | clear _, _ | close, _ => none

/-- The key of a table after a step of a session. -/
def tableKey (a : Algorithm) (typeName : Text) : KeyStep → Option Bytes → Option Bytes
  | setDefault _, key => key
  | setTable other v, key => if typeName = other then (a.checkedKey v).toOption.or key else key
  | clear typeNames, key => if typeNames.contains typeName then none else key
  | close, _ => none

/-- Whether a step gives a table a key or takes it away. -/
def Touches (a : Algorithm) (typeName : Text) : KeyStep → Prop
  | setDefault _ => False
  | setTable other v => typeName = other ∧ ∃ key, a.checkedKey v = .ok key
  | clear typeNames => typeName ∈ typeNames
  | close => True

theorem tableKey_of_not_touches {a : Algorithm} {x : KeyStep} (h : ¬x.Touches a typeName)
    (key : Option Bytes) : x.tableKey a typeName key = key := by
  cases x with
  | setDefault v => rfl
  | setTable other v =>
    rw [tableKey]
    split
    · next hname =>
      cases hkey : a.checkedKey v with
      | error fault => rfl
      | ok bs => exact absurd ⟨hname,bs,hkey⟩ h
    · rfl
  | clear typeNames => exact if_neg (mt List.contains_iff_mem.mp h)
  | close => exact absurd trivial h

structure Does (catalog : Catalog) (typeName : Text) (x : KeyStep) (session later : Session) : Prop where
  ready : Session.Ready catalog later
  algorithm_eq : later.ring.algorithm = session.ring.algorithm
  defaultKey_eq : later.ring.defaultKey = x.defaultKey session.ring.algorithm session.ring.defaultKey
  tableKey_eq : later.registry.tableKey typeName =
    x.tableKey session.ring.algorithm typeName (session.registry.tableKey typeName)

section
variable (hready : Session.Ready catalog session)
include hready

theorem does_setDefault (v : Value) :
    Does catalog typeName (setDefault v) session (Session.setKey v session).2 := by
  rw [Session.setKey_eq]
  cases hkey : session.ring.algorithm.checkedKey v with
  | error fault => exact ⟨hready,rfl,by rw [defaultKey, hkey]; rfl,rfl⟩
  | ok bs => exact ⟨⟨hready.catalog_eq,hready.built⟩,rfl,by rw [defaultKey, hkey]; rfl,rfl⟩

theorem does_setTable (hgood : ¬catalog.Faulty typeName) (other : Text) (v : Value) :
    Does catalog typeName (setTable other v) session (Session.setTableKey other v session).2 := by
  have hbuilt := (Registry.Built.schemaFor hready.built other).1
  have hkept := Registry.tableKey_schemaFor catalog session.registry other typeName
  rw [Session.setTableKey_eq, Session.schemaFor_eq hready]
  cases hs : (session.registry.schemaFor catalog other).1 with
  | error fault =>
    have hname : typeName ≠ other := by
      rintro rfl
      obtain ⟨s,hs'⟩ := Registry.gives_of_not_faulty hgood session.registry
      cases hs.symm.trans hs'
    refine ⟨⟨hready.catalog_eq,hbuilt⟩,rfl,rfl,?_⟩
    rw [tableKey, if_neg hname]
    exact hkept
  | ok s =>
    obtain ⟨e,he,_⟩ := Registry.find?_of_schemaFor hs
    have hmem := Registry.find?_isSome.mp (Option.isSome_of_eq_some he)
    dsimp only [Except.mapError]
    cases hkey : session.ring.algorithm.checkedKey v with
    | error fault =>
      refine ⟨⟨hready.catalog_eq,hbuilt⟩,rfl,rfl,?_⟩
      rw [tableKey, hkey]
      exact hkept.trans (ite_self _).symm
    | ok bs =>
      refine ⟨⟨hready.catalog_eq,hbuilt.withKey other _⟩,rfl,rfl,?_⟩
      rw [tableKey, hkey]
      dsimp only
      rw [Registry.tableKey_withKey, hkept]
      by_cases hname : typeName = other
      · subst hname
        rw [if_pos ⟨rfl,hmem⟩, if_pos rfl]
        rfl
      · rw [if_neg fun h => hname h.1, if_neg hname]

theorem does_clear (typeNames : List Text) :
    Does catalog typeName (clear typeNames) session (Session.forgetKeys typeNames session).2 := by
  refine ⟨⟨hready.catalog_eq,hready.built.forgotten typeNames⟩,rfl,rfl,?_⟩
  rw [tableKey]
  simp only [List.contains_iff_mem]
  exact Registry.tableKey_foldl_withKey typeNames

theorem does_close : Does catalog typeName close session (Session.close session).2 := by
  obtain ⟨result,db,hclose⟩ := Session.close_after session
  rw [hclose]
  refine ⟨⟨hready.catalog_eq,hready.built.forgotten _⟩,rfl,rfl,?_⟩
  dsimp only
  rw [Registry.tableKey_foldl_withKey, tableKey]
  by_cases hmem : typeName ∈ session.registry.names
  · exact if_pos hmem
  · rw [if_neg hmem]
    exact Registry.tableKey_of_not_mem hmem

theorem does_run (hgood : ¬catalog.Faulty typeName) (x : KeyStep) :
    Does catalog typeName x session (x.run session).2 := by
  cases x with
  | setDefault v => exact does_setDefault hready v
  | setTable other v => exact does_setTable hready hgood other v
  | clear typeNames => exact does_clear hready typeNames
  | close => exact does_close hready

end
end KeyStep

/-- One of two sessions. -/
inductive Side where
  | left | right
  deriving DecidableEq

def Side.other : Side → Side
  | left => right
  | right => left

structure Shared where
  registry : Registry
  sessions : Side → Session

namespace Shared
variable {α : Type} {catalog : Catalog} {shared : Shared} {typeName : Text} {s : Schema}

def new (catalog : Catalog) (algorithm : Side → Algorithm) (database : Side → Database) : Shared :=
  ⟨[],fun side => Session.new catalog (algorithm side) (database side) []⟩

/-- A session, with what it finds in the registry. -/
def session (shared : Shared) (side : Side) : Session :=
  { shared.sessions side with registry := shared.registry }

def act (side : Side) (action : Session.Action α) (shared : Shared) : Except Fault α × Shared :=
  let (result,later) := action (shared.session side)
  (result,⟨later.registry,Function.update shared.sessions side later⟩)

/-- The sessions after steps of both, in the order in which they were taken. -/
def after (shared : Shared) (history : List (Side × KeyStep)) : Shared :=
  history.foldl (fun shared e => (act e.1 e.2.run shared).2) shared

/-- The key that a session uses for the table of a record type. -/
def keyOf (shared : Shared) (side : Side) (typeName : Text) : Except Fault Bytes :=
  (act side (Session.keyOf typeName) shared).1

def algorithm (shared : Shared) (side : Side) : Algorithm := (shared.sessions side).ring.algorithm

/-- The default key of a session after steps: only its own count. -/
def defaultKey (shared : Shared) (side : Side) (history : List (Side × KeyStep)) : Option Bytes :=
  (history.filter (·.1 = side)).foldl (fun key e => e.2.defaultKey (shared.algorithm side) key)
    (shared.sessions side).ring.defaultKey

/-- The key of a table after steps: those of both sessions count. -/
def tableKey (shared : Shared) (typeName : Text) (history : List (Side × KeyStep)) : Option Bytes :=
  history.foldl (fun key e => e.2.tableKey (shared.algorithm e.1) typeName key)
    (shared.registry.tableKey typeName)

/-- Whether two sessions have declared types and no schemas but theirs. -/
structure Ready (catalog : Catalog) (shared : Shared) : Prop where
  catalog_eq : ∀ side, (shared.sessions side).catalog = catalog
  built : Registry.Built catalog shared.registry

theorem Ready.session (h : shared.Ready catalog) (side : Side) :
    Session.Ready catalog (shared.session side) :=
  ⟨h.catalog_eq side,h.built⟩

theorem sessions_act (side : Side) (action : Session.Action α) (shared : Shared) :
    (act side action shared).2.sessions =
      Function.update shared.sessions side (action (shared.session side)).2 := rfl

section
variable (hready : shared.Ready catalog) (hgood : ¬catalog.Faulty typeName)
include hready hgood

/-- What a step of one session does to the keys of both. -/
theorem act_run (side : Side) (x : KeyStep) :
    let later := (act side x.run shared).2
    later.Ready catalog ∧ later.algorithm = shared.algorithm ∧
      (∀ other, (later.sessions other).ring.defaultKey =
        if side = other then x.defaultKey (shared.algorithm other) (shared.sessions other).ring.defaultKey
        else (shared.sessions other).ring.defaultKey) ∧
      later.registry.tableKey typeName =
        x.tableKey (shared.algorithm side) typeName (shared.registry.tableKey typeName) := by
  intro later
  obtain ⟨hlater,halgorithm,hdefault,htable⟩ := KeyStep.does_run (hready.session side) hgood x
  have hown : later.sessions side = (x.run (shared.session side)).2 := by
    rw [sessions_act, Function.update_self]
  have hother : ∀ other, side ≠ other → later.sessions other = shared.sessions other := fun other hne => by
    rw [sessions_act, Function.update_of_ne hne.symm]
  refine ⟨⟨fun other => ?_,hlater.built⟩,funext fun other => ?_,fun other => ?_,htable⟩
  all_goals by_cases hside : side = other
  · rw [← hside, hown, hlater.catalog_eq]
  · rw [hother other hside, hready.catalog_eq]
  · rw [algorithm, ← hside, hown, halgorithm]
    rfl
  · rw [algorithm, hother other hside]
    rfl
  · rw [if_pos hside, ← hside, hown, hdefault]
    rfl
  · rw [if_neg hside, hother other hside]

/-- After steps of both sessions, the default keys follow from the own steps and the key of a table from
all steps. -/
theorem after_keys (history : List (Side × KeyStep)) :
    (shared.after history).Ready catalog ∧
      (∀ side, ((shared.after history).sessions side).ring.defaultKey = shared.defaultKey side history) ∧
      (shared.after history).registry.tableKey typeName = shared.tableKey typeName history := by
  induction history generalizing shared with
  | nil => exact ⟨hready,fun _ => rfl,rfl⟩
  | cons e rest ih =>
    obtain ⟨side,x⟩ := e
    obtain ⟨hlater,halgorithm,hdefault,htable⟩ := act_run hready hgood side x
    obtain ⟨hlast,hdefaults,htables⟩ := ih hlater
    refine ⟨hlast,fun other => (hdefaults other).trans ?_,htables.trans ?_⟩
    · rw [defaultKey, defaultKey, halgorithm, hdefault, List.filter_cons]
      by_cases hside : side = other
      · rw [if_pos hside, if_pos (decide_eq_true hside), List.foldl_cons]
      · rw [if_neg hside, if_neg (by simpa using hside)]
    · rw [tableKey, tableKey, halgorithm, htable, List.foldl_cons]

end

/-- The key for a table that has its own key or none, in a session with a default key or none. -/
def chosenKey (table : Text) (own default : Option Bytes) : Except Fault Bytes :=
  match own.or default with
  | some key => .ok key
  | none => .error (.key (.notInstalled table))

theorem keyOf_after_eq (hready : shared.Ready catalog) (hgood : ¬catalog.Faulty typeName)
    (hs : catalog.schemaOf typeName = .ok s) (side : Side) (history : List (Side × KeyStep)) :
    (shared.after history).keyOf side typeName =
      chosenKey s.name (shared.tableKey typeName history) (shared.defaultKey side history) := by
  obtain ⟨hlater,hdefault,htable⟩ := after_keys hready hgood history
  obtain ⟨t,ht⟩ := Registry.gives_of_not_faulty hgood (shared.after history).registry
  have hsame := ((Registry.Built.schemaFor hlater.built typeName).2 t ht).1
  cases hs.symm.trans hsame
  rw [← hdefault, ← htable]
  exact Session.keyOf_eq (hlater.session side) ht

/-- Steps of the other session that do not touch a table leave its key to the own ones. -/
theorem tableKey_filter {side : Side} {history : List (Side × KeyStep)}
    (h : ∀ e ∈ history, e.1 ≠ side → ¬e.2.Touches (shared.algorithm e.1) typeName) :
    shared.tableKey typeName history = shared.tableKey typeName (history.filter (·.1 = side)) := by
  unfold tableKey
  generalize shared.registry.tableKey typeName = key
  induction history generalizing key with
  | nil => rfl
  | cons e rest ih =>
    obtain ⟨hfirst,hrest⟩ := List.forall_mem_cons.mp h
    rw [List.foldl_cons, ih hrest, List.filter_cons]
    by_cases hside : e.1 = side
    · rw [if_pos (decide_eq_true hside), List.foldl_cons]
    · rw [if_neg (by simpa using hside), KeyStep.tableKey_of_not_touches (hfirst hside)]

theorem defaultKey_filter (side : Side) (history : List (Side × KeyStep)) :
    shared.defaultKey side (history.filter (·.1 = side)) = shared.defaultKey side history := by
  rw [defaultKey, defaultKey, List.filter_filter]
  simp only [Bool.and_self]

theorem exists_checkedKey (a : Algorithm) : ∃ v key, a.checkedKey v = .ok key :=
  ⟨.bytes (List.replicate 32 0),List.replicate 32 0,by cases a <;> rfl⟩

/-- A step of the other session that touches a table is noticed after some own steps. -/
theorem exists_noticed (shared : Shared) {side other : Side} (hother : other ≠ side) {x : KeyStep}
    (h : x.Touches (shared.algorithm other) typeName) (table : Text) : ∃ before : List (Side × KeyStep),
      chosenKey table (shared.tableKey typeName (before ++ [(other,x)]))
          (shared.defaultKey side (before ++ [(other,x)])) ≠
        chosenKey table (shared.tableKey typeName before) (shared.defaultKey side before) := by
  have hdefault : ∀ before, shared.defaultKey side (before ++ [(other,x)]) = shared.defaultKey side before := by
    intro before
    rw [defaultKey, List.filter_append, List.filter_singleton, decide_eq_false hother]
    exact congrArg (List.foldl _ _) (List.append_nil _)
  have hlast : ∀ before, shared.tableKey typeName (before ++ [(other,x)]) =
      x.tableKey (shared.algorithm other) typeName (shared.tableKey typeName before) := fun before => by
    rw [tableKey, List.foldl_append]
    rfl
  obtain ⟨v,key,hkey⟩ := exists_checkedKey (shared.algorithm side)
  -- Nothing has a key after the session has been closed, and only the table has one after it got one.
  let closed : List (Side × KeyStep) := [(side,.close)]
  let given : List (Side × KeyStep) := [(side,.close),(side,.setTable typeName v)]
  have hnone : ∀ before ∈ [closed,given], shared.defaultKey side before = none := by
    simp [closed, given, defaultKey, KeyStep.defaultKey]
  have hgiven : shared.tableKey typeName given = some key := by
    simp [given, tableKey, KeyStep.tableKey, hkey, Except.toOption]
  have hclosed : shared.tableKey typeName closed = none := rfl
  cases x with
  | setDefault v => exact h.elim
  | setTable name _ =>
    obtain ⟨rfl,_,hother⟩ := h
    refine ⟨closed,?_⟩
    rw [hdefault, hlast, hnone closed (by simp), hclosed, KeyStep.tableKey, if_pos rfl, hother]
    nofun
  | clear typeNames =>
    have hmem : typeNames.contains typeName := List.contains_iff_mem.mpr h
    refine ⟨given,?_⟩
    rw [hdefault, hlast, hnone given (by simp), hgiven, KeyStep.tableKey, if_pos hmem]
    nofun
  | close =>
    refine ⟨given,?_⟩
    rw [hdefault, hlast, hnone given (by simp), hgiven]
    nofun

/-- The key that one of two sessions uses for the table of a good type is the one that either of them gave
the table last, or else its own default key. So it follows from the own steps if the other session does
not touch the table, and exactly the steps that touch the table can be noticed. -/
theorem keyOf_after (hready : shared.Ready catalog) (hgood : ¬catalog.Faulty typeName)
    (hs : catalog.schemaOf typeName = .ok s) (side : Side) :
    (∀ history, (shared.after history).keyOf side typeName =
      chosenKey s.name (shared.tableKey typeName history) (shared.defaultKey side history)) ∧
    (∀ history : List (Side × KeyStep),
      (∀ e ∈ history, e.1 ≠ side → ¬e.2.Touches (shared.algorithm e.1) typeName) →
        (shared.after history).keyOf side typeName =
          (shared.after (history.filter (·.1 = side))).keyOf side typeName) ∧
    ∀ other, other ≠ side → ∀ x : KeyStep,
      (∀ before later, (shared.after (before ++ (other,x) :: later)).keyOf side typeName =
        (shared.after (before ++ later)).keyOf side typeName) ↔
      ¬x.Touches (shared.algorithm other) typeName := by
  have hkey := keyOf_after_eq hready hgood hs side
  refine ⟨hkey,fun history h => ?_,fun other hother x => ⟨fun hsame htouches => ?_,fun h before later => ?_⟩⟩
  · rw [hkey, hkey, tableKey_filter h, defaultKey_filter]
  · obtain ⟨before,hnoticed⟩ := exists_noticed shared hother htouches s.name
    have hsame := hsame before []
    rw [hkey, hkey, List.append_nil] at hsame
    exact hnoticed hsame
  · have htable : shared.tableKey typeName (before ++ (other,x) :: later) =
        shared.tableKey typeName (before ++ later) := by
      rw [tableKey, tableKey, List.foldl_append, List.foldl_append, List.foldl_cons,
        KeyStep.tableKey_of_not_touches h]
    have hdefault : shared.defaultKey side (before ++ (other,x) :: later) =
        shared.defaultKey side (before ++ later) := by
      rw [defaultKey, defaultKey, List.filter_append, List.filter_append,
        List.filter_cons_of_neg (by simpa using hother)]
    rw [hkey, hkey, htable, hdefault]

end Shared

namespace Author
open Shared

def declarations : List TypeDeclaration :=
  [⟨"Author",some "authors",none,true,
    [Circle.key, ⟨"email","str",some { ColumnOptions.plain with encrypted := true },.required,true⟩]⟩]

def catalog : Catalog := declarations.map (Catalog.typeOf none)

/-- One session writes with a short key, the other with a long one. -/
def algorithm : Side → Algorithm
  | .left => .des
  | .right => .aes256

def shared : Shared := .new catalog algorithm fun _ => ⟨Database.memory,[],[]⟩

def long : Bytes := List.replicate 32 1

def short : Bytes := List.replicate 8 2

theorem ready_shared : shared.Ready catalog := ⟨fun _ => rfl,nofun⟩

set_option maxRecDepth 4000 in
theorem exists_schema : ∃ s, catalog.schemaOf "Author" = .ok s ∧ s.references = [] := ⟨_,rfl,rfl⟩

theorem not_faulty_author : ¬catalog.Faulty "Author" := by
  obtain ⟨s,hs,hnone⟩ := exists_schema
  intro hfaulty
  cases hfaulty with
  | unbuilt hfault => cases hs.symm.trans hfault
  | refers hs' hother =>
    cases hs.symm.trans hs'
    rw [hnone] at hother
    cases hother

/-- The right session takes a default key of its own, and the left one a key for the authors. -/
def steps : List (Side × KeyStep) :=
  [(.right,.setDefault (.bytes long)),(.left,.setTable "Author" (.bytes short))]

/-- The right session then uses the key that the left one gave, which is too short for its cipher. -/
theorem keyOf_after_steps : (shared.after steps).keyOf .right "Author" = .ok short ∧
    algorithm .right = .aes256 ∧ Algorithm.checkedKey .aes256 (.bytes short) = .error (.tooShort .aes256 8) := by
  obtain ⟨s,hs,_⟩ := exists_schema
  obtain ⟨hkey,_⟩ := Shared.keyOf_after ready_shared not_faulty_author hs .right
  exact ⟨hkey steps,rfl,rfl⟩

/-- What a session uses for the key of a table does not follow from its own steps alone: the key that the
left session gives is the one that the right session uses. -/
theorem not_keyOf_own : ¬∀ (ds : List TypeDeclaration) (catalog : Catalog) (algorithm : Side → Algorithm)
    (database : Side → Database) (side : Side) (typeName : Text) (history other : List (Side × KeyStep)),
    Catalog.ofDeclarations ds = .ok catalog →
    history.filter (·.1 = side) = other.filter (·.1 = side) →
    ((Shared.new catalog algorithm database).after history).keyOf side typeName =
      ((Shared.new catalog algorithm database).after other).keyOf side typeName := by
  intro h
  let own : List (Side × KeyStep) := [(.right,.setDefault (.bytes long))]
  have hsame : (shared.after steps).keyOf .right "Author" = (shared.after own).keyOf .right "Author" :=
    h declarations catalog algorithm _ .right "Author" steps own rfl rfl
  obtain ⟨s,hs,_⟩ := exists_schema
  rw [Shared.keyOf_after_eq ready_shared not_faulty_author hs,
    Shared.keyOf_after_eq ready_shared not_faulty_author hs] at hsame
  cases hsame

end Author
end SealedRows
