import Mathlib.Data.List.Induction
import SealedRows.Proofs.KeyRing
import SealedRows.Proofs.Session.Shared

/-! # What is left of a history of keys

A session is given keys, some of which it refuses, and they are taken away again, in any order. The key
that is in force for a table can be told from the calls and their answers alone: it is the last one that
the table was given, or else the last one that the session was given.
-/
namespace SealedRows

inductive KeyHolder where
  | ring
  | table (typeName : Text)

namespace KeyStep

def offer? : KeyStep → Option (KeyHolder × Value)
  | setDefault v => some (.ring,v)
  | setTable typeName v => some (.table typeName,v)
  | clear _ | close => none

def Takes : KeyStep → KeyHolder → Prop
  | clear _, .ring => True
  | clear typeNames, .table typeName => typeName ∈ typeNames
  | close, _ => True
  | setDefault _, _ | setTable .., _ => False

theorem not_takes_of_offer? {x : KeyStep} {holder : KeyHolder} {v : Value} (h : x.offer? = some (holder,v))
    (other : KeyHolder) : ¬x.Takes other := by
  cases x <;> first | exact id | cases h

end KeyStep

/-- A call on the keys of a session, and what it answered. -/
structure KeyCall where
  step : KeyStep
  answer : Except Fault Unit

namespace KeyCall
variable {calls : List KeyCall} {call : KeyCall} {holder : KeyHolder} {key : Bytes}

def Gives (call : KeyCall) (holder : KeyHolder) (key : Bytes) : Prop :=
  ∃ v, call.step.offer? = some (holder,v) ∧ call.answer = .ok () ∧ v.IsBytes key

theorem gives_iff {receiver : KeyHolder} {v : Value} (h : call.step.offer? = some (receiver,v)) :
    call.Gives holder key ↔ holder = receiver ∧ call.answer = .ok () ∧ v.IsBytes key := by
  constructor
  · rintro ⟨_,hgiven,hok,hkey⟩
    cases h.symm.trans hgiven
    exact ⟨rfl,hok,hkey⟩
  · rintro ⟨rfl,hok,hkey⟩
    exact ⟨v,h,hok,hkey⟩

theorem not_gives (h : call.step.offer? = none) : ¬call.Gives holder key := by
  rintro ⟨v,hv,_⟩
  cases h.symm.trans hv

/-- Whether a key is the last one that a holder was given, and was not taken away since. -/
def LastGiven (calls : List KeyCall) (holder : KeyHolder) (key : Bytes) : Prop :=
  ∃ before call later, calls = before ++ call :: later ∧ call.Gives holder key ∧
    ∀ other ∈ later, ¬other.step.Takes holder ∧ ∀ key', ¬other.Gives holder key'

/-- Whether a key is in force for the table of a record type: its own one comes before that of the
session. -/
def InForce (calls : List KeyCall) (typeName : Text) (key : Bytes) : Prop :=
  LastGiven calls (.table typeName) key ∨
    (∀ own, ¬LastGiven calls (.table typeName) own) ∧ LastGiven calls .ring key

theorem lastGiven_nil : ¬LastGiven [] holder key := by
  rintro ⟨before,call,later,hcalls,_⟩
  exact List.append_ne_nil_of_right_ne_nil before (List.cons_ne_nil call later) hcalls.symm

/-- What one more call leaves of the keys given. -/
theorem lastGiven_concat : LastGiven (calls ++ [call]) holder key ↔
    call.Gives holder key ∨
      ¬call.step.Takes holder ∧ (∀ other, ¬call.Gives holder other) ∧ LastGiven calls holder key := by
  constructor
  · rintro ⟨before,given,later,hcalls,hgives,hlater⟩
    rcases List.eq_nil_or_concat later with rfl | ⟨rest,last,rfl⟩
    · obtain ⟨_,hlast⟩ := List.append_inj' hcalls rfl
      cases hlast
      exact .inl hgives
    · rw [List.concat_eq_append, ← List.cons_append, ← List.append_assoc] at hcalls
      obtain ⟨hbefore,hlast⟩ := List.append_inj' hcalls rfl
      cases hlast
      obtain ⟨hkept,hidle⟩ := hlater call (by simp)
      exact .inr ⟨hkept,hidle,before,given,rest,hbefore,hgives,fun other hother => hlater other (by simp [hother])⟩
  · rintro (hgives | ⟨hkept,hidle,before,given,later,rfl,hgives,hlater⟩)
    · exact ⟨calls,call,[],rfl,hgives,fun other hother => absurd hother List.not_mem_nil⟩
    · refine ⟨before,given,later ++ [call],by simp,hgives,fun other hother => ?_⟩
      rcases List.mem_append.mp hother with hother | hother
      · exact hlater other hother
      · rw [List.mem_singleton.mp hother]
        exact ⟨hkept,hidle⟩

end KeyCall

namespace Session
variable {session : Session} {holder : KeyHolder} {key : Bytes}

/-- The session after calls on its keys. -/
def afterKeys (session : Session) (history : List KeyStep) : Session :=
  history.foldl (fun session x => (x.run session).2) session

def callOf (session : Session) (x : KeyStep) : KeyCall := ⟨x,(x.run session).1⟩

/-- The calls on the keys of a session, each with its answer. -/
def callsOf (session : Session) : List KeyStep → List KeyCall
  | [] => []
  | x :: rest => session.callOf x :: callsOf (x.run session).2 rest

def keyAt (session : Session) : KeyHolder → Option Bytes
  | .ring => session.ring.defaultKey
  | .table typeName => session.registry.tableKey typeName

/-- Whether neither a session nor a table that it knows has a key. -/
structure Keyless (session : Session) : Prop where
  ring : session.ring.defaultKey = none
  entries : ∀ e ∈ session.registry, e.key = none

theorem Keyless.keyAt (h : session.Keyless) (holder : KeyHolder) : session.keyAt holder = none := by
  cases holder with
  | ring => exact h.ring
  | table typeName =>
    rw [Session.keyAt, Registry.tableKey, Option.bind_eq_none_iff]
    exact fun e he => h.entries e (List.mem_of_find?_eq_some he)

theorem Keyless.uniform (h : session.Keyless) : session.registry.Uniform := fun e he =>
  (h.entries e he).trans (h.keyAt (.table e.typeName)).symm

theorem afterKeys_concat (history : List KeyStep) (x : KeyStep) :
    session.afterKeys (history ++ [x]) = (x.run (session.afterKeys history)).2 :=
  List.foldl_append

theorem callsOf_concat (history : List KeyStep) (x : KeyStep) :
    session.callsOf (history ++ [x]) =
      session.callsOf history ++ [(session.afterKeys history).callOf x] := by
  induction history generalizing session with
  | nil => rfl
  | cons first rest ih =>
    rw [List.cons_append, callsOf, ih]
    rfl

theorem setKey_cases (v : Value) (session : Session) :
    (∃ fault, session.ring.algorithm.checkedKey v = .error fault ∧
      setKey v session = (.error (.key fault),session)) ∨
    ∃ key, session.ring.algorithm.checkedKey v = .ok key ∧
      setKey v session = (.ok (),{ session with ring := { session.ring with defaultKey := some key } }) := by
  rw [setKey_eq]
  cases session.ring.algorithm.checkedKey v with
  | error fault => exact .inl ⟨fault,rfl,rfl⟩
  | ok key => exact .inr ⟨key,rfl,rfl⟩

/-- A key for a table is refused or taken after the type of the table has been registered. -/
theorem setTableKey_cases (typeName : Text) (v : Value) (session : Session) :
    let registry := (session.registry.schemaFor session.catalog typeName).2
    (∃ fault, setTableKey typeName v session = (.error fault,{ session with registry := registry })) ∨
    ∃ key, session.ring.algorithm.checkedKey v = .ok key ∧ typeName ∈ registry.names ∧
      setTableKey typeName v session =
        (.ok (),{ session with registry := registry.withKey typeName (some key) }) := by
  intro registry
  have hschema : schemaFor typeName session =
      ((session.registry.schemaFor session.catalog typeName).1.mapError .schema,
        { session with registry := registry }) := rfl
  rw [setTableKey_eq, hschema]
  cases hs : (session.registry.schemaFor session.catalog typeName).1 with
  | error fault => exact .inl ⟨_,rfl⟩
  | ok s =>
    obtain ⟨e,he,_⟩ := Registry.find?_of_schemaFor hs
    have hmem := Registry.find?_isSome.mp (Option.isSome_of_eq_some he)
    cases session.ring.algorithm.checkedKey v with
    | error fault => exact .inl ⟨_,rfl⟩
    | ok key => exact .inr ⟨key,rfl,hmem,rfl⟩

/-- A table whose type is registered takes a key, or else nothing changes. -/
theorem setTableKey_of_mem {typeName : Text} (h : typeName ∈ session.registry.names) (v : Value) :
    (∃ fault, session.ring.algorithm.checkedKey v = .error fault ∧
      setTableKey typeName v session = (.error (.key fault),session)) ∨
    ∃ key, session.ring.algorithm.checkedKey v = .ok key ∧
      setTableKey typeName v session =
        (.ok (),{ session with registry := session.registry.withKey typeName (some key) }) := by
  obtain ⟨s,hs⟩ := Registry.schemaFor_of_mem session.catalog h
  have hschema : schemaFor typeName session = (.ok s,session) := by
    unfold schemaFor
    rw [hs]
    rfl
  rw [setTableKey_eq, hschema]
  cases session.ring.algorithm.checkedKey v with
  | error fault => exact .inl ⟨fault,rfl,rfl⟩
  | ok key => exact .inr ⟨key,rfl,rfl⟩

/-- What comes of offering a key to a holder: it is refused and no key changes, or it is taken. -/
def Settles (session : Session) (holder : KeyHolder) (v : Value) (outcome : Except Fault Unit × Session) : Prop :=
  (∃ fault, outcome.1 = .error fault ∧ ∀ other, outcome.2.keyAt other = session.keyAt other) ∨
    ∃ key, session.ring.algorithm.checkedKey v = .ok key ∧ outcome.1 = .ok () ∧
      outcome.2.keyAt holder = some key ∧ ∀ other, other ≠ holder → outcome.2.keyAt other = session.keyAt other

theorem settles_setKey (session : Session) (v : Value) : session.Settles .ring v (setKey v session) := by
  obtain ⟨fault,_,hrun⟩ | ⟨key,hkey,hrun⟩ := setKey_cases v session
  · rw [hrun]
    exact .inl ⟨_,rfl,fun _ => rfl⟩
  · rw [hrun]
    refine .inr ⟨key,hkey,rfl,rfl,fun other hother => ?_⟩
    cases other with
    | ring => exact absurd rfl hother
    | table typeName => rfl

theorem settles_setTableKey (session : Session) (typeName : Text) (v : Value) :
    session.Settles (.table typeName) v (setTableKey typeName v session) := by
  have hkept := Registry.tableKey_schemaFor session.catalog session.registry typeName
  obtain ⟨fault,hrun⟩ | ⟨key,hkey,hmem,hrun⟩ := setTableKey_cases typeName v session
  · rw [hrun]
    refine .inl ⟨_,rfl,fun other => ?_⟩
    cases other with
    | ring => rfl
    | table name => exact hkept name
  · rw [hrun]
    refine .inr ⟨key,hkey,rfl,(Registry.tableKey_withKey _).trans (if_pos ⟨rfl,hmem⟩),fun other hother => ?_⟩
    cases other with
    | ring => rfl
    | table name =>
      have hname : name ≠ typeName := fun h => hother (congrArg KeyHolder.table h)
      exact (Registry.tableKey_withKey _).trans ((if_neg fun h => hname h.1).trans (hkept name))

theorem settles_of_offer? (session : Session) {x : KeyStep} {v : Value} (h : x.offer? = some (holder,v)) :
    session.Settles holder v (x.run session) := by
  cases x with
  | setDefault v =>
    cases h
    exact settles_setKey session v
  | setTable typeName v =>
    cases h
    exact settles_setTableKey session typeName v
  | clear _ | close => cases h

theorem keyAt_of_takes {x : KeyStep} (h : x.Takes holder) : (x.run session).2.keyAt holder = none := by
  cases x with
  | setDefault | setTable => exact h.elim
  | clear typeNames =>
    cases holder with
    | ring => rfl
    | table typeName => exact (Registry.tableKey_foldl_withKey typeNames).trans (if_pos h)
  | close =>
    obtain ⟨result,db,hclose⟩ := close_after session
    rw [KeyStep.run, hclose]
    cases holder with
    | ring => rfl
    | table typeName =>
      refine (Registry.tableKey_foldl_withKey _).trans ?_
      by_cases hmem : typeName ∈ session.registry.names
      · exact if_pos hmem
      · rw [if_neg hmem, Registry.tableKey_of_not_mem hmem]

/-- A step that neither offers nor takes a key changes none. -/
theorem keyAt_of_idle {x : KeyStep} (hoffer : x.offer? = none) (h : ¬x.Takes holder) :
    (x.run session).2.keyAt holder = session.keyAt holder := by
  cases x with
  | setDefault | setTable => cases hoffer
  | clear typeNames =>
    cases holder with
    | ring => exact absurd trivial h
    | table typeName => exact (Registry.tableKey_foldl_withKey typeNames).trans (if_neg h)
  | close => exact absurd trivial h

/-- After a step a holder has the key that it was given, or else the one that it had and that was not
taken. -/
theorem keyAt_run_iff (x : KeyStep) (session : Session) (holder : KeyHolder) (key : Bytes) :
    (x.run session).2.keyAt holder = some key ↔ (session.callOf x).Gives holder key ∨
      ¬x.Takes holder ∧ (∀ other, ¬(session.callOf x).Gives holder other) ∧
        session.keyAt holder = some key := by
  cases hoffer : x.offer? with
  | none =>
    have hnone : ∀ key, ¬(session.callOf x).Gives holder key := fun _ => KeyCall.not_gives hoffer
    by_cases htakes : x.Takes holder
    · simp [keyAt_of_takes htakes, hnone, htakes]
    · simp [keyAt_of_idle hoffer htakes, hnone, htakes]
  | some offer =>
    obtain ⟨receiver,v⟩ := offer
    have hkept := KeyStep.not_takes_of_offer? hoffer holder
    have hgives : ∀ key, (session.callOf x).Gives holder key ↔
        holder = receiver ∧ (x.run session).1 = .ok () ∧ v.IsBytes key := fun _ => KeyCall.gives_iff hoffer
    obtain ⟨fault,hfault,hsame⟩ | ⟨given,hgiven,hok,htaken,hsame⟩ := settles_of_offer? session hoffer
    · simp [hgives, hsame, hfault, hkept]
    · obtain ⟨hbytes,_⟩ := Algorithm.checkedKey_eq_ok.mp hgiven
      have honly : ∀ key, v.IsBytes key ↔ given = key := fun key => ⟨hbytes.unique,fun h => h ▸ hbytes⟩
      by_cases hholder : holder = receiver
      · subst hholder
        simp [hgives, htaken, hok, honly, hkept]
      · simp [hgives, hholder, hsame holder hholder, hkept]

theorem algorithm_run (x : KeyStep) (session : Session) :
    (x.run session).2.ring.algorithm = session.ring.algorithm := by
  cases x with
  | setDefault v =>
    obtain ⟨fault,_,hrun⟩ | ⟨key,_,hrun⟩ := setKey_cases v session <;> rw [KeyStep.run, hrun]
  | setTable typeName v =>
    obtain ⟨fault,hrun⟩ | ⟨key,_,_,hrun⟩ := setTableKey_cases typeName v session <;> rw [KeyStep.run, hrun]
  | clear | close => rfl

theorem uniform_run (x : KeyStep) (h : session.registry.Uniform) : (x.run session).2.registry.Uniform := by
  cases x with
  | setDefault v =>
    rw [KeyStep.run]
    obtain ⟨fault,_,hrun⟩ | ⟨key,_,hrun⟩ := setKey_cases v session
    · rw [hrun]
      exact h
    · rw [hrun]
      exact h
  | setTable typeName v =>
    have hschema := h.schemaFor session.catalog typeName
    rw [KeyStep.run]
    obtain ⟨fault,hrun⟩ | ⟨key,_,_,hrun⟩ := setTableKey_cases typeName v session
    · rw [hrun]
      exact hschema
    · rw [hrun]
      exact hschema.withKey typeName _
  | clear typeNames => exact h.forgotten typeNames
  | close =>
    obtain ⟨result,db,hclose⟩ := close_after session
    rw [KeyStep.run, hclose]
    exact h.forgotten _

theorem keySize_le_of_gives {x : KeyStep} (h : (session.callOf x).Gives holder key) :
    session.ring.algorithm.keySize ≤ key.length := by
  obtain ⟨v,hoffer,hanswer,hkey⟩ := h
  obtain ⟨fault,hfault,_⟩ | ⟨given,hgiven,_⟩ := settles_of_offer? session hoffer
  · cases hfault.symm.trans hanswer
  · obtain ⟨hbytes,hlong⟩ := Algorithm.checkedKey_eq_ok.mp hgiven
    rw [hkey.unique hbytes]
    exact hlong

/-- Whether the keys of a session are those that calls gave last, and long enough for its cipher. -/
structure Tracks (a : Algorithm) (calls : List KeyCall) (session : Session) : Prop where
  algorithm_eq : session.ring.algorithm = a
  uniform : session.registry.Uniform
  keyAt_iff : ∀ holder key, session.keyAt holder = some key ↔ KeyCall.LastGiven calls holder key
  keySize_le : ∀ holder key, session.keyAt holder = some key → a.keySize ≤ key.length

theorem Keyless.tracks (h : session.Keyless) : Tracks session.ring.algorithm [] session where
  algorithm_eq := rfl
  uniform := h.uniform
  keyAt_iff holder key := by
    rw [h.keyAt holder]
    exact ⟨nofun,fun hgiven => (KeyCall.lastGiven_nil hgiven).elim⟩
  keySize_le holder key hkey := by
    rw [h.keyAt holder] at hkey
    cases hkey

namespace Tracks
variable {a : Algorithm} {calls : List KeyCall} {e : RegistryEntry}

theorem run (h : Tracks a calls session) (x : KeyStep) :
    Tracks a (calls ++ [session.callOf x]) (x.run session).2 where
  algorithm_eq := (algorithm_run x session).trans h.algorithm_eq
  uniform := uniform_run x h.uniform
  keyAt_iff holder key := by
    rw [keyAt_run_iff, KeyCall.lastGiven_concat, h.keyAt_iff]
    rfl
  keySize_le holder key hkey := by
    rcases (keyAt_run_iff x session holder key).mp hkey with hgives | ⟨_,_,hbefore⟩
    · rw [← h.algorithm_eq]
      exact keySize_le_of_gives hgives
    · exact h.keySize_le holder key hbefore

end Tracks

theorem Keyless.tracks_afterKeys (h : session.Keyless) (history : List KeyStep) :
    Tracks session.ring.algorithm (session.callsOf history) (session.afterKeys history) := by
  induction history using List.reverseRecOn with
  | nil => exact h.tracks
  | append_singleton history x ih =>
    rw [callsOf_concat, afterKeys_concat]
    exact ih.run x

end Session

namespace Session.Tracks
variable {a : Algorithm} {calls : List KeyCall} {session : Session} {e : RegistryEntry}

/-- The ring finds the key that is in force. -/
theorem resolve_eq_ok_iff (h : Tracks a calls session) (he : e ∈ session.registry) (key : Bytes) :
    session.ring.resolve e = .ok key ↔ KeyCall.InForce calls e.typeName key := by
  have hown : e.key = session.keyAt (.table e.typeName) := h.uniform e he
  have hdefault : session.ring.defaultKey = session.keyAt .ring := rfl
  unfold KeyCall.InForce
  simp only [← h.keyAt_iff]
  rw [KeyRing.resolve_eq_ok_iff, hown, hdefault]
  cases session.keyAt (.table e.typeName) <;> simp

theorem resolve_eq_error_iff (h : Tracks a calls session) (he : e ∈ session.registry) :
    session.ring.resolve e = .error (.notInstalled e.schema.name) ↔
      ∀ key, ¬KeyCall.InForce calls e.typeName key := by
  rw [KeyRing.resolve_eq_error_iff]
  simp only [ne_eq, h.resolve_eq_ok_iff he, true_and]

theorem keySize_le_of_resolve (h : Tracks a calls session) (he : e ∈ session.registry) {key : Bytes}
    (hkey : session.ring.resolve e = .ok key) : a.keySize ≤ key.length := by
  rw [KeyRing.resolve_eq_ok_iff, Option.or_eq_some_iff] at hkey
  rcases hkey with hown | ⟨_,hdefault⟩
  · exact h.keySize_le (.table e.typeName) key ((h.uniform e he).symm.trans hown)
  · exact h.keySize_le .ring key hdefault

/-- Only the lack of a key keeps a ring from a context. -/
theorem contextFor_eq (h : Tracks a calls session) (he : e ∈ session.registry) (salt : Salt) :
    session.ring.contextFor e salt.toList =
      match session.ring.resolve e with
      | .ok key => .ok ⟨a,key,salt⟩
      | .error fault => .error (.key fault) := by
  cases hresolve : session.ring.resolve e with
  | ok key =>
    have hlong := h.keySize_le_of_resolve he hresolve
    rw [← h.algorithm_eq] at hlong ⊢
    exact KeyRing.contextFor_of_resolve hresolve hlong salt
  | error fault => exact KeyRing.contextFor_of_error hresolve salt.toList

end Session.Tracks

namespace Session
variable {session : Session}

/-- Whether a session takes exactly the keys that are long enough, and otherwise stays as it was. -/
def Installs (session : Session) (v : Value) (outcome : Except Fault Unit × Session) : Prop :=
  (outcome.1 = .ok () ↔ ∃ key, v.IsBytes key ∧ session.ring.algorithm.keySize ≤ key.length) ∧
    ∀ fault, outcome.1 = .error fault →
      outcome.2 = session ∧ fault.report.category = .library .invalidKey

theorem installs_of_refused {v : Value} {fault : KeyFault}
    (h : session.ring.algorithm.checkedKey v = .error fault) :
    session.Installs v (.error (.key fault),session) := by
  constructor
  · refine ⟨nofun,?_⟩
    rintro ⟨key,hkey⟩
    cases h.symm.trans (Algorithm.checkedKey_eq_ok.mpr hkey)
  · rintro _ ⟨⟩
    exact ⟨rfl,Algorithm.category_of_checkedKey h⟩

theorem installs_of_taken {v : Value} {key : Bytes} (h : session.ring.algorithm.checkedKey v = .ok key)
    (later : Session) : session.Installs v (.ok (),later) :=
  ⟨⟨fun _ => ⟨key,Algorithm.checkedKey_eq_ok.mp h⟩,fun _ => rfl⟩,nofun⟩

theorem installs_setKey (session : Session) (v : Value) : session.Installs v (setKey v session) := by
  obtain ⟨fault,hfault,hrun⟩ | ⟨key,hkey,hrun⟩ := setKey_cases v session
  · rw [hrun]
    exact installs_of_refused hfault
  · rw [hrun]
    exact installs_of_taken hkey _

theorem installs_setTableKey {typeName : Text} (h : typeName ∈ session.registry.names) (v : Value) :
    session.Installs v (setTableKey typeName v session) := by
  obtain ⟨fault,hfault,hrun⟩ | ⟨key,hkey,hrun⟩ := setTableKey_of_mem h v
  · rw [hrun]
    exact installs_of_refused hfault
  · rw [hrun]
    exact installs_of_taken hkey _

theorem resolve_close {e : RegistryEntry} (he : e ∈ (close session).2.registry) :
    (close session).2.ring.resolve e = .error (.notInstalled e.schema.name) := by
  obtain ⟨result,db,hclose⟩ := close_after session
  rw [hclose] at he ⊢
  obtain ⟨old,hold,_,hkey⟩ := Registry.mem_foldl_withKey he
  have hmem : old.typeName ∈ session.registry.names := List.mem_map_of_mem hold
  rw [if_pos hmem] at hkey
  rw [KeyRing.resolve_eq, hkey]
  rfl

/-- After every history of calls on the keys of a session, the ring finds the key that is in force for a
table, and only if there is none it fails. A call that gives a key takes it, or it changes nothing; after
a session has been closed no table has a key. -/
theorem resolve_afterKeys (h : session.Keyless) (history : List KeyStep) :
    let later := session.afterKeys history
    let calls := session.callsOf history
    (∀ e ∈ later.registry,
      (∀ key, later.ring.resolve e = .ok key ↔ KeyCall.InForce calls e.typeName key) ∧
      (later.ring.resolve e = .error (.notInstalled e.schema.name) ↔
        ∀ key, ¬KeyCall.InForce calls e.typeName key) ∧
      ∀ salt : Salt,
        (∀ key, KeyCall.InForce calls e.typeName key →
          later.ring.contextFor e salt.toList = .ok ⟨session.ring.algorithm,key,salt⟩) ∧
        ∀ fault, later.ring.contextFor e salt.toList = .error fault →
          fault = .key (.notInstalled e.schema.name)) ∧
    (∀ v, later.Installs v (setKey v later) ∧
      ∀ e ∈ later.registry, later.Installs v (setTableKey e.typeName v later)) ∧
    ∀ closing : Session, ∀ e ∈ (close closing).2.registry,
      (close closing).2.ring.resolve e = .error (.notInstalled e.schema.name) := by
  intro later calls
  have htracks : Tracks session.ring.algorithm calls later := h.tracks_afterKeys history
  refine ⟨fun e he => ⟨htracks.resolve_eq_ok_iff he,htracks.resolve_eq_error_iff he,fun salt => ?_⟩,
    fun v => ⟨installs_setKey later v,fun e he => ?_⟩,fun closing e => resolve_close⟩
  · have hcontext := htracks.contextFor_eq he salt
    constructor
    · intro key hkey
      rw [hcontext, (htracks.resolve_eq_ok_iff he key).mpr hkey]
    · intro fault hfault
      rw [hcontext] at hfault
      cases hresolve : later.ring.resolve e with
      | ok key =>
        rw [hresolve] at hfault
        cases hfault
      | error other =>
        rw [hresolve] at hfault
        cases hfault
        rw [(KeyRing.resolve_eq_error_iff.mp hresolve).1]
  · exact installs_setTableKey (List.mem_map_of_mem he) v

end Session

namespace Author

/-- A session that has met the authors and has no key. -/
def session : Session := (Session.schemaFor "Author" (Session.new catalog .aes256 ⟨Database.memory,[],[]⟩ [])).2

def other : Bytes := List.replicate 32 3

/-- The authors get a key of their own, which a key that is too short does not replace. -/
def given : List KeyStep :=
  [.setTable "Author" (.bytes long), .setDefault (.bytes other), .setTable "Author" (.bytes short)]

theorem keyless_session : session.Keyless := ⟨rfl,by decide⟩

theorem inForce_given : KeyCall.InForce (session.callsOf given) "Author" long := by
  refine .inl ⟨[],⟨.setTable "Author" (.bytes long),.ok ()⟩,
    [⟨.setDefault (.bytes other),.ok ()⟩,
      ⟨.setTable "Author" (.bytes short),.error (.key (.tooShort .aes256 8))⟩],rfl,?_,?_⟩
  · exact ⟨.bytes long,rfl,rfl,.inl rfl⟩
  · simp [KeyCall.Gives, KeyStep.Takes, KeyStep.offer?]

/-- The authors then have their own key, and the session opens a row of theirs with it. -/
theorem resolve_after_given : session.Keyless ∧ ∃ e ∈ (session.afterKeys given).registry,
    e.typeName = "Author" ∧ (session.afterKeys given).ring.resolve e = .ok long := by
  obtain ⟨hresolve,_⟩ := Session.resolve_afterKeys keyless_session given
  have hauthor : ∃ e ∈ (session.afterKeys given).registry, e.typeName = "Author" := by decide
  obtain ⟨e,he,hname⟩ := hauthor
  refine ⟨keyless_session,e,he,hname,((hresolve e he).1 long).mpr ?_⟩
  rw [hname]
  exact inForce_given

end Author
end SealedRows
