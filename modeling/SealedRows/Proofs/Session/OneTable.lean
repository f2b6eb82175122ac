import SealedRows.Proofs.Session.KeyHistory

/-! # Record types of one table

Several record types may be declared for one table. A key for the table is kept with the record type that
it was given through, so the others still find the key that they had. Rows that were written through one
of the types can be read through another exactly while the same key is in force for both.
-/
namespace SealedRows

namespace KeyCall
variable {calls : List KeyCall} {typeName : Text} {key : Bytes}

/-- A table that was never given a key has that of the session. -/
theorem inForce_iff_of_not_gives (h : ∀ call ∈ calls, ∀ key, ¬call.Gives (.table typeName) key) :
    InForce calls typeName key ↔ LastGiven calls .ring key := by
  have hown : ∀ key, ¬LastGiven calls (.table typeName) key := by
    rintro own ⟨before,call,later,rfl,hgives,_⟩
    exact h call (by simp) own hgives
  unfold InForce
  simp only [hown, not_false_eq_true, implies_true, true_and, false_or]

end KeyCall

namespace KeyRing
variable {ring : KeyRing} {e₁ e₂ : RegistryEntry}

theorem resolve_eq_resolve_iff (htable : e₁.schema.name = e₂.schema.name) :
    ring.resolve e₁ = ring.resolve e₂ ↔ ∀ key, ring.resolve e₁ = .ok key ↔ ring.resolve e₂ = .ok key := by
  constructor
  · intro h key
    rw [h]
  · intro h
    cases hfirst : ring.resolve e₁ with
    | ok key => exact ((h key).mp hfirst).symm
    | error fault =>
      obtain ⟨rfl,hnone⟩ := resolve_eq_error_iff.mp hfirst
      rw [htable]
      exact (resolve_eq_error_iff.mpr ⟨rfl,fun key hkey => hnone key ((h key).mpr hkey)⟩).symm

end KeyRing

/-- Of any result there is a key that it is not. -/
theorem Algorithm.exists_otherKey (a : Algorithm) (result : Except KeyFault Bytes) :
    ∃ key, a.checkedKey (.bytes key) = .ok key ∧ result ≠ .ok key := by
  have htaken : ∀ b : UInt8, a.checkedKey (.bytes (List.replicate 32 b)) = .ok (List.replicate 32 b) := by
    intro b
    cases a <;> rfl
  by_cases h : result = .ok (List.replicate 32 0)
  · refine ⟨List.replicate 32 1,htaken 1,?_⟩
    rw [h]
    decide
  · exact ⟨List.replicate 32 0,htaken 0,h⟩

namespace Session
variable {session : Session} {e₁ e₂ : RegistryEntry}

theorem Tracks.contextFor_eq_iff {a : Algorithm} {calls : List KeyCall} (h : Tracks a calls session)
    (h₁ : e₁ ∈ session.registry) (h₂ : e₂ ∈ session.registry) :
    (∀ salt : Salt, session.ring.contextFor e₁ salt.toList = session.ring.contextFor e₂ salt.toList) ↔
      session.ring.resolve e₁ = session.ring.resolve e₂ := by
  simp only [h.contextFor_eq h₁, h.contextFor_eq h₂]
  constructor
  · intro hsame
    have hone := hsame (Vector.replicate saltSize 0)
    revert hone
    cases session.ring.resolve e₁ <;> cases session.ring.resolve e₂ <;> simp
  · intro hsame salt
    rw [hsame]

/-- Any two record types come apart when one of them is given a key that the other does not have. -/
theorem exists_setTableKey_ne (h₁ : e₁ ∈ session.registry) (h₂ : e₂ ∈ session.registry)
    (hne : e₁.typeName ≠ e₂.typeName) : ∃ v,
      let later := (setTableKey e₁.typeName v session).2
      ∃ a ∈ later.registry, a.schema = e₁.schema ∧ ∃ b ∈ later.registry, b.schema = e₂.schema ∧
        later.ring.resolve a ≠ later.ring.resolve b := by
  obtain ⟨key,hkey,hother⟩ := session.ring.algorithm.exists_otherKey (session.ring.resolve e₂)
  refine ⟨.bytes key,?_⟩
  obtain ⟨fault,hfault,_⟩ | ⟨given,hgiven,hrun⟩ := setTableKey_of_mem (List.mem_map_of_mem h₁) (.bytes key)
  · cases hkey.symm.trans hfault
  · cases hkey.symm.trans hgiven
    rw [hrun]
    refine ⟨{ e₁ with key := some key },?_,rfl,e₂,?_,rfl,fun hsame => hother hsame.symm⟩
    · exact List.mem_map.mpr ⟨e₁,h₁,if_pos rfl⟩
    · exact List.mem_map.mpr ⟨e₂,h₂,if_neg hne.symm⟩

/-- Two record types of one table find the same key, and the same cipher for every row, exactly if the
same key is in force for both. This is so as long as neither was given a key of its own, and at any time
a single call can end it. -/
theorem resolve_oneTable (h : session.Keyless) (history : List KeyStep) :
    let later := session.afterKeys history
    let calls := session.callsOf history
    ∀ e₁ ∈ later.registry, ∀ e₂ ∈ later.registry, e₁.schema.name = e₂.schema.name →
      (later.ring.resolve e₁ = later.ring.resolve e₂ ↔
        ∀ key, KeyCall.InForce calls e₁.typeName key ↔ KeyCall.InForce calls e₂.typeName key) ∧
      ((∀ salt : Salt, later.ring.contextFor e₁ salt.toList = later.ring.contextFor e₂ salt.toList) ↔
        ∀ key, KeyCall.InForce calls e₁.typeName key ↔ KeyCall.InForce calls e₂.typeName key) ∧
      ((∀ call ∈ calls, ∀ key, ¬call.Gives (.table e₁.typeName) key ∧ ¬call.Gives (.table e₂.typeName) key) →
        later.ring.resolve e₁ = later.ring.resolve e₂) ∧
      (e₁.typeName ≠ e₂.typeName → ∃ v,
        let last := (setTableKey e₁.typeName v later).2
        ∃ a ∈ last.registry, a.schema = e₁.schema ∧ ∃ b ∈ last.registry, b.schema = e₂.schema ∧
          last.ring.resolve a ≠ last.ring.resolve b) := by
  intro later calls e₁ h₁ e₂ h₂ htable
  have htracks : Tracks session.ring.algorithm calls later := h.tracks_afterKeys history
  have hsame : later.ring.resolve e₁ = later.ring.resolve e₂ ↔
      ∀ key, KeyCall.InForce calls e₁.typeName key ↔ KeyCall.InForce calls e₂.typeName key := by
    rw [KeyRing.resolve_eq_resolve_iff htable]
    simp only [htracks.resolve_eq_ok_iff h₁, htracks.resolve_eq_ok_iff h₂]
  refine ⟨hsame,(htracks.contextFor_eq_iff h₁ h₂).trans hsame,fun hnone => hsame.mpr fun key => ?_,
    exists_setTableKey_ne h₁ h₂⟩
  rw [KeyCall.inForce_iff_of_not_gives fun call hcall key => (hnone call hcall key).1,
    KeyCall.inForce_iff_of_not_gives fun call hcall key => (hnone call hcall key).2]

end Session

namespace Pseudonym

def declarations : List TypeDeclaration :=
  Author.declarations ++ Author.declarations.map fun d => { d with name := "Pseudonym" }

def catalog : Catalog := declarations.map (Catalog.typeOf none)

def session : Session := Session.new catalog .aes256 ⟨Database.memory,[],[]⟩ []

/-- The table gets a key through one type, and through the other none. -/
def history : List KeyStep := [.setTable "Author" (.bytes Author.long), .setTable "Pseudonym" .none]

/-- Both types are met, but no key is given except to the session. -/
def plain : List KeyStep :=
  [.setTable "Author" .none, .setDefault (.bytes Author.long), .setTable "Pseudonym" .none]

theorem keyless_session : session.Keyless := ⟨rfl,nofun⟩

theorem callsOf_plain : session.callsOf plain =
    [⟨.setTable "Author" .none,.error (.key .missing)⟩, ⟨.setDefault (.bytes Author.long),.ok ()⟩,
      ⟨.setTable "Pseudonym" .none,.error (.key .missing)⟩] := rfl

/-- With the key of the session alone, both types of the table find it. -/
theorem resolve_plain : session.Keyless ∧ ∃ e₁ ∈ (session.afterKeys plain).registry,
    ∃ e₂ ∈ (session.afterKeys plain).registry, e₁.typeName = "Author" ∧ e₂.typeName = "Pseudonym" ∧
      (session.afterKeys plain).ring.resolve e₁ = (session.afterKeys plain).ring.resolve e₂ := by
  have hmet : ∃ e₁ ∈ (session.afterKeys plain).registry, ∃ e₂ ∈ (session.afterKeys plain).registry,
      e₁.typeName = "Author" ∧ e₂.typeName = "Pseudonym" ∧ e₁.schema.name = e₂.schema.name := by decide
  obtain ⟨e₁,h₁,e₂,h₂,hauthor,hpseudonym,htable⟩ := hmet
  obtain ⟨_,_,hsame,_⟩ := Session.resolve_oneTable keyless_session plain e₁ h₁ e₂ h₂ htable
  refine ⟨keyless_session,e₁,h₁,e₂,h₂,hauthor,hpseudonym,hsame ?_⟩
  rw [callsOf_plain, hauthor, hpseudonym]
  simp [KeyCall.Gives, KeyStep.offer?]

/-- A table does not have one key: a key that is given through one type is not found through another. -/
theorem not_resolve_oneTable : ¬∀ (ds : List TypeDeclaration) (catalog : Catalog) (algorithm : Algorithm)
    (database : Database) (salts : List Bytes) (history : List KeyStep),
    Catalog.ofDeclarations ds = .ok catalog →
      let later := (Session.new catalog algorithm database salts).afterKeys history
      ∀ e₁ ∈ later.registry, ∀ e₂ ∈ later.registry, e₁.schema.name = e₂.schema.name →
        later.ring.resolve e₁ = later.ring.resolve e₂ := by
  intro h
  have hsame := h declarations catalog .aes256 ⟨Database.memory,[],[]⟩ [] history rfl
  have hmet : ∃ e₁ ∈ (session.afterKeys history).registry, ∃ e₂ ∈ (session.afterKeys history).registry,
      e₁.schema.name = e₂.schema.name ∧ e₁.key = some Author.long ∧ e₂.key = none := by decide
  obtain ⟨e₁,h₁,e₂,h₂,htable,hown,hnone⟩ := hmet
  have hone := hsame e₁ h₁ e₂ h₂ htable
  rw [KeyRing.resolve_eq, KeyRing.resolve_eq, hown, hnone] at hone
  cases hone

end Pseudonym
end SealedRows
