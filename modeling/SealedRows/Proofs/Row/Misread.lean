import SealedRows.Proofs.Codec.Legible
import SealedRows.Proofs.Row.RoundTrip

/-! # Rows read with another key

A cipher keeps the lengths of what it encrypts, and every byte string of the length of a layout can be
read. A row is therefore decoded with any key. The values of its encrypted columns are then others of
their kinds, and everything that was not encrypted is as it was written.
-/
namespace SealedRows

namespace ValueKind
variable {kind : ValueKind} {v stored : Value} {ordinal : Int} {k : CipherContext} {out : Bytes}

/-- What is stored with a cipher is a byte string of the length of a layout. -/
theorem hasLength_of_encode_sealed (hv : v ≠ .none) (h : kind.encode v ordinal (some k) = .ok stored) :
    ∃ out, stored = .bytes out ∧ kind.HasLength out.length ∧ 0 ≤ ordinal ∧ ordinal < 2 ^ 32 := by
  rw [encode_sealed kind hv] at h
  obtain ⟨bs,hbytes,h⟩ := bind_eq_ok.mp h
  obtain ⟨out,hout,rfl⟩ := map_eq_ok.mp h
  rw [ValueFault.liftCipher_eq_ok] at hout
  refine ⟨out,rfl,?_,(k.exists_applied_iff bs).mp ⟨out,hout⟩⟩
  rw [k.length_applied hout]
  exact hasLength_toBytes hbytes

/-- With any cipher a byte string of the length of a layout is read as a value of the kind. -/
theorem contains_decode_sealed (hlength : kind.HasLength out.length)
    (hordinal : 0 ≤ ordinal ∧ ordinal < 2 ^ 32) (k : CipherContext) :
    ∃ w, kind.decode (.bytes out) ordinal (some k) = .ok w ∧ kind.Contains w := by
  obtain ⟨plain,hplain⟩ := (k.exists_applied_iff out).mpr hordinal
  rw [← k.length_applied hplain] at hlength
  obtain ⟨w,hw⟩ := exists_ofBytes_iff.mpr hlength
  refine ⟨w,?_,contains_ofBytes hw⟩
  exact bind_eq_ok.mpr ⟨out,rfl,bind_eq_ok.mpr ⟨plain,ValueFault.liftCipher_eq_ok.mpr hplain,hw⟩⟩

end ValueKind

/-- What an encrypted column stores is read with any cipher. -/
theorem Column.contains_decode_of_encode {c : Column} (hc : c.isEncrypted) {v stored : Value}
    {cipher : Option CipherContext} (h : c.encode v cipher = .ok stored) (hstored : stored ≠ .none)
    (k : CipherContext) : ∃ w, c.decode stored (some k) = .ok w ∧ c.kind.Contains w := by
  have hv : v ≠ .none := mt (decode_encode h).1.mpr hstored
  rw [encode_of_ne_none hv] at h
  obtain ⟨used,hused,hencode⟩ := bind_eq_ok.mp h
  rw [mapError_eq_ok] at hencode
  rcases cipherFor_eq_ok.mp hused with ⟨_,hsome,rfl⟩ | ⟨hplain,_⟩
  · obtain ⟨context,rfl⟩ := Option.isSome_iff_exists.mp hsome
    obtain ⟨out,rfl,hlength,hordinal⟩ := ValueKind.hasLength_of_encode_sealed hv hencode
    obtain ⟨w,hw,hcontains⟩ := ValueKind.contains_decode_sealed hlength hordinal k
    refine ⟨w,?_,hcontains⟩
    rw [decode_of_ne_none hstored]
    exact bind_eq_ok.mpr ⟨some k,cipherFor_eq_ok.mpr (Or.inl ⟨hc,rfl,rfl⟩),mapError_eq_ok.mpr hw⟩
  · simp [hc] at hplain

namespace Row
variable {ring other : KeyRing} {e : RegistryEntry} {tableKey : Option Bytes} {salt key : Bytes}
  {includeCounted : Bool} {valueOf : Text → Value} {row : Row}

/-- What another key reads in the place of an entry of a row: a plain value and null as they are, and in
the place of an encrypted value some value of its kind. -/
inductive Misreads (s : Schema) : Text × Value → Text × Value → Prop where
  | kept {c : Column} (hc : c ∈ s.columns) {v : Value} (h : ¬(c.isEncrypted ∧ v ≠ .none)) :
      Misreads s (c.fieldName,v) (c.fieldName,v)
  | garbled {c : Column} (hc : c ∈ s.columns) {v w : Value} (h : c.isEncrypted ∧ v ≠ .none)
      (hw : c.kind.Contains w) : Misreads s (c.fieldName,v) (c.fieldName,w)

/-- A written salt makes a cipher of every key that is long enough. -/
theorem exists_cipher_otherKey (hs : e.schema.Sound)
    (h : encode ring e salt includeCounted valueOf = .ok row)
    (hkey : other.resolve { e with key := tableKey } = .ok key)
    (hvalid : other.algorithm.keySize ≤ key.length) (hencrypted : e.schema.hasEncryptedColumns) :
    ∃ k, cipher other { e with key := tableKey } row = .ok k := by
  have hsalt := salt_eq_of_mem (nodup_names_encode hs h) (salt_mem_encode hencrypted h)
  obtain ⟨sealer,cells,hcipher,_⟩ := encode_eq_ok h
  obtain ⟨context,rfl⟩ := sealing_isSome hencrypted hcipher
  have hcontext := contextFor_of_sealing hcipher
  unfold KeyRing.contextFor at hcontext
  split at hcontext
  · have hlength := (CipherContext.exists_ofBytes_iff.mp ⟨_,hcontext⟩).2
    obtain ⟨k,hk⟩ := CipherContext.exists_ofBytes_iff.mpr ⟨hvalid,hlength⟩
    refine ⟨k,cipher_of_contextFor hsalt ?_⟩
    rw [KeyRing.contextFor, hkey]
    exact hk
  · cases hcontext

/-- Where an entry is read with the right key, another key reads some entry in its place. -/
theorem exists_misread (hs : e.schema.Sound)
    (h : encode ring e salt includeCounted valueOf = .ok row)
    (hkey : other.resolve { e with key := tableKey } = .ok key)
    (hvalid : other.algorithm.keySize ≤ key.length) {stored : Column × Value}
    (hstored : stored ∈ known e.schema row) {entry : Text × Value}
    (hentry : Reads ring e row stored entry) : ∃ misread,
      Reads other { e with key := tableKey } row stored misread ∧ Misreads e.schema entry misread := by
  obtain ⟨c,raw⟩ := stored
  obtain ⟨field,v⟩ := entry
  obtain ⟨hc,hcell⟩ := mem_of_mem_known hstored
  obtain ⟨hfield,hread⟩ := hentry
  change field = c.fieldName at hfield
  subst hfield
  by_cases hneeded : c.isEncrypted ∧ raw ≠ .none
  · obtain ⟨hencrypted,hraw⟩ := hneeded
    obtain ⟨sealer,hcipher,hencode⟩ := encode_of_mem hs h hc hcell
    have hany := hs.hasEncryptedColumns_of_mem hc hencrypted
    obtain ⟨k,hk⟩ := exists_cipher_otherKey hs h hkey hvalid hany
    obtain ⟨w,hw,hcontains⟩ := Column.contains_decode_of_encode hencrypted hencode hraw k
    have hv : v ≠ .none := by
      obtain ⟨context,rfl⟩ := sealing_isSome hany hcipher
      have hsalt := salt_eq_of_mem (nodup_names_encode hs h) (salt_mem_encode hany h)
      obtain ⟨u,hu,hcontainsu⟩ := Column.contains_decode_of_encode hencrypted hencode hraw context
      rw [opened_of_sealed hencrypted hraw (cipher_of_salt hsalt hcipher)] at hread
      cases hu.symm.trans hread
      exact hcontainsu.ne_none
    exact ⟨(c.fieldName,w),⟨rfl,(opened_of_sealed hencrypted hraw hk).trans hw⟩,
      .garbled hc ⟨hencrypted,hv⟩ hcontains⟩
  · rw [opened_of_plain hneeded none] at hread
    refine ⟨(c.fieldName,v),⟨rfl,(opened_of_plain hneeded none).trans hread⟩,.kept hc ?_⟩
    rintro ⟨hencrypted,hv⟩
    have hraw : raw = .none := not_not.mp fun hraw => hneeded ⟨hencrypted,hraw⟩
    subst hraw
    cases hread
    exact hv rfl

theorem exists_misreads (hs : e.schema.Sound)
    (h : encode ring e salt includeCounted valueOf = .ok row)
    (hkey : other.resolve { e with key := tableKey } = .ok key)
    (hvalid : other.algorithm.keySize ≤ key.length) {stored : List (Column × Value)}
    (hstored : ∀ p ∈ stored, p ∈ known e.schema row) {entries : List (Text × Value)}
    (hentries : List.Forall₂ (Reads ring e row) stored entries) : ∃ misreads,
      List.Forall₂ (Reads other { e with key := tableKey } row) stored misreads ∧
        List.Forall₂ (Misreads e.schema) entries misreads := by
  induction hentries with
  | nil => exact ⟨[],.nil,.nil⟩
  | cons hentry _ ih =>
    obtain ⟨misreads,hreads,hrelated⟩ := ih fun p hp => hstored p (List.mem_cons_of_mem _ hp)
    obtain ⟨misread,hread,hone⟩ :=
      exists_misread hs h hkey hvalid (hstored _ (List.mem_cons_self ..)) hentry
    exact ⟨misread :: misreads,.cons hread hreads,.cons hone hrelated⟩

/-- A row that was written with one key is decoded with every other one. The same fields are read in the
same order, plain values and nulls as they are, and in the place of each encrypted value some value of its
kind. -/
theorem decode_otherKey {ds : List TypeDeclaration} {catalog : Catalog}
    (hcatalog : Catalog.ofDeclarations ds = .ok catalog) {registry : Registry}
    (hregistry : registry.Reached catalog) (he : e ∈ registry)
    (h : encode ring e salt includeCounted valueOf = .ok row)
    (hkey : other.resolve { e with key := tableKey } = .ok key)
    (hvalid : other.algorithm.keySize ≤ key.length) :
    ∃ values misreads, row.decode ring e = .ok values ∧
      row.decode other { e with key := tableKey } = .ok misreads ∧
      List.Forall₂ (Misreads e.schema) values misreads := by
  have hs := hregistry.sound hcatalog he
  have hnames := nodup_names_encode hs h
  obtain ⟨values,hvalues,_⟩ := decode_written hs h
  have hentries := (decode_eq_ok hs hnames).mp hvalues
  obtain ⟨misreads,hreads,hrelated⟩ := exists_misreads hs h hkey hvalid (fun _ hp => hp) hentries
  have hsame : Schema.Sound (RegistryEntry.schema { e with key := tableKey }) := hs
  exact ⟨values,misreads,hvalues,(decode_eq_ok hsame hnames).mpr hreads,hrelated⟩

end Row

namespace Note

def otherKey : Bytes := [8, 7, 6, 5, 4, 3, 2, 1]

set_option maxRecDepth 2000 in
theorem decode_otherKey_note : ∃ row values misreads,
    Row.encode ring entry (List.replicate 8 5) true valueOf = .ok row ∧
      row.decode ring entry = .ok values ∧
      row.decode ring { entry with key := some otherKey } = .ok misreads ∧
      List.Forall₂ (Row.Misreads schema) values misreads := by
  obtain ⟨row,hrow⟩ : ∃ row, Row.encode ring entry (List.replicate 8 5) true valueOf = .ok row :=
    ⟨_,rfl⟩
  have hcatalog : Catalog.ofDeclarations [declaration] = .ok catalog := rfl
  have hkey : ring.resolve { entry with key := some otherKey } = .ok otherKey := rfl
  obtain ⟨values,misreads,h⟩ := Row.decode_otherKey hcatalog reached (List.mem_singleton_self entry)
    hrow hkey (by decide)
  exact ⟨row,values,misreads,hrow,h⟩

end Note
end SealedRows
