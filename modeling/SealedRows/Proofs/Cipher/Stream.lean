import Mathlib.Data.List.Basic
import Mathlib.Logic.Function.Iterate
import SealedRows.Proofs.Cipher.Keystream

/-! # One keystream for data of every length

The register after a block follows from the register before it, so the bytes of a keystream are numbered
once and for all, and the blocks that are made for some data begin with as many of them as the data need.
-/
namespace SealedRows

namespace Bytes
variable {a b c : Bytes} {stream other : Nat → UInt8}

/-- The first bytes of a keystream. -/
def start (stream : Nat → UInt8) (count : Nat) : Bytes := (List.range count).map stream

@[simp] theorem length_start (stream : Nat → UInt8) (count : Nat) : (start stream count).length = count := by
  simp [start]

theorem start_add (stream : Nat → UInt8) (m n : Nat) :
    start stream (m + n) = start stream m ++ start (fun i => stream (m + i)) n := by
  simp [start, List.range_add, Function.comp_def]

theorem added_append {d : Bytes} (h : a.length = c.length) :
    added (a ++ b) (c ++ d) = a.added c ++ added b d := List.zipWith_append h

theorem added_start_append (a b : Bytes) (stream : Nat → UInt8) :
    added (a ++ b) (start stream (a ++ b).length) =
      a.added (start stream a.length) ++ added b (start (fun i => stream (a.length + i)) b.length) := by
  rw [List.length_append, start_add, added_append (length_start stream a.length).symm]

theorem added_start_of_le {count : Nat} (h : a.length ≤ count) :
    a.added (start stream count) = a.added (start stream a.length) := by
  obtain ⟨rest,rfl⟩ := Nat.exists_eq_add_of_le h
  have hsplit := added_append (b := []) (d := start (fun i => stream (a.length + i)) rest)
    (length_start stream a.length).symm
  rw [← start_add, List.append_nil] at hsplit
  simpa [added] using hsplit

theorem added_comm (a b : Bytes) : a.added b = b.added a := by
  unfold added
  rw [List.zipWith_comm]
  simp only [UInt8.xor_comm]

/-- What is added to two byte strings falls out of their sum. -/
theorem added_added_added {a b c : List UInt8} (hb : a.length = b.length) (hc : a.length ≤ c.length) :
    added (added a c) (added b c) = added a b := by
  induction a generalizing b c with
  | nil => rfl
  | cons x a ih =>
    obtain ⟨y,b,rfl⟩ := List.exists_cons_of_length_eq_add_one hb.symm
    cases c with
    | nil => simp at hc
    | cons z c =>
      have hbyte : x ^^^ z ^^^ (y ^^^ z) = x ^^^ y := by
        rw [UInt8.xor_assoc, xor_left_comm z, UInt8.xor_self, UInt8.xor_zero]
      have htail := ih (by simpa using hb) (by simpa using hc)
      exact congrArg₂ List.cons hbyte htail

theorem added_inj_right {a b c : List UInt8} (hb : b.length = a.length) (hc : c.length = a.length)
    (h : added a b = added a c) : b = c := by
  rw [added_comm a, added_comm a] at h
  calc b = added (added b a) a := (added_added (by omega)).symm
    _ = added (added c a) a := by rw [h]
    _ = c := added_added (by omega)

theorem start_inj {count : Nat} (h : start stream count = start other count) {i : Nat} (hi : i < count) :
    stream i = other i := by
  have hbyte := congrArg (fun s : List UInt8 => s[i]?) h
  simpa [start, hi] using hbyte

end Bytes

/-! ## The bytes of a keystream -/

section
variable {n : Nat} (encrypt : Vector UInt8 n → Vector UInt8 n) (register : Vector UInt8 n)

def nextRegister : Vector UInt8 n := register.zipWith (· ^^^ ·) (encrypt register)

def streamByte (i : Nat) : UInt8 :=
  (encrypt ((nextRegister encrypt)^[i / n] register)).toList.getD (i % n) 0

theorem streamByte_add (hn : 0 < n) (i : Nat) :
    streamByte encrypt register (n + i) = streamByte encrypt (nextRegister encrypt register) i := by
  have hdiv : (n + i) / n = i / n + 1 := by rw [Nat.add_comm, Nat.add_div_right i hn]
  rw [streamByte, streamByte, hdiv, Nat.add_mod_left, Function.iterate_succ_apply]

theorem start_streamByte : Bytes.start (streamByte encrypt register) n = (encrypt register).toList := by
  apply List.ext_getElem
  · simp
  · intro i hi _
    have hin : i < n := by simpa using hi
    simp [Bytes.start, streamByte, Nat.div_eq_of_lt hin, Nat.mod_eq_of_lt hin, hin]

/-- Every block of the keystream is an encrypted register. -/
theorem start_streamByte_block (hn : 0 < n) (i : Nat) :
    Bytes.start (fun j => streamByte encrypt register (i * n + j)) n =
      (encrypt ((nextRegister encrypt)^[i] register)).toList := by
  induction i generalizing register with
  | zero =>
    simp only [Nat.zero_mul, Nat.zero_add]
    exact start_streamByte encrypt register
  | succ i ih =>
    have hnext : (fun j => streamByte encrypt register ((i + 1) * n + j)) =
        fun j => streamByte encrypt (nextRegister encrypt register) (i * n + j) := by
      funext j
      rw [← streamByte_add encrypt register hn, Nat.succ_mul, Nat.add_comm (i * n) n, Nat.add_assoc]
    rw [hnext, ih, Function.iterate_succ_apply]

theorem keystream_eq_start (hn : 0 < n) (count : Nat) :
    keystream encrypt count register = Bytes.start (streamByte encrypt register) (count * n) := by
  induction count generalizing register with
  | zero => simp [keystream, Bytes.start]
  | succ count ih =>
    have hrest : (fun i => streamByte encrypt register (n + i)) =
        streamByte encrypt (nextRegister encrypt register) := funext (streamByte_add encrypt register hn)
    rw [Nat.succ_mul, Nat.add_comm _ n, Bytes.start_add, hrest, ← ih, start_streamByte]
    rfl

end

def AddsStream (stream : Nat → UInt8) (operation : Bytes → Except CipherFault Bytes) : Prop :=
  ∀ data, operation data = .ok (data.added (.start stream data.length))

namespace AddsStream
variable {stream other : Nat → UInt8} {operation : Bytes → Except CipherFault Bytes}

/-- Where the same data give the same result, the keystreams agree. -/
theorem agree {operation' : Bytes → Except CipherFault Bytes} (h : AddsStream stream operation)
    (h' : AddsStream other operation') {data : Bytes} (hsame : operation data = operation' data) {i : Nat}
    (hi : i < data.length) : stream i = other i := by
  rw [h, h'] at hsame
  have hstart := Bytes.added_inj_right (by simp) (by simp) (Except.ok.inj hsame)
  exact Bytes.start_inj hstart hi

theorem unique (h : AddsStream stream operation) (h' : AddsStream other operation) : other = stream := by
  funext i
  let data : Bytes := List.replicate (i + 1) 0
  have hsame : operation data = operation data := rfl
  exact h'.agree h hsame (by simp [data])

theorem involutive (h : AddsStream stream operation) (data : Bytes) :
    ∃ out, operation data = .ok out ∧ out.length = data.length ∧ operation out = .ok data := by
  have hlength : (data.added (.start stream data.length)).length = data.length := by simp
  refine ⟨_,h data,hlength,?_⟩
  rw [h, hlength, Bytes.added_added (by simp)]

theorem append (h : AddsStream stream operation) (data more : Bytes) :
    ∃ out rest, operation data = .ok out ∧ operation (data ++ more) = .ok (out ++ rest) := by
  rw [h, h, Bytes.added_start_append]
  exact ⟨_,_,rfl,rfl⟩

theorem sum (h : AddsStream stream operation) {data data' : Bytes} (hlength : data.length = data'.length) :
    ∃ out out', operation data = .ok out ∧ operation data' = .ok out' ∧ out.added out' = data.added data' := by
  refine ⟨_,_,h data,h data',?_⟩
  rw [← hlength]
  exact Bytes.added_added_added hlength (by simp)

end AddsStream

namespace CipherContext
variable (c : CipherContext)

def appliedWith (encrypt : c.algorithm.Block → c.algorithm.Block) (data : Bytes) (ordinal : Int) :
    Except CipherFault Bytes :=
  let size := c.algorithm.blockSize
  (c.initialState ordinal).map fun _ =>
    data.added (keystream encrypt ((data.length + size - 1) / size) (c.register ordinal.toNat))

theorem applied_eq_appliedWith (data : Bytes) (ordinal : Int) :
    c.applied data ordinal = c.appliedWith (c.algorithm.encryption c.key) data ordinal := rfl

theorem encryption_take (a : Algorithm) (key : Bytes) : a.encryption (key.take a.keySize) = a.encryption key := by
  unfold Algorithm.encryption
  rw [List.take_take, Nat.min_self]

theorem addsStream_appliedWith (encrypt : c.algorithm.Block → c.algorithm.Block) {ordinal : Nat}
    (h : ordinal < 2 ^ (32 : Nat)) :
    AddsStream (streamByte encrypt (c.register ordinal)) fun data => c.appliedWith encrypt data ordinal := by
  intro data
  have hstate : c.initialState ordinal = .ok (c.register ordinal) := by
    rw [initialState, if_neg (by omega), if_neg (by omega)]
    rfl
  dsimp only
  rw [appliedWith, hstate]
  have hcover := le_blocks_mul c.algorithm data.length
  rw [Int.toNat_natCast, keystream_eq_start encrypt _ c.algorithm.blockSize_pos]
  simp only [Except.map, Bytes.added_start_of_le hcover]

/-- Whatever the encryption of blocks is, there is one keystream for each cipher, key as far as the cipher
reads it, salt and column, and data of every length are added its first bytes. Its blocks are the encrypted
registers, each of which is the sum of the one before and its block. So the length of data is kept, adding
the keystream again gives them back, longer data begin alike, and the sum of two results is the sum of what
was given. -/
theorem exists_keystream (cipher : (a : Algorithm) → Bytes → a.Block → a.Block) :
    (∃ stream : Algorithm → Bytes → Salt → Nat → Nat → UInt8, ∀ (c : CipherContext) (ordinal : Nat),
      ordinal < 2 ^ (32 : Nat) →
        let key := c.key.take c.algorithm.keySize
        let size := c.algorithm.blockSize
        let bytes := stream c.algorithm key c.salt ordinal
        let sealed := fun data => c.appliedWith (cipher c.algorithm key) data ordinal
        AddsStream bytes sealed ∧ (∀ other, AddsStream other sealed → other = bytes) ∧
          (∀ i, Bytes.start (fun j => bytes (i * size + j)) size =
            (cipher c.algorithm key ((nextRegister (cipher c.algorithm key))^[i] (c.register ordinal))).toList) ∧
          (∀ data, ∃ out, sealed data = .ok out ∧ out.length = data.length ∧ sealed out = .ok data) ∧
          (∀ data more, ∃ out rest, sealed data = .ok out ∧ sealed (data ++ more) = .ok (out ++ rest)) ∧
          ∀ data data' : Bytes, data.length = data'.length →
            ∃ out out', sealed data = .ok out ∧ sealed data' = .ok out' ∧ out.added out' = data.added data') ∧
    ∀ (c : CipherContext) (data : Bytes) (ordinal : Int), c.applied data ordinal =
      c.appliedWith (c.algorithm.encryption (c.key.take c.algorithm.keySize)) data ordinal := by
  constructor
  · refine ⟨fun a key salt ordinal => streamByte (cipher a key) (register ⟨a,key,salt⟩ ordinal),?_⟩
    intro c ordinal hordinal key size bytes sealed
    have hadds : AddsStream bytes sealed := c.addsStream_appliedWith (cipher c.algorithm key) hordinal
    have hblocks := start_streamByte_block (cipher c.algorithm key) (c.register ordinal) c.algorithm.blockSize_pos
    refine ⟨hadds,fun other h => hadds.unique h,hblocks,hadds.involutive,hadds.append,?_⟩
    intro data data' hlength
    exact hadds.sum hlength
  · intro c data ordinal
    rw [encryption_take, applied_eq_appliedWith]

end CipherContext

namespace LongKey

def salt : Salt := #v[8, 7, 6, 5, 4, 3, 2, 1]

def key : Bytes := List.replicate 24 5

/-- Two keys of which the cipher reads the same part encrypt alike. -/
theorem exists_common_keystream : 6 < 2 ^ (32 : Nat) ∧ ∃ stream,
    (AddsStream stream fun data => CipherContext.applied ⟨.tripleDes,key,salt⟩ data 6) ∧
      AddsStream stream fun data => CipherContext.applied ⟨.tripleDes,key ++ [1, 2],salt⟩ data 6 := by
  have hordinal : 6 < 2 ^ (32 : Nat) := by decide
  obtain ⟨⟨stream,hstream⟩,happlied⟩ := CipherContext.exists_keystream Algorithm.encryption
  obtain ⟨hshort,-⟩ := hstream ⟨.tripleDes,key,salt⟩ 6 hordinal
  obtain ⟨hlong,-⟩ := hstream ⟨.tripleDes,key ++ [1, 2],salt⟩ 6 hordinal
  simp only [happlied]
  exact ⟨hordinal,stream .tripleDes key salt 6,hshort,hlong⟩

end LongKey
end SealedRows
