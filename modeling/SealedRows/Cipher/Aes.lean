import SealedRows.Bytes

/-! # The Advanced Encryption Standard

One block of sixteen bytes under a key of sixteen, twenty-four or thirty-two bytes. Bytes are
polynomials over two elements modulo `x⁸ + x⁴ + x³ + x + 1`, the state is read column by column, and
every round substitutes each byte, rotates the rows, mixes the columns and adds a round key.
-/
namespace SealedRows.Aes

abbrev State := Vector UInt8 16

abbrev Word := Vector UInt8 4

def doubled (b : UInt8) : UInt8 := (b <<< 1) ^^^ (if 128 ≤ b then 0x1B else 0)

/-- The product of two bytes: the multiples of the first by the powers of `x` in the second. -/
def product (a b : UInt8) : UInt8 :=
  ((List.range 8).foldl
    (fun (sum, power) i => (if b.toNat.testBit i then sum ^^^ power else sum, doubled power))
    ((0 : UInt8), a)).1

/-- The inverse of a byte, its power 254; that of zero is zero. -/
def inverse (b : UInt8) : UInt8 :=
  let square (a : UInt8) := product a a
  let step (power : UInt8) := product (square power) b
  square (step (step (step (step (step (step b))))))

/-- The substitute of a byte: its inverse, mixed with four rotations of itself and a constant. -/
def substitute (b : UInt8) : UInt8 :=
  let a := inverse b
  let rotated (k : UInt8) := (a <<< k) ||| (a >>> (8 - k))
  a ^^^ rotated 1 ^^^ rotated 2 ^^^ rotated 3 ^^^ rotated 4 ^^^ 0x63

def substitutes : Vector UInt8 256 := Vector.ofFn fun i => substitute (UInt8.ofNat i)

def subByte (b : UInt8) : UInt8 := substitutes.get ⟨b.toNat, b.toNat_lt⟩

def rounds (keyWords : Nat) : Nat := keyWords + 6

/-- The constant that is added to every first word of a turn of the key schedule: a power of `x`. -/
def roundConstant (turn : Nat) : UInt8 := Nat.repeat doubled (turn - 1) 1

def wordAt (words : Array Word) (i : Nat) : Word := words.getD i (Vector.replicate 4 0)

def nextWord (keyWords : Nat) (words : Array Word) (i : Nat) : Word :=
  let last := wordAt words (i - 1)
  let mixed : Word :=
    if i % keyWords = 0 then
      Vector.ofFn fun j =>
        subByte last[(j.val + 1) % 4] ^^^ (if j.val = 0 then roundConstant (i / keyWords) else 0)
    else if 6 < keyWords ∧ i % keyWords = 4 then last.map subByte
    else last
  (wordAt words (i - keyWords)).zipWith (· ^^^ ·) mixed

def schedule (key : Bytes) : Array Word :=
  let n := key.length / 4
  let words : Array Word := Array.ofFn fun i : Fin n => Vector.ofFn fun j => key.getD (4 * i.val + j.val) 0
  (List.range' n (4 * (rounds n + 1) - n)).foldl (fun ws i => ws.push (nextWord n ws i)) words

def roundKey (words : Array Word) (round : Nat) : State :=
  Vector.ofFn fun i => (wordAt words (4 * round + i.val / 4))[i.val % 4]

def addKey (key s : State) : State := s.zipWith (· ^^^ ·) key

/-- Rotates row `r` by `r` columns. -/
def shiftRows (s : State) : State :=
  Vector.ofFn fun i => s[(4 * ((i.val / 4 + i.val % 4) % 4) + i.val % 4)]

def mixColumns (s : State) : State :=
  Vector.ofFn fun i =>
    let byteAt (k : Nat) : UInt8 := s[(4 * (i.val / 4) + (i.val + k) % 4)]
    doubled (byteAt 0) ^^^ doubled (byteAt 1) ^^^ byteAt 1 ^^^ byteAt 2 ^^^ byteAt 3

/-- Encrypts a block with the words of a key schedule. The last round mixes no columns. -/
def encrypt (words : Array Word) (keyWords : Nat) (block : State) : State :=
  let last := rounds keyWords
  let s := (List.range' 1 (last - 1)).foldl
    (fun s round => addKey (roundKey words round) (mixColumns (shiftRows (s.map subByte))))
    (addKey (roundKey words 0) block)
  addKey (roundKey words last) (shiftRows (s.map subByte))

end SealedRows.Aes
