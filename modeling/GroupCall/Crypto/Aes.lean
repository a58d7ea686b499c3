/-
# AES with 128-bit keys

The block cipher on strings of 16 bytes.  A block is a square of four columns; byte `r` of
column `c` stands at place `4 * c + r`.  The substitution is the inverse in the field of 256
elements followed by an affine map; both directions of it are tabulated once.
-/
import GroupCall.Crypto.Bytes

namespace GroupCall.Crypto

/-- A block of the cipher. -/
abbrev Block := Bytes 16

namespace Aes

/-! ## The field of 256 elements -/

/-- Multiplies by the element 2. -/
def double (a : UInt8) : UInt8 :=
  if a &&& 0x80 = 0 then a <<< 1 else (a <<< 1) ^^^ 0x1b

/-- Multiplies two elements, bit by bit of the second. -/
def mul (a b : UInt8) : UInt8 :=
  ((List.range 8).foldl
    (fun (acc : UInt8 × UInt8) i =>
      (if (b >>> UInt8.ofNat i) &&& 1 = 0 then acc.1 else acc.1 ^^^ acc.2, double acc.2))
    ((0, a) : UInt8 × UInt8)).1

/-- The inverse of an element, and zero for zero: its power of exponent 254. -/
def inverse (a : UInt8) : UInt8 :=
  let a2 := mul a a
  let a3 := mul a2 a
  let a12 := mul (mul a3 a3) (mul a3 a3)
  let a15 := mul a12 a3
  let a30 := mul a15 a15
  let a60 := mul a30 a30
  let a120 := mul a60 a60
  let a240 := mul a120 a120
  mul (mul a240 a12) a2

/-- Turns a byte to the left by `n` bits. -/
def rotl (a n : UInt8) : UInt8 := (a <<< n) ||| (a >>> (8 - n))

/-- What a byte is replaced by. -/
def substitute (a : UInt8) : UInt8 :=
  let b := inverse a
  b ^^^ rotl b 1 ^^^ rotl b 2 ^^^ rotl b 3 ^^^ rotl b 4 ^^^ 0x63

/-- What a byte was before it was replaced. -/
def restore (a : UInt8) : UInt8 :=
  inverse (rotl a 1 ^^^ rotl a 3 ^^^ rotl a 6 ^^^ 0x05)

/-- All replacements. -/
def substitutes : Array UInt8 := (Array.range 256).map fun i => substitute (UInt8.ofNat i)

/-- All replacements undone. -/
def restored : Array UInt8 := (Array.range 256).map fun i => restore (UInt8.ofNat i)

/-- Looks a replacement up. -/
def sub (a : UInt8) : UInt8 := substitutes.getD a.toNat 0

/-- Looks up what was replaced. -/
def unsub (a : UInt8) : UInt8 := restored.getD a.toNat 0

/-! ## Steps of a round -/

/-- Byte `r` of column `c`. -/
def at_ (b : Block) (c r : Nat) : UInt8 := (b.toArray).getD (4 * (c % 4) + r % 4) 0

/-- Builds a block from its bytes by column and row. -/
def build (f : Nat → Nat → UInt8) : Block := Vector.ofFn fun i => f (i.val / 4) (i.val % 4)

/-- Replaces every byte. -/
def subBytes (b : Block) : Block := b.map sub

/-- Undoes `subBytes`. -/
def unsubBytes (b : Block) : Block := b.map unsub

/-- Turns row `r` to the left by `r` places. -/
def shiftRows (b : Block) : Block := build fun c r => at_ b (c + r) r

/-- Undoes `shiftRows`. -/
def unshiftRows (b : Block) : Block := build fun c r => at_ b (c + 4 - r) r

/-- Multiplies every column by a circulant matrix, given by its first row. -/
def mixWith (k0 k1 k2 k3 : UInt8) (b : Block) : Block :=
  build fun c r =>
    mul k0 (at_ b c r) ^^^ mul k1 (at_ b c (r + 1)) ^^^ mul k2 (at_ b c (r + 2)) ^^^
      mul k3 (at_ b c (r + 3))

/-- Mixes the bytes of every column. -/
def mixColumns (b : Block) : Block := mixWith 2 3 1 1 b

/-- Undoes `mixColumns`. -/
def unmixColumns (b : Block) : Block := mixWith 14 11 13 9 b

/-! ## Keys of the rounds -/

/-- The key of the next round, for the constant of that round. -/
def nextKey (constant : UInt8) (k : Block) : Block :=
  let first (r : Nat) : UInt8 :=
    at_ k 0 r ^^^ sub (at_ k 3 (r + 1)) ^^^ (if r = 0 then constant else 0)
  build fun c r => (List.range c).foldl (fun acc i => acc ^^^ at_ k (i + 1) r) (first r)

/-- The keys of `count` rounds behind a key, with the first constant. -/
def laterKeys : Nat → UInt8 → Block → List Block
  | 0, _, _ => []
  | count + 1, constant, k =>
    let next := nextKey constant k
    next :: laterKeys count (double constant) next

/-- The key itself and the keys of the ten rounds. -/
def roundKeys (key : Block) : List Block := key :: laterKeys 10 1 key

/-! ## The cipher -/

/-- The rounds of encryption, with the keys that are left. -/
def encryptRounds (b : Block) : List Block → Block
  | [] => b
  | [last] => xorBytes (shiftRows (subBytes b)) last
  | k :: rest => encryptRounds (xorBytes (mixColumns (shiftRows (subBytes b))) k) rest

/-- The rounds of decryption, with the keys that are left. -/
def decryptRounds (b : Block) : List Block → Block
  | [] => b
  | [last] => xorBytes (unsubBytes (unshiftRows b)) last
  | k :: rest => decryptRounds (unmixColumns (xorBytes (unsubBytes (unshiftRows b)) k)) rest

/-- Encrypts a block under round keys. -/
def encryptWith (keys : List Block) (b : Block) : Block :=
  match keys with
  | [] => b
  | k :: rest => encryptRounds (xorBytes b k) rest

/-- Decrypts a block under round keys. -/
def decryptWith (keys : List Block) (b : Block) : Block :=
  match keys.reverse with
  | [] => b
  | k :: rest => decryptRounds (xorBytes b k) rest

/-- Encrypts a block. -/
def encrypt (key b : Block) : Block := encryptWith (roundKeys key) b

/-- Decrypts a block. -/
def decrypt (key b : Block) : Block := decryptWith (roundKeys key) b

end Aes
end GroupCall.Crypto
