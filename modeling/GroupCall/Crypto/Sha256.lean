/-
# SHA-256 and what is built on it

The hash function, the keyed hash HMAC and the key derivation HKDF over bytes.  The hash
works on 32-bit words: a padded message is cut into blocks of 16 words, each block is
stretched to 64 words by a recurrence, and each of these drives one round on eight working
words.
-/
import GroupCall.Crypto.Bytes

namespace GroupCall.Crypto

namespace Sha256

/-- The eight working words. -/
structure State where
  /-- The first word. -/
  a : UInt32
  /-- The second word. -/
  b : UInt32
  /-- The third word. -/
  c : UInt32
  /-- The fourth word. -/
  d : UInt32
  /-- The fifth word. -/
  e : UInt32
  /-- The sixth word. -/
  f : UInt32
  /-- The seventh word. -/
  g : UInt32
  /-- The eighth word. -/
  h : UInt32
deriving DecidableEq, Repr

/-- The working words before the first block. -/
def initial : State :=
  ⟨0x6a09e667, 0xbb67ae85, 0x3c6ef372, 0xa54ff53a, 0x510e527f, 0x9b05688c, 0x1f83d9ab,
    0x5be0cd19⟩

/-- The constant of each round. -/
def roundConstants : List UInt32 :=
  [0x428a2f98, 0x71374491, 0xb5c0fbcf, 0xe9b5dba5, 0x3956c25b, 0x59f111f1, 0x923f82a4,
    0xab1c5ed5, 0xd807aa98, 0x12835b01, 0x243185be, 0x550c7dc3, 0x72be5d74, 0x80deb1fe,
    0x9bdc06a7, 0xc19bf174, 0xe49b69c1, 0xefbe4786, 0x0fc19dc6, 0x240ca1cc, 0x2de92c6f,
    0x4a7484aa, 0x5cb0a9dc, 0x76f988da, 0x983e5152, 0xa831c66d, 0xb00327c8, 0xbf597fc7,
    0xc6e00bf3, 0xd5a79147, 0x06ca6351, 0x14292967, 0x27b70a85, 0x2e1b2138, 0x4d2c6dfc,
    0x53380d13, 0x650a7354, 0x766a0abb, 0x81c2c92e, 0x92722c85, 0xa2bfe8a1, 0xa81a664b,
    0xc24b8b70, 0xc76c51a3, 0xd192e819, 0xd6990624, 0xf40e3585, 0x106aa070, 0x19a4c116,
    0x1e376c08, 0x2748774c, 0x34b0bcb5, 0x391c0cb3, 0x4ed8aa4a, 0x5b9cca4f, 0x682e6ff3,
    0x748f82ee, 0x78a5636f, 0x84c87814, 0x8cc70208, 0x90befffa, 0xa4506ceb, 0xbef9a3f7,
    0xc67178f2]

/-- Turns a word to the right by `n` bits, for `n` from 1 to 31. -/
def rotr (x n : UInt32) : UInt32 := (x >>> n) ||| (x <<< (32 - n))

/-- The small function of the recurrence on the word fifteen places back. -/
def smallSigma0 (x : UInt32) : UInt32 := rotr x 7 ^^^ rotr x 18 ^^^ (x >>> 3)

/-- The small function of the recurrence on the word two places back. -/
def smallSigma1 (x : UInt32) : UInt32 := rotr x 17 ^^^ rotr x 19 ^^^ (x >>> 10)

/-- The word that follows sixteen words. -/
def nextWord (window : List UInt32) : UInt32 :=
  smallSigma1 (window.getD 14 0) + window.getD 9 0 + smallSigma0 (window.getD 1 0) +
    window.getD 0 0

/-- The first `count` words that a window of sixteen words starts. -/
def schedule : Nat → List UInt32 → List UInt32
  | 0, _ => []
  | count + 1, window =>
    window.getD 0 0 :: schedule count (window.drop 1 ++ [nextWord window])

/-- One round, with the sum of its constant and its word. -/
def round (s : State) (kw : UInt32) : State :=
  let s1 := rotr s.e 6 ^^^ rotr s.e 11 ^^^ rotr s.e 25
  let ch := (s.e &&& s.f) ^^^ (~~~s.e &&& s.g)
  let t1 := s.h + s1 + ch + kw
  let s0 := rotr s.a 2 ^^^ rotr s.a 13 ^^^ rotr s.a 22
  let maj := (s.a &&& s.b) ^^^ (s.a &&& s.c) ^^^ (s.b &&& s.c)
  ⟨t1 + (s0 + maj), s.a, s.b, s.c, s.d + t1, s.e, s.f, s.g⟩

/-- Adds two states word by word. -/
def State.add (s t : State) : State :=
  ⟨s.a + t.a, s.b + t.b, s.c + t.c, s.d + t.d, s.e + t.e, s.f + t.f, s.g + t.g, s.h + t.h⟩

/-- The state behind a block of sixteen words. -/
def compress (s : State) (block : List UInt32) : State :=
  s.add ((List.zipWith (· + ·) roundConstants (schedule 64 block)).foldl round s)

/-- The words that bytes write, four bytes each. -/
def wordsOf : List UInt8 → List UInt32
  | a :: b :: c :: d :: rest => UInt32.ofNat (ofBigEndian [a, b, c, d]) :: wordsOf rest
  | _ => []

/-- The state behind a number of blocks. -/
def compressBlocks (s : State) : Nat → List UInt32 → State
  | 0, _ => s
  | count + 1, words => compressBlocks (compress s (words.take 16)) count (words.drop 16)

/-- A message with its padding: a set bit, zeros up to eight bytes before a block ends, and
the length of the message in bits. -/
def pad (message : List UInt8) : List UInt8 :=
  message ++ 0x80 :: List.replicate ((119 - message.length % 64) % 64) 0 ++
    bigEndian 8 (8 * message.length)

/-- The words of a state. -/
def State.words (s : State) : List UInt32 := [s.a, s.b, s.c, s.d, s.e, s.f, s.g, s.h]

end Sha256

/-- The 32 bytes of the hash of a message. -/
def sha256 (message : List UInt8) : List UInt8 :=
  let padded := Sha256.pad message
  let final := Sha256.compressBlocks Sha256.initial (padded.length / 64) (Sha256.wordsOf padded)
  final.words.flatMap fun w => bigEndian 4 w.toNat

/-! ## Keyed hashing and key derivation -/

/-- The size of a block of the hash, in bytes. -/
def hashBlock : Nat := 64

/-- A key as one block: hashed if it is longer, and filled up with zeros. -/
def hmacBlock (key : List UInt8) : List UInt8 :=
  let short := if hashBlock < key.length then sha256 key else key
  short ++ List.replicate (hashBlock - short.length) 0

/-- The hash of a message under a key. -/
def hmac (key message : List UInt8) : List UInt8 :=
  let block := hmacBlock key
  sha256 (block.map (· ^^^ 0x5c) ++ sha256 (block.map (· ^^^ 0x36) ++ message))

namespace Hkdf

/-- The blocks of output key material from number `i` on; `previous` is the one before. -/
def blocks (prk info : List UInt8) : Nat → UInt8 → List UInt8 → List UInt8
  | 0, _, _ => []
  | count + 1, i, previous =>
    let block := hmac prk (previous ++ info ++ [i])
    block ++ blocks prk info count (i + 1) block

/-- The most bytes that can be derived. -/
def maxLength : Nat := 255 * 32

end Hkdf

/-- Derives `length` bytes from key material; none if that is more than 255 hashes.  An
absent salt counts as 32 zeros. -/
def hkdf? (key : List UInt8) (salt : Option (List UInt8)) (info : List UInt8) (length : Nat) :
    Option (List UInt8) :=
  if Hkdf.maxLength < length then none
  else
    let prk := hmac (salt.getD (List.replicate 32 0)) key
    some ((Hkdf.blocks prk info ((length + 31) / 32) 1 []).take length)

end GroupCall.Crypto
