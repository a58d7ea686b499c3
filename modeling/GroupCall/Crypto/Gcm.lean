/-
# Authenticated encryption of frames

AES in Galois/counter mode with 12-byte nonces and 16-byte tags.  The tag is a polynomial
over the field of `2 ^ 128` elements, whose coefficients are the blocks of the associated
data, of the ciphertext and of the two lengths, masked with one encrypted block.
-/
import GroupCall.Crypto.Aes

namespace GroupCall.Crypto

namespace Gcm

/-- Multiplies two field elements; the first bit is the constant coefficient. -/
def mul (x y : BitVec 128) : BitVec 128 :=
  ((List.range 128).foldl
    (fun (acc : BitVec 128 × BitVec 128) i =>
      (if x.getMsbD i then acc.1 ^^^ acc.2 else acc.1,
        if acc.2.getLsbD 0 then (acc.2 >>> 1) ^^^ 0xe1000000000000000000000000000000#128
        else acc.2 >>> 1))
    ((0#128, y) : BitVec 128 × BitVec 128)).1

/-- Bytes as a field element, filled up with zeros behind. -/
def element (bytes : List UInt8) : BitVec 128 :=
  BitVec.ofNat 128 (ofBigEndian (bytes ++ List.replicate (16 - bytes.length) 0))

/-- The bytes of a block as a field element. -/
def ofBlock (b : Block) : BitVec 128 := BitVec.ofNat 128 (ofBigEndian (bytesOf b))

/-- A field element as a block. -/
def toBlock (x : BitVec 128) : Block :=
  ⟨(bigEndian 16 x.toNat).toArray, by simp⟩

/-- Absorbs `count` pieces of 16 bytes. -/
def absorb (h : BitVec 128) (y : BitVec 128) : Nat → List UInt8 → BitVec 128
  | 0, _ => y
  | count + 1, bytes => absorb h (mul (y ^^^ element (bytes.take 16)) h) count (bytes.drop 16)

/-- Absorbs bytes, the last piece filled up with zeros. -/
def absorbAll (h y : BitVec 128) (bytes : List UInt8) : BitVec 128 :=
  absorb h y ((bytes.length + 15) / 16) bytes

/-- The hash of associated data and ciphertext under the hash key. -/
def ghash (h : BitVec 128) (aad sealed : List UInt8) : BitVec 128 :=
  let y := absorbAll h (absorbAll h 0 aad) sealed
  let lengths := bigEndian 8 (8 * aad.length) ++ bigEndian 8 (8 * sealed.length)
  mul (y ^^^ element lengths) h

/-- The counter block of a nonce and a counter. -/
def counterBlock (nonce : Bytes 12) (counter : Nat) : Block :=
  ⟨(bytesOf nonce ++ bigEndian 4 counter).toArray, by simp⟩

/-- Combines bytes with the keystream from a counter on. -/
def keystreamXor (keys : List Block) (nonce : Bytes 12) (counter : Nat) :
    Nat → List UInt8 → List UInt8
  | 0, _ => []
  | count + 1, bytes =>
    let mask := bytesOf (Aes.encryptWith keys (counterBlock nonce counter))
    List.zipWith (· ^^^ ·) (bytes.take 16) mask ++
      keystreamXor keys nonce (counter + 1) count (bytes.drop 16)

/-- Combines all bytes with the keystream behind the tag's block. -/
def crypt (keys : List Block) (nonce : Bytes 12) (bytes : List UInt8) : List UInt8 :=
  keystreamXor keys nonce 2 ((bytes.length + 15) / 16) bytes

/-- The tag of associated data and ciphertext. -/
def tag (keys : List Block) (nonce : Bytes 12) (aad sealed : List UInt8) : List UInt8 :=
  let h := ofBlock (Aes.encryptWith keys (toBlock 0))
  let mask := ofBlock (Aes.encryptWith keys (counterBlock nonce 1))
  bytesOf (toBlock (ghash h aad sealed ^^^ mask))

/-- Encrypts a message and appends the tag. -/
def encrypt (key : Block) (nonce : Bytes 12) (aad message : List UInt8) : List UInt8 :=
  let keys := Aes.roundKeys key
  let body := crypt keys nonce message
  body ++ tag keys nonce aad body

/-- The length of a tag. -/
def tagLength : Nat := 16

/-- The message of a sealed text, if its tag is right. -/
def decrypt? (key : Block) (nonce : Bytes 12) (aad sealed : List UInt8) : Option (List UInt8) :=
  if sealed.length < tagLength then none
  else
    let keys := Aes.roundKeys key
    let body := sealed.take (sealed.length - tagLength)
    if tag keys nonce aad body = sealed.drop (sealed.length - tagLength) then
      some (crypt keys nonce body)
    else none

end Gcm
end GroupCall.Crypto
