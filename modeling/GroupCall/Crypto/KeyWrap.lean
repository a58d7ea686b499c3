/-
# Media keys and their wrapping

A media key is sent to each participant encrypted under a key that only the two share: the
secret of the curve, stretched by the key derivation under a fixed label.  A wrapped key is
one encrypted block; that a block says nothing about its content holds here because the
content is a random key.
-/
import GroupCall.Crypto.Aes
import GroupCall.Crypto.Error
import GroupCall.Crypto.Sha256
import GroupCall.Crypto.X25519

namespace GroupCall

open Crypto

/-- A symmetric key for media frames. -/
abbrev MediaKey := Block

/-- The secret of a long-term identity. -/
abbrev IdentitySecret := Bytes 32

/-- A key that two participants share. -/
structure PairwiseKey where
  /-- The bytes of the key. -/
  key : Block
deriving DecidableEq

namespace PairwiseKey

/-- The label that binds a derived key to its use. -/
def label : List UInt8 := "sfu-call pairwise media key v1".toUTF8.data.toList

/-- The first 16 bytes of a list, filled up with zeros. -/
def block (bytes : List UInt8) : Block := Vector.ofFn fun i => bytes.getD i.val 0

/-- The key that the owner of a secret shares with the owner of a public point. -/
def ofPoint (secret : IdentitySecret) (point : Bytes 32) : PairwiseKey :=
  ⟨block (((hkdf? (bytesOf (x25519 secret point)) none label 16)).getD [])⟩

/-- The key shared with the owner of a public key given as bytes. -/
def derive (secret : IdentitySecret) (bytes : List UInt8) : Except CryptoError PairwiseKey :=
  match sized? 32 bytes with
  | some point => .ok (ofPoint secret point)
  | none => .error (.invalidPublicKey bytes.length)

/-- Wraps a media key. -/
def wrapKey (shared : PairwiseKey) (plain : MediaKey) : MediaKey := Aes.encrypt shared.key plain

/-- Unwraps a media key. -/
def unwrapKey (shared : PairwiseKey) (wrapped : MediaKey) : MediaKey :=
  Aes.decrypt shared.key wrapped

/-- Bytes as a media key. -/
def keyOfBytes (bytes : List UInt8) : Except CryptoError MediaKey :=
  match sized? 16 bytes with
  | some key => .ok key
  | none => .error (.invalidKeySize 16 bytes.length)

/-- Wraps a key given as bytes. -/
def wrap (shared : PairwiseKey) (plain : List UInt8) : Except CryptoError MediaKey :=
  (keyOfBytes plain).map shared.wrapKey

/-- Unwraps a key given as bytes. -/
def unwrap (shared : PairwiseKey) (wrapped : List UInt8) : Except CryptoError MediaKey :=
  (keyOfBytes wrapped).map shared.unwrapKey

end PairwiseKey

/-- A send key bound to the call by the key of the call, if there is one. -/
def bindToCall (callKey : Option MediaKey) (plain : MediaKey) : MediaKey :=
  match callKey with
  | some key => xorBytes key plain
  | none => plain

end GroupCall
