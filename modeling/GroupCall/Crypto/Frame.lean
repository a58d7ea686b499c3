/-
# Encrypted media frames

A frame is a header of key number and counter, the ciphertext and the tag; the header is
authenticated.  The nonce is the IV of the track followed by the counter, so a track must
never use a counter twice under one key: the counter starts again with every newer key, and
encryption stops when all counters of a key are used up.
-/
import GroupCall.Crypto.Gcm
import GroupCall.Crypto.KeyRing
import GroupCall.Track

namespace GroupCall

open Crypto

namespace Frame

/-- The length of a header. -/
def headerLength : Nat := 8

/-- The nonce of an IV and a counter. -/
def nonce (iv : InitVector) (counter : UInt32) : Bytes 12 :=
  ⟨(bigEndian 8 iv.value.toNat ++ bigEndian 4 counter.toNat).toArray, by simp⟩

/-- The header of a key number and a counter. -/
def header (id : KeyId) (counter : UInt32) : List UInt8 :=
  bigEndian 4 id.toNat ++ bigEndian 4 counter.toNat

/-- The key number of a frame. -/
def keyId (frame : List UInt8) : KeyId := UInt32.ofNat (ofBigEndian (frame.take 4))

/-- The counter of a frame. -/
def counter (frame : List UInt8) : UInt32 :=
  UInt32.ofNat (ofBigEndian ((frame.drop 4).take 4))

/-- Opens a frame that is long enough with a given key. -/
def openWith (iv : InitVector) (key : MediaKey) (frame : List UInt8) : Option (List UInt8) :=
  Gcm.decrypt? key (nonce iv (counter frame)) (frame.take headerLength)
    (frame.drop headerLength)

end Frame

/-- What encrypts the frames of one send track. -/
structure FrameEncryptor where
  /-- The IV of the track. -/
  iv : InitVector
  /-- The number of the key that was used last. -/
  lastKey : Option KeyId
  /-- The counter of the next frame under that key. -/
  next : Nat
deriving DecidableEq, Repr

namespace FrameEncryptor

/-- The encryptor of a track that has sent nothing. -/
def new (iv : InitVector) : FrameEncryptor := ⟨iv, none, 0⟩

/-- The encryptor ready for a frame under a key: counters start again under a newer one. -/
def turnTo (e : FrameEncryptor) (id : KeyId) : FrameEncryptor :=
  match e.lastKey with
  | none => { e with lastKey := some id, next := 0 }
  | some last => if last < id then { e with lastKey := some id, next := 0 } else e

/-- Encrypts a frame with the current key of a ring; returns the frame and the encryptor
for the next one. -/
def encrypt (e : FrameEncryptor) (ring : KeyRing) (plain : List UInt8) :
    Except CryptoError (List UInt8 × FrameEncryptor) :=
  match ring.currentKey? with
  | none => .error .noCurrentKey
  | some (id, key) =>
    let e := e.turnTo id
    if UInt32.size ≤ e.next then .error (.counterExhausted id)
    else
      let counter := UInt32.ofNat e.next
      let header := Frame.header id counter
      .ok (header ++ Gcm.encrypt key (Frame.nonce e.iv counter) header plain,
        { e with next := e.next + 1 })

end FrameEncryptor

/-- Decrypts a frame of a sender whose keys are in a ring. -/
def decryptFrame (iv : InitVector) (ring : KeyRing) (frame : List UInt8) :
    Except CryptoError (List UInt8) :=
  if frame.length < Frame.headerLength + Gcm.tagLength then .error (.frameTooShort frame.length)
  else
    match ring.get? (Frame.keyId frame) with
    | none => .error (.unknownKeyId (Frame.keyId frame))
    | some key =>
      match Frame.openWith iv key frame with
      | some plain => .ok plain
      | none => .error .cipher

end GroupCall
