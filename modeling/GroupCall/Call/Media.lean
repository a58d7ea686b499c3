/-
# Frames on the tracks of a call

A send track encrypts our frames with our own keys, and its counter moves on; a receive
track decrypts frames with the keys of the session that it is bound to.
-/
import GroupCall.Call.Basic

namespace GroupCall

/-- Why a frame does not get through a track. -/
inductive MediaFault where
  /-- There is no such track. -/
  | noTrack
  /-- Nothing handles the frames of the track. -/
  | noCrypto
  /-- The frame could not be encrypted or decrypted. -/
  | crypto (error : CryptoError)
deriving DecidableEq, Repr

/-- A frame that got through a track. -/
inductive HandledFrame where
  /-- It was encrypted under an IV. -/
  | encrypted (iv : InitVector) (frame : List UInt8)
  /-- It was decrypted. -/
  | decrypted (plain : List UInt8)
deriving DecidableEq, Repr

namespace Call

/-- The media keys of a session, which may be gone. -/
def keysOf (c : Call) (serial : Nat) : KeyRing :=
  match c.sessions.values.find? fun s => s.serial = serial with
  | some session => session.keys
  | none => .new c.config.keyCapacity

/-- Replaces the encryptor of a track. -/
def setEncryptor (c : Call) (place : Nat) (e : FrameEncryptor) : Call :=
  let tracks := c.engine.tracks
  let all := tracks.all.modify place fun t => { t with crypto := some (.encrypt e) }
  { c with engine := { c.engine with tracks := { tracks with all := all } } }

/-- Passes the frame `bytes` through the track at a place. -/
def handleFrame (c : Call) (place : Nat) (bytes : List UInt8) :
    Call × Except MediaFault HandledFrame :=
  match (c.engine.tracks.get? place).map MediaTrack.crypto with
  | none => (c, .error .noTrack)
  | some none => (c, .error .noCrypto)
  | some (some (.decrypt iv serial)) =>
    (c, ((decryptFrame iv (c.keysOf serial) bytes).mapError .crypto).map .decrypted)
  | some (some (.encrypt e)) =>
    match e.encrypt c.keys bytes with
    | .error why => (c, .error (.crypto why))
    | .ok (frame, next) => (c.setEncryptor place next, .ok (.encrypted e.iv frame))

end Call
end GroupCall
