/-
# Tracks

The kinds and directions of media tracks, the IV under which a track is encrypted, and the
descriptor by which the relay says which track carries whose media.
-/
import GroupCall.Identity
import GroupCall.Text.Hex

namespace GroupCall

/-- What a track carries. -/
inductive TrackKind where
  /-- Sound. -/
  | audio
  /-- Pictures. -/
  | video
deriving DecidableEq, Repr, Inhabited

namespace TrackKind

/-- The letter of a kind. -/
def letter : TrackKind → String
  | .audio => "a"
  | .video => "v"

/-- The kind of a letter. -/
def ofLetter? (s : String) : Option TrackKind :=
  if s = "a" then some .audio else if s = "v" then some .video else none

/-- The name of a kind. -/
def name : TrackKind → String
  | .audio => "Audio"
  | .video => "Video"

/-- The kind of the media section that a line opens. -/
def ofMediaLine? (line : List Char) : Option TrackKind :=
  if "m=audio".toList.isPrefixOf line then some .audio
  else if "m=video".toList.isPrefixOf line then some .video
  else none

end TrackKind

/-- Which way the media of a track flow, seen from us. -/
inductive Direction where
  /-- Both ways. -/
  | sendRecv
  /-- From us. -/
  | sendOnly
  /-- To us. -/
  | recvOnly
  /-- Neither way. -/
  | inactive
deriving DecidableEq, Repr, Inhabited

namespace Direction

/-- The name of a direction, which is also the name of its attribute. -/
def name : Direction → String
  | .sendRecv => "sendrecv"
  | .sendOnly => "sendonly"
  | .recvOnly => "recvonly"
  | .inactive => "inactive"

/-- The direction of a name. -/
def ofName? (s : String) : Option Direction :=
  if s = "sendrecv" then some .sendRecv
  else if s = "sendonly" then some .sendOnly
  else if s = "recvonly" then some .recvOnly
  else if s = "inactive" then some .inactive
  else none

@[simp] theorem ofName?_name (d : Direction) : ofName? d.name = some d := by
  cases d <;> decide

end Direction

/-- The 64-bit number that, with a frame counter, makes the nonces of a track. -/
structure InitVector where
  /-- The number. -/
  value : UInt64
deriving DecidableEq, Repr, Inhabited

namespace InitVector

/-- The IV as 16 hexadecimal digits. -/
def hex (iv : InitVector) : String := Text.hex64 iv.value

/-- The IV that 16 hexadecimal digits write. -/
def ofHex? (s : String) : Option InitVector := (Text.readHex64? s).map InitVector.mk

/-- The bytes of the IV, most significant first. -/
def bytes (iv : InitVector) : List UInt8 :=
  (List.range 8).map fun i => (iv.value >>> UInt64.ofNat (8 * (7 - i))).toUInt8

@[simp] theorem ofHex?_hex (iv : InitVector) : ofHex? iv.hex = some iv := by
  simp [ofHex?, hex, Text.readHex64?_hex64]

end InitVector

/-- What the relay says about a track that it assigns to a participant. -/
structure TrackDescriptor where
  /-- The track. -/
  mid : Mid
  /-- The IV of the participant's sender. -/
  iv : InitVector
  /-- Whether the track is one that already carries this participant. -/
  reuse : Bool
deriving DecidableEq, Repr

/-- A track descriptor for a given participant. -/
structure CidTrack where
  /-- The participant. -/
  cid : Cid
  /-- The track. -/
  track : TrackDescriptor
deriving DecidableEq, Repr

/-- The IVs of our three send tracks. -/
structure SendIvs where
  /-- The low resolution video track. -/
  vthumb : InitVector
  /-- The high resolution video track. -/
  hires : InitVector
  /-- The audio track. -/
  audio : InitVector
deriving DecidableEq, Repr

end GroupCall
