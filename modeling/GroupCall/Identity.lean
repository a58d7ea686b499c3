/-
# Who and what takes part

The names under which users, chats and calls are known, the numbers that the relay gives
out, and the two small states that every participant has: the audio and video flags and the
permission to speak.
-/

namespace GroupCall

/-- The number that the relay gives to one participant's connection inside a call. -/
abbrev Cid := UInt32

/-- The number of a media key; it only ever grows for one sender. -/
abbrev KeyId := UInt32

/-- The number that names a track inside a session description. -/
abbrev Mid := UInt32

/-- The stable name of a user, independent of any call. -/
structure UserId where
  /-- The name as it is written. -/
  name : String
deriving DecidableEq, Repr, Inhabited

instance : LT UserId := ⟨fun a b => a.name < b.name⟩

instance : DecidableLT UserId := fun a b => inferInstanceAs (Decidable (a.name < b.name))

/-- The name of the chat that a call belongs to. -/
structure ChatId where
  /-- The name as it is written. -/
  name : String
deriving DecidableEq, Repr, Inhabited

/-- The name of a call within its chat. -/
structure CallId where
  /-- The name as it is written. -/
  name : String
deriving DecidableEq, Repr, Inhabited

instance : LT CallId := ⟨fun a b => a.name < b.name⟩

instance : DecidableLT CallId := fun a b => inferInstanceAs (Decidable (a.name < b.name))

/-! ## Audio and video flags -/

/-- What a participant sends, as a bit mask. -/
structure AvFlags where
  /-- The mask. -/
  bits : UInt8
deriving DecidableEq, Repr, Inhabited

namespace AvFlags

/-- No flag. -/
def empty : AvFlags := ⟨0⟩

/-- The bit of audio. -/
def audioBit : UInt8 := 0x01

/-- The bit of video. -/
def videoBit : UInt8 := 0x02

/-- The bit of a participant on hold. -/
def onHoldBit : UInt8 := 0x80

/-- Whether audio is sent. -/
def audio (f : AvFlags) : Bool := f.bits &&& audioBit != 0

/-- Whether video is sent. -/
def video (f : AvFlags) : Bool := f.bits &&& videoBit != 0

/-- Whether the participant is on hold. -/
def onHold (f : AvFlags) : Bool := f.bits &&& onHoldBit != 0

/-- Sets or clears the bits of a mask. -/
def setBits (f : AvFlags) (mask : UInt8) (on : Bool) : AvFlags :=
  if on then ⟨f.bits ||| mask⟩ else ⟨f.bits &&& ~~~mask⟩

/-- Switches audio. -/
def withAudio (f : AvFlags) (on : Bool) : AvFlags := f.setBits audioBit on

/-- Switches video. -/
def withVideo (f : AvFlags) (on : Bool) : AvFlags := f.setBits videoBit on

/-- Switches hold. -/
def withOnHold (f : AvFlags) (on : Bool) : AvFlags := f.setBits onHoldBit on

/-- The flags of audio and video, not on hold. -/
def ofAudioVideo (audio video : Bool) : AvFlags := (empty.withAudio audio).withVideo video

/-- The flags as letters, with a dash for what is not sent. -/
def text (f : AvFlags) : String :=
  (if f.audio then "A" else "-") ++ (if f.video then "V" else "-") ++
    (if f.onHold then "H" else "")

/-- Whether audio is to be heard: sent, and not on hold. -/
def audible (f : AvFlags) : Bool := f.audio && !f.onHold

/-- Whether video is to be seen: sent, and not on hold. -/
def visible (f : AvFlags) : Bool := f.video && !f.onHold

end AvFlags

/-! ## Speaking and leaving -/

/-- Whether we may send audio. -/
inductive SpeakerState where
  /-- Not asked for. -/
  | none
  /-- Asked for; a moderator has to decide. -/
  | pending
  /-- Granted. -/
  | active
deriving DecidableEq, Repr, Inhabited

/-- The name of a speaker state. -/
def SpeakerState.name : SpeakerState → String
  | .none => "None"
  | .pending => "Pending"
  | .active => "Active"

/-- Why our participation in a call ended. -/
inductive TermCode where
  /-- The user hung up. -/
  | userHangup
  /-- The relay connection could not be set up or kept. -/
  | signalingFailure
  /-- Reconnecting was given up or aborted. -/
  | retriesExhausted
  /-- The relay closed the session, with its reason. -/
  | relayShutdown (reason : UInt32)
  /-- The relay reported an error, with its code. -/
  | error (code : Int)
deriving DecidableEq, Repr

/-- Whether it was the user who ended it. -/
def TermCode.isUserInitiated : TermCode → Bool
  | .userHangup => true
  | _ => false

end GroupCall
