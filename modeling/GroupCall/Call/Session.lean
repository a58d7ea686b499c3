/-
# Sessions

A session is one remote participant as our side of the call knows it: what it sends, its
media keys, and the receive slots that carry its tracks, one for each role.  Its serial
number tells it from every other session of the call, also from an earlier one of the same
participant.
-/
import GroupCall.Crypto.KeyRing

namespace GroupCall

/-- What a receive slot carries for a participant. -/
inductive SlotRole where
  /-- Its sound. -/
  | audio
  /-- Its video in low resolution. -/
  | vthumb
  /-- Its video in high resolution. -/
  | hires
deriving DecidableEq, Repr

namespace SlotRole

/-- The name of a role. -/
def name : SlotRole → String
  | .audio => "Audio"
  | .vthumb => "Vthumb"
  | .hires => "Hires"

/-- The roles, in their order. -/
def all : List SlotRole := [.audio, .vthumb, .hires]

/-- Whether flags say that a role is sent. -/
def isSent (role : SlotRole) (av : AvFlags) : Bool :=
  match role with
  | .audio => av.audible
  | .vthumb => av.visible
  | .hires => av.visible

end SlotRole

/-- A remote participant. -/
structure Session where
  /-- The number of the session within the call. -/
  serial : Nat
  /-- The participant. -/
  cid : Cid
  /-- Its user. -/
  userId : UserId
  /-- What it sends. -/
  av : AvFlags
  /-- Its media keys. -/
  keys : KeyRing
  /-- The slot of its sound. -/
  audioSlot : Option Mid
  /-- The slot of its video in low resolution. -/
  vthumbSlot : Option Mid
  /-- The slot of its video in high resolution. -/
  hiresSlot : Option Mid
  /-- Whether it asks to speak. -/
  speakRequested : Bool
deriving DecidableEq

/-- What an observer sees of a session. -/
structure SessionInfo where
  /-- The participant. -/
  cid : Cid
  /-- Its user. -/
  userId : UserId
  /-- What it sends. -/
  av : AvFlags
  /-- Whether it asks to speak. -/
  speakRequested : Bool
  /-- The slot of its sound. -/
  audioSlot : Option Mid
  /-- The slot of its video in low resolution. -/
  vthumbSlot : Option Mid
  /-- The slot of its video in high resolution. -/
  hiresSlot : Option Mid
  /-- The number of its current media key. -/
  keyId : Option KeyId
deriving DecidableEq, Repr

namespace Session

/-- A participant of which no track and no key is known; `capacity` media keys are kept. -/
def new (serial : Nat) (cid : Cid) (userId : UserId) (av : AvFlags) (capacity : Nat) : Session :=
  ⟨serial, cid, userId, av, .new capacity, none, none, none, false⟩

/-- The slot of a role. -/
def slot (s : Session) : SlotRole → Option Mid
  | .audio => s.audioSlot
  | .vthumb => s.vthumbSlot
  | .hires => s.hiresSlot

/-- Sets the slot of a role. -/
def setSlot (s : Session) (role : SlotRole) (mid : Option Mid) : Session :=
  match role with
  | .audio => { s with audioSlot := mid }
  | .vthumb => { s with vthumbSlot := mid }
  | .hires => { s with hiresSlot := mid }

/-- The roles that a slot has. -/
def rolesOf (s : Session) (mid : Mid) : List SlotRole :=
  SlotRole.all.filter fun role => s.slot role = some mid

/-- Takes a slot out of every role. -/
def forget (s : Session) (mid : Mid) : Session :=
  (s.rolesOf mid).foldl (fun s role => s.setSlot role none) s

/-- The slots of all roles. -/
def mids (s : Session) : List Mid := SlotRole.all.filterMap s.slot

/-- What an observer sees. -/
def info (s : Session) : SessionInfo :=
  ⟨s.cid, s.userId, s.av, s.speakRequested, s.audioSlot, s.vthumbSlot, s.hiresSlot,
    s.keys.current⟩

@[simp] theorem slot_setSlot (s : Session) (role other : SlotRole) (mid : Option Mid) :
    (s.setSlot role mid).slot other = if other = role then mid else s.slot other := by
  cases role <;> cases other <;> rfl

end Session
end GroupCall
