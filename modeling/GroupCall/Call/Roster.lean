/-
# Sessions and what carries them

A session refers to receive slots by number, one for each of its roles, and a bound slot
refers to the participant.  The operations here keep the two in step: whoever gives up a
slot in one place gives it up in the other.  Tracks are switched on while their slot is
bound and the participant sends what the slot carries; ours, while the relay wants them and
we want to send.
-/
import GroupCall.Call.Basic

namespace GroupCall
namespace Call

/-! ## Tracks -/

/-- Changes the tracks of the engine. -/
def withTracks (c : Call) (tracks : MediaTracks) : Call :=
  { c with engine := { c.engine with tracks := tracks } }

/-- Switches the track of a slot. -/
def switch (c : Call) (slot : Slot) (on : Bool) : Call :=
  c.withTracks (c.engine.tracks.switch slot.track on)

/-- Does something to the slots and their tracks, if there are slots. -/
def onSlots (c : Call) (f : Slots → MediaTracks → Slots × MediaTracks) : Call :=
  match c.slots with
  | none => c
  | some slots =>
    let done := f slots c.engine.tracks
    { c with slots := some done.1 }.withTracks done.2

/-- The receive slot of a number. -/
def recvSlot? (c : Call) (mid : Mid) : Option Slot := c.slots.bind fun slots => slots.recv.get? mid

/-- Releases a receive slot. -/
def releaseSlot (c : Call) (mid : Mid) : Call := c.onSlots fun slots => slots.release mid

/-- Switches our tracks: what we want to send, not on hold, and are allowed or asked to. -/
def applyLocalAv (c : Call) : Call :=
  match c.slots with
  | none => c
  | some slots =>
    ((c.switch slots.audio (c.av.audible && c.speaker = .active)).switch
      slots.vthumb (c.av.visible && c.vthumbWanted)).switch
      slots.hires (c.av.visible && c.hiresWanted)

/-- Switches the track that a session has in a role. -/
def applyRole (c : Call) (session : Session) (role : SlotRole) : Call :=
  match (session.slot role).bind c.recvSlot? with
  | none => c
  | some slot => c.switch slot (role.isSent session.av)

/-- Switches the tracks of a participant: what it sends, unless it is on hold. -/
def applyRemoteAv (c : Call) (cid : Cid) : Call :=
  match c.sessions.get? cid with
  | none => c
  | some session =>
    ((c.applyRole session .vthumb).applyRole session .hires).applyRole session .audio

/-! ## Sessions -/

/-- Changes what a participant sends. -/
def setAv (c : Call) (cid : Cid) (av : AvFlags) : Call :=
  { c with sessions := c.sessions.modify cid fun s => { s with av := av } }

/-- Adds the session of a participant; says whether it is new.  Of a known participant only
the flags are taken. -/
def addSession (c : Call) (peer : PeerInfo) : Call × Bool :=
  match c.sessions.get? peer.cid with
  | some session =>
    if session.av = peer.av then (c, false)
    else
      (((c.setAv peer.cid peer.av).tell (.avChanged peer.cid peer.av)).applyRemoteAv peer.cid,
        false)
  | none =>
    let session := Session.new c.nextSerial peer.cid peer.userId peer.av c.config.keyCapacity
    let c := c.tell (.sessionAdded peer.cid peer.userId)
    ({ c with
        sessions := c.sessions.insert peer.cid session
        nextSerial := c.nextSerial + 1 },
      true)

/-- Removes the session of a participant, if there is one, and releases its slots. -/
def removeSession (c : Call) (cid : Cid) : Call :=
  match c.sessions.get? cid with
  | none => c
  | some session =>
    let c := { c with sessions := c.sessions.erase cid }
    (session.mids.foldl releaseSlot c).tell (.sessionRemoved cid)

/-- Removes all sessions. -/
def clearSessions (c : Call) : Call := c.sessions.keys.foldl removeSession c

/-- Sets whether a participant asks to speak. -/
def setSpeakRequested (c : Call) (cid : Cid) (requested : Bool) : Call :=
  { c with sessions := c.sessions.modify cid fun s => { s with speakRequested := requested } }

/-! ## Roles -/

/-- Sets the slot of a role of a participant. -/
def setRole (c : Call) (cid : Cid) (role : SlotRole) (mid : Option Mid) : Call :=
  { c with sessions := c.sessions.modify cid fun s => s.setSlot role mid }

/-- Takes a role from a participant and releases its slot; says whether there is such a
participant. -/
def releaseRole (c : Call) (cid : Cid) (role : SlotRole) : Call × Bool :=
  match c.sessions.get? cid with
  | none => (c, false)
  | some session =>
    match session.slot role with
    | none => (c, true)
    | some mid => ((c.setRole cid role none).releaseSlot mid, true)

/-- Takes a receive slot out of every session. -/
def forgetSlot (c : Call) (mid : Mid) : Call :=
  { c with sessions := c.sessions.map fun s => s.forget mid }

/-- Binds the receive slot that a descriptor names to a role of a participant; says whether
there are such a slot and such a participant.  Whoever had the slot loses it, and the slot
that the role had is released. -/
def bindTrack (c : Call) (cid : Cid) (track : TrackDescriptor) (role : SlotRole) : Call × Bool :=
  match c.sessions.get? cid, c.slots with
  | some session, some slots =>
    match slots.assign track.mid cid track.iv session.serial c.engine.tracks with
    | none => (c, false)
    | some (_, slots, tracks) =>
      let c := ({ c with slots := some slots }.withTracks tracks).forgetSlot track.mid
      let c := (c.releaseRole cid role).1
      ((c.setRole cid role (some track.mid)).applyRemoteAv cid, true)
  | _, _ => (c, false)

/-- Binds one track of a list.  A high resolution track that reuses the one of the low
resolution takes its place. -/
def bindListed (c : Call) (role : SlotRole) (t : CidTrack) : Call × Bool :=
  match c.bindTrack t.cid t.track role with
  | (c, false) => (c, false)
  | (c, true) =>
    if role = .hires ∧ t.track.reuse then ((c.releaseRole t.cid .vthumb).1, true) else (c, true)

/-- Binds the tracks of a list; says whether all could be bound. -/
def bindTracks (c : Call) (role : SlotRole) : List CidTrack → Call × Bool
  | [] => (c, true)
  | t :: rest =>
    let first := c.bindListed role t
    let others := bindTracks first.1 role rest
    (others.1, first.2 && others.2)

/-! ## Users -/

/-- Makes a user a moderator, or takes that away. -/
def setModerator (c : Call) (user : UserId) (add : Bool) : Call :=
  let changed := c.moderators.contains user != add
  let moderators := if add then c.moderators.insert user () else c.moderators.erase user
  let c := { c with
    moderators := moderators
    isModerator := if user = c.us then add else c.isModerator }
  if changed then c.tell (.moderatorChanged user add) else c

end Call
end GroupCall
