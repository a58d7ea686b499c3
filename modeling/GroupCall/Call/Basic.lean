/-
# Calls

A call as one participant sees it: its stage, the participants and their sessions, our
tracks and theirs, our media key, and the relay connection.  Everything that a call does to
others is appended to its journal in the order in which it happens: what it tells its
observer, and what it asks of relay connections.  The journal is never read by the call
itself.

What an operation needs from outside is handed to it as `Surroundings`: the published state
of the connection, the directory of keys, fresh random values, and what goes wrong.
-/
import GroupCall.Call.Engine
import GroupCall.Call.KeyAgreement
import GroupCall.Call.Session
import GroupCall.Call.Slots
import GroupCall.Relay.Connection

namespace GroupCall

/-- How a call is set up. -/
structure CallConfig where
  /-- Which track of the offer is sent in layers. -/
  simulcastIndex : Nat
  /-- How many media keys of a sender are kept. -/
  keyCapacity : Nat
  /-- How many receive slots for video there are. -/
  videoSlots : Nat
  /-- How many receive slots for audio there are. -/
  audioSlots : Nat
  /-- How many low resolution streams are asked for on joining. -/
  vthumbsOnJoin : Option UInt32
deriving DecidableEq, Repr

/-- The configuration without special wishes. -/
def CallConfig.standard : CallConfig := ⟨1, 16, 8, 4, none⟩

/-- The tracks of a configuration: our video in low and in high resolution, our sound, and
the receive tracks. -/
def CallConfig.tracks (config : CallConfig) : List (TrackKind × Direction) :=
  [(.video, .sendRecv), (.video, .sendRecv), (.audio, .sendRecv)] ++
    List.replicate config.videoSlots (.video, .recvOnly) ++
    List.replicate config.audioSlots (.audio, .recvOnly)

/-- What the observer of a call is told. -/
inductive CallNews where
  /-- The stage changed. -/
  | stateChanged (state : CallState)
  /-- A user takes part. -/
  | participantAdded (user : UserId)
  /-- A user no longer takes part. -/
  | participantRemoved (user : UserId)
  /-- A participant is connected. -/
  | sessionAdded (cid : Cid) (user : UserId)
  /-- A participant is no longer connected. -/
  | sessionRemoved (cid : Cid)
  /-- A participant changed what it sends. -/
  | avChanged (cid : Cid) (av : AvFlags)
  /-- Participants ask to speak. -/
  | speakRequests (cids : List Cid)
  /-- Whether we may speak changed. -/
  | speakerChanged (state : SpeakerState)
  /-- A user became a moderator, or is none any more. -/
  | moderatorChanged (user : UserId) (isModerator : Bool)
  /-- The relay reported an error. -/
  | relayError (code : Int) (text : String)
  /-- Something that the call did on its own failed. -/
  | failed (error : CallError)
  /-- Our participation ended. -/
  | terminated (code : TermCode)
deriving DecidableEq, Repr

/-- Something that a call did. -/
inductive CallDeed where
  /-- It told its observer. -/
  | told (news : CallNews)
  /-- It asked for a relay connection to a URL. -/
  | sought (url : String)
  /-- It was given a relay connection to a URL. -/
  | connected (relay : Nat) (url : String)
  /-- It handed a request to a relay connection, which accepted it. -/
  | posted (relay : Nat) (request : RelayRequest)
  /-- It closed a relay connection and let go of it. -/
  | disconnected (relay : Nat)
  /-- It stopped further attempts of a relay connection. -/
  | aborted (relay : Nat)
deriving DecidableEq, Repr

/-- What surrounds a call while it does something. -/
structure Surroundings where
  /-- The published state of the relay connection. -/
  relay : RelayState
  /-- Whether the relay connection comes to its end while a request is handed to it. -/
  relayEnds : Bool
  /-- The public key of a user, if it is known and can be looked up. -/
  publicKey : UserId → Option (List UInt8)
  /-- The URL of the relay, or why there is none; nothing if the call is cancelled before
  there is an answer. -/
  url : Option (Except String String)
  /-- The number of a new relay connection to a URL, or why there is none. -/
  connect : String → Except RelayError Nat
  /-- Fresh IVs. -/
  ivs : SendIvs
  /-- A fresh media key. -/
  key : MediaKey
  /-- What goes wrong in the media engine. -/
  faults : EngineFaults

/-- What the relay connection says to a request.  Its published state has to allow it, and there
has to be somebody left to take it. -/
def Surroundings.answer (w : Surroundings) (request : RelayRequest) : Except RelayError Unit := do
  request.check w.relay
  if w.relayEnds then throw .closed

/-- A call. -/
structure Call where
  /-- The name of the call. -/
  id : CallId
  /-- The chat that it belongs to. -/
  chat : ChatId
  /-- Our user. -/
  us : UserId
  /-- How the call is set up. -/
  config : CallConfig
  /-- Our long-term secret. -/
  secret : IdentitySecret
  /-- The key of the call, if it has one. -/
  callKey : Option MediaKey
  /-- The stage of our participation. -/
  state : CallState
  /-- The users that take part, connected or not. -/
  participants : Table UserId Unit
  /-- The moderators. -/
  moderators : Table UserId Unit
  /-- Whether we are a moderator. -/
  isModerator : Bool
  /-- The connected participants. -/
  sessions : Table Cid Session
  /-- The number of the next session. -/
  nextSerial : Nat
  /-- Our own number, once the relay has given us one. -/
  cid : Cid
  /-- Our own media keys. -/
  keys : KeyRing
  /-- Our newest media key, before it was bound to the call. -/
  sendKey : Option (KeyId × MediaKey)
  /-- What we want to send. -/
  av : AvFlags
  /-- Whether we may speak. -/
  speaker : SpeakerState
  /-- The relay connection. -/
  relay : Option Nat
  /-- Our slots, once there are tracks. -/
  slots : Option Slots
  /-- What we offer, and the IVs of our tracks. -/
  offer : Option (Sdp × SendIvs)
  /-- Whether the relay wants our video in low resolution. -/
  vthumbWanted : Bool
  /-- Whether the relay wants our video in high resolution. -/
  hiresWanted : Bool
  /-- When the call started, in milliseconds. -/
  startedAt : Option UInt64
  /-- Whether what the call still does is to be given up. -/
  cancelled : Bool
  /-- The media engine. -/
  engine : MediaEngine
  /-- What the call has done, first thing first. -/
  journal : List CallDeed

/-- What can be seen of a call. -/
structure CallSnapshot where
  /-- The name of the call. -/
  id : CallId
  /-- The chat that it belongs to. -/
  chat : ChatId
  /-- The stage of our participation. -/
  state : CallState
  /-- Our own number. -/
  cid : Option Cid
  /-- What we want to send. -/
  av : AvFlags
  /-- Whether we may speak. -/
  speaker : SpeakerState
  /-- Whether we are a moderator. -/
  isModerator : Bool
  /-- The users that take part. -/
  participants : List UserId
  /-- The connected participants. -/
  sessions : List SessionInfo
  /-- The number of our current media key. -/
  keyId : Option KeyId
deriving DecidableEq, Repr

namespace Call

/-- A call in which nothing has happened. -/
def new (id : CallId) (chat : ChatId) (us : UserId) (config : CallConfig)
    (secret : IdentitySecret) (callKey : Option MediaKey) : Call where
  id := id
  chat := chat
  us := us
  config := config
  secret := secret
  callKey := callKey
  state := .initial
  participants := .empty
  moderators := .empty
  isModerator := false
  sessions := .empty
  nextSerial := 0
  cid := 0
  keys := .new config.keyCapacity
  sendKey := none
  av := .empty
  speaker := .none
  relay := none
  slots := none
  offer := none
  vthumbWanted := false
  hiresWanted := false
  startedAt := none
  cancelled := false
  engine := .new
  journal := []

/-- What can be seen of a call.  Our own number means something only in the call. -/
def snapshot (c : Call) : CallSnapshot where
  id := c.id
  chat := c.chat
  state := c.state
  cid := if c.state = .inProgress then some c.cid else none
  av := c.av
  speaker := c.speaker
  isModerator := c.isModerator
  participants := c.participants.keys
  sessions := c.sessions.values.map Session.info
  keyId := c.keys.current

/-! ## Deeds -/

/-- Enters a deed into the journal. -/
def record (c : Call) (deed : CallDeed) : Call := { c with journal := c.journal ++ [deed] }

/-- Tells the observer. -/
def tell (c : Call) (news : CallNews) : Call := c.record (.told news)

/-- Tells the observer what failed. -/
def report (c : Call) (error : CallError) : Call := c.tell (.failed error)

/-- Goes to another stage. -/
def setState (c : Call) (next : CallState) : Call × Except CallError Unit :=
  match c.state.transition next with
  | .ok state => ({ c with state := state }.tell (.stateChanged next), .ok ())
  | .error refused => (c, .error (.invalidTransition refused))

/-- Goes to another stage, if there is such a step. -/
def moveTo (c : Call) (next : CallState) : Call := (c.setState next).1

/-- Sets whether we may speak. -/
def setSpeaker (c : Call) (state : SpeakerState) : Call :=
  if c.speaker = state then c else { c with speaker := state }.tell (.speakerChanged state)

/-! ## Conditions -/

/-- Demands that the call is at a stage. -/
def require (c : Call) (operation : String) (state : CallState) : Except CallError Unit :=
  if c.state = state then .ok () else .error (.stateViolation operation c.state)

/-- Demands that we are a moderator. -/
def requireModerator (c : Call) : Except CallError Unit :=
  if c.isModerator then .ok () else .error .accessDenied

/-- Demands that the call was not cancelled. -/
def requireAlive (c : Call) : Except CallError Unit :=
  if c.cancelled then .error .closed else .ok ()

/-- The session of a participant, which has to be there. -/
def requireSession (c : Call) (cid : Cid) : Except CallError Session :=
  match c.sessions.get? cid with
  | some session => .ok session
  | none => .error (.noSession cid)

/-- The relay connection, which has to be there. -/
def requireRelay (c : Call) : Except CallError Nat :=
  match c.relay with
  | some relay => .ok relay
  | none => .error (.connection .notConnected)

/-- Whether a number is our own. -/
def isUs (c : Call) (cid : Cid) : Bool :=
  (c.state = .joining || c.state = .inProgress) && cid = c.cid

/-- The call after a relay connection accepted a request. -/
def post (c : Call) (relay : Nat) (request : RelayRequest) : Call :=
  c.record (.posted relay request)

end Call
end GroupCall
