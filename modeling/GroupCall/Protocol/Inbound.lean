/-
# Frames from the relay

A frame is a JSON object.  One with an error code reports an error, whatever else it holds;
any other names a command, whose members are read in a fixed order, so that of several
faults the first in that order is reported.
-/
import GroupCall.Protocol.Fields
import GroupCall.Table

namespace GroupCall

/-- A participant as the relay announces it. -/
structure PeerInfo where
  /-- The number of the connection. -/
  cid : Cid
  /-- The user. -/
  userId : UserId
  /-- What the participant sends. -/
  av : AvFlags
deriving DecidableEq, Repr

/-- The answer of the relay to a request to join. -/
structure Answer where
  /-- Our own number in this call. -/
  cid : Cid
  /-- The description of the relay's side. -/
  sdp : Sdp
  /-- When the call started, in milliseconds. -/
  startedAt : UInt64
  /-- The participants. -/
  peers : List PeerInfo
  /-- The audio tracks of those who may speak. -/
  speakers : Table Cid TrackDescriptor
  /-- The low resolution video tracks that are already assigned to us. -/
  vthumbs : Table Cid TrackDescriptor
  /-- The moderators. -/
  moderators : List UserId
deriving DecidableEq, Repr

/-- A command from the relay. -/
inductive Command where
  /-- A participant changed what it sends. -/
  | av (cid : Cid) (flags : AvFlags)
  /-- We are in the call. -/
  | answer (answer : Answer)
  /-- A participant sends its media key, wrapped for us. -/
  | key (id : KeyId) (sender : Cid) (bytes : List UInt8)
  /-- Low resolution video tracks are assigned. -/
  | vthumbs (tracks : List CidTrack)
  /-- We are to send low resolution video. -/
  | vthumbStart
  /-- We are to stop sending low resolution video. -/
  | vthumbStop
  /-- High resolution video tracks are assigned. -/
  | hires (tracks : List CidTrack)
  /-- We are to send high resolution video. -/
  | hiresStart
  /-- We are to stop sending high resolution video. -/
  | hiresStop
  /-- Participants ask to speak. -/
  | speakReqs (cids : List Cid)
  /-- A request to speak was withdrawn. -/
  | speakReqDel (cid : Cid)
  /-- A participant, or we if none is named, may speak. -/
  | speakOn (cid : Option Cid) (audio : Option TrackDescriptor)
  /-- A participant, or we if none is named, may no longer speak. -/
  | speakOff (cid : Option Cid)
  /-- A participant came. -/
  | peerJoin (peer : PeerInfo)
  /-- A participant left. -/
  | peerLeft (cid : Cid)
  /-- The relay ends our session. -/
  | bye (reason : UInt32)
  /-- A user becomes a moderator. -/
  | modAdd (user : UserId)
  /-- A user is no longer a moderator. -/
  | modDel (user : UserId)
deriving DecidableEq, Repr

/-- The name of a command. -/
def Command.name : Command → String
  | .av _ _ => "AV"
  | .answer _ => "ANSWER"
  | .key _ _ _ => "KEY"
  | .vthumbs _ => "VTHUMBS"
  | .vthumbStart => "VTHUMB_START"
  | .vthumbStop => "VTHUMB_STOP"
  | .hires _ => "HIRES"
  | .hiresStart => "HIRES_START"
  | .hiresStop => "HIRES_STOP"
  | .speakReqs _ => "SPEAK_REQS"
  | .speakReqDel _ => "SPEAK_RQ_DEL"
  | .speakOn _ _ => "SPEAK_ON"
  | .speakOff _ => "SPEAK_OFF"
  | .peerJoin _ => "PEERJOIN"
  | .peerLeft _ => "PEERLEFT"
  | .bye _ => "BYE"
  | .modAdd _ => "MOD_ADD"
  | .modDel _ => "MOD_DEL"

/-- A frame from the relay. -/
inductive InboundFrame where
  /-- A command. -/
  | command (command : Command)
  /-- An error with its code, and its text if there is one. -/
  | error (code : Int) (text : Option String)
deriving DecidableEq, Repr

/-! ## Parts of commands -/

namespace Fields

/-- A participant with its user and flags. -/
def peer (f : Fields) : Except ProtocolError PeerInfo := do
  let cid ← f.uint32 "cid"
  let user ← f.text "userId"
  let av ← f.av "av"
  return ⟨cid, ⟨user⟩, av⟩

/-- A track.  Only some commands can mark it as reused. -/
def descriptor (f : Fields) (mayReuse : Bool) : Except ProtocolError TrackDescriptor := do
  let iv ← f.iv "iv"
  let reuse ← if mayReuse then f.optional "r" (f.uint32 "r") else .ok none
  let mid ← f.uint32 "mid"
  return ⟨mid, iv, reuse.getD 0 != 0⟩

/-- A track of a list, with its participant. -/
def listedTrack (f : Fields) (item : Json) : Except ProtocolError CidTrack := do
  let members ← f.as "tracks" .objects Json.object? item
  let entry : Fields := ⟨f.command, members⟩
  let cid ← entry.uint32 "cid"
  let track ← entry.descriptor true
  return ⟨cid, track⟩

/-- The tracks of a list. -/
def trackList (f : Fields) : Except ProtocolError (List CidTrack) := do
  let items ← f.array "tracks"
  items.mapM f.listedTrack

/-- A participant of a list. -/
def listedPeer (f : Fields) (item : Json) : Except ProtocolError PeerInfo := do
  let members ← f.as "peers" .objects Json.object? item
  Fields.peer ⟨f.command, members⟩

/-- The audio track of a speaker. -/
def speakerTrack (f : Fields) (value : Json) : Except ProtocolError TrackDescriptor := do
  let audio ← f.as "speakers" .audioTracks
    (fun v => (v.object?.bind (Json.member? "audio")).bind Json.object?) value
  Fields.descriptor ⟨f.command, audio⟩ false

/-- The low resolution video track of a participant. -/
def thumbnailTrack (f : Fields) (value : Json) : Except ProtocolError TrackDescriptor := do
  let track ← f.as "vthumbs" .tracks Json.object? value
  Fields.descriptor ⟨f.command, track⟩ false

/-- The tracks of an object whose keys are participants; an absent one has none. -/
def tracksByCid (f : Fields) (field : String)
    (track : Json → Except ProtocolError TrackDescriptor) :
    Except ProtocolError (Table Cid TrackDescriptor) := do
  let members ← f.optional field (f.object field)
  let entries ← (members.getD []).mapM fun m => do
    let cid ← f.cidKey field m.1
    let descriptor ← track m.2
    return (cid, descriptor)
  return Table.ofList entries

/-- The moderators; none if the list is absent. -/
def moderators (f : Fields) : Except ProtocolError (List UserId) := do
  let items ← f.optional "mods" (f.array "mods")
  (items.getD []).mapM fun item => (f.as "mods" .texts Json.text? item).map UserId.mk

/-- The answer to a request to join. -/
def answer (f : Fields) : Except ProtocolError Answer := do
  let sdp ← f.sdp "sdp"
  let items ← f.array "peers"
  let peers ← items.mapM f.listedPeer
  let speakers ← f.tracksByCid "speakers" f.speakerTrack
  let vthumbs ← f.tracksByCid "vthumbs" f.thumbnailTrack
  let moderators ← f.moderators
  let cid ← f.uint32 "cid"
  let startedAt ← f.uint64 "t"
  return ⟨cid, sdp, startedAt, peers, speakers, vthumbs, moderators⟩

/-- The permission to speak: of a participant with its track, or our own. -/
def speakOn (f : Fields) : Except ProtocolError Command := do
  let members ← f.optional "audio" (f.object "audio")
  let audio ← match members with
    | none => .ok none
    | some track => (Fields.descriptor ⟨f.command, track⟩ false).map some
  let cid ← f.optional "cid" (f.uint32 "cid")
  if cid.isSome && audio.isNone then .error (f.missing "audio") else .ok (.speakOn cid audio)

/-- A media key with its number and sender. -/
def mediaKey (f : Fields) : Except ProtocolError Command := do
  let bytes ← f.key "key"
  let id ← f.uint32 "id"
  let sender ← f.uint32 "from"
  return .key id sender bytes

/-- New flags of a participant. -/
def avChange (f : Fields) : Except ProtocolError Command := do
  let cid ← f.uint32 "cid"
  let flags ← f.av "av"
  return .av cid flags

end Fields

/-! ## Whole frames -/

/-- Reads a command of a given name. -/
def Command.read (name : String) (members : List (String × Json)) :
    Except ProtocolError Command :=
  let f : Fields := ⟨name, members⟩
  match name with
  | "AV" => f.avChange
  | "ANSWER" => f.answer.map .answer
  | "KEY" => f.mediaKey
  | "VTHUMBS" => f.trackList.map .vthumbs
  | "HIRES" => f.trackList.map .hires
  | "VTHUMB_START" => .ok .vthumbStart
  | "VTHUMB_STOP" => .ok .vthumbStop
  | "HIRES_START" => .ok .hiresStart
  | "HIRES_STOP" => .ok .hiresStop
  | "SPEAK_REQS" => (f.cids "cids").map .speakReqs
  | "SPEAK_RQ_DEL" => (f.uint32 "cid").map .speakReqDel
  | "SPEAK_ON" => f.speakOn
  | "SPEAK_OFF" => (f.optional "cid" (f.uint32 "cid")).map .speakOff
  | "PEERJOIN" => f.peer.map .peerJoin
  | "PEERLEFT" => (f.uint32 "cid").map .peerLeft
  | "BYE" => (f.uint32 "rsn").map .bye
  | "MOD_ADD" => (f.text "userId").map fun s => .modAdd ⟨s⟩
  | "MOD_DEL" => (f.text "userId").map fun s => .modDel ⟨s⟩
  | other => .error (.unknownCommand other)

namespace InboundFrame

/-- The code of an error frame. -/
def codeOf? (value : Json) : Option Int :=
  value.integer?.bind fun i => if -0x80000000 ≤ i ∧ i < 0x80000000 then some i else none

/-- Reads a frame from its members. -/
def ofMembers (members : List (String × Json)) : Except ProtocolError InboundFrame :=
  match Json.member? "err" members with
  | some code =>
    match codeOf? code with
    | some i => .ok (.error i ((Json.member? "msg" members).bind Json.text?))
    | none => .error (.wrongType "error" "err" .integer)
  | none =>
    match (Json.member? "a" members).bind Json.text? with
    | some name => (Command.read name members).map .command
    | none => .error .missingCommandName

/-- Reads a frame from its bytes. -/
def parse (input : List UInt8) : Except ProtocolError InboundFrame :=
  match Json.read? input with
  | none => .error .malformedJson
  | some (.object members) => ofMembers members
  | some _ => .error .notAnObject

end InboundFrame
end GroupCall
