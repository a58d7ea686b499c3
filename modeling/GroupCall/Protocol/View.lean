/-
# Frames as JSON

What a frame from the relay says, as an application shows it: the name of its command and
every field that was read, also one that has its default.
-/
import GroupCall.Json.View
import GroupCall.Protocol.Inbound

namespace GroupCall

/-- Flags as JSON. -/
def AvFlags.toJson (f : AvFlags) : Json := .nat f.bits.toNat

/-- A track as JSON. -/
def TrackDescriptor.toJson (t : TrackDescriptor) : Json :=
  .ofMembers [("mid", .uint32 t.mid), ("iv", .text t.iv.hex), ("reuse", .bool t.reuse)]

/-- The track of a participant as JSON. -/
def CidTrack.toJson (t : CidTrack) : Json :=
  .ofMembers [("cid", .uint32 t.cid), ("track", t.track.toJson)]

/-- Tracks by participant as JSON. -/
def trackTableJson (t : Table Cid TrackDescriptor) : Json :=
  .array (t.entries.map fun e => .array [.uint32 e.1, e.2.toJson])

/-- A participant as JSON. -/
def PeerInfo.toJson (p : PeerInfo) : Json :=
  .ofMembers [("cid", .uint32 p.cid), ("userId", .text p.userId.name), ("av", p.av.toJson)]

/-- An answer as JSON. -/
def Answer.toJson (a : Answer) : Json :=
  .ofMembers
    [("cid", .uint32 a.cid), ("t", .nat a.startedAt.toNat), ("sdp", a.sdp.toJson),
      ("peers", .array (a.peers.map PeerInfo.toJson)), ("speakers", trackTableJson a.speakers),
      ("vthumbs", trackTableJson a.vthumbs),
      ("mods", .array (a.moderators.map fun u => .text u.name))]

/-- The fields of a command as JSON. -/
def Command.fieldsJson : Command → Json
  | .av cid flags => .ofMembers [("cid", .uint32 cid), ("av", flags.toJson)]
  | .answer a => a.toJson
  | .key id sender bytes =>
    .ofMembers [("id", .uint32 id), ("from", .uint32 sender), ("key", .text (Text.hexBytes bytes))]
  | .vthumbs tracks => .ofMembers [("tracks", .array (tracks.map CidTrack.toJson))]
  | .vthumbStart => .ofMembers []
  | .vthumbStop => .ofMembers []
  | .hires tracks => .ofMembers [("tracks", .array (tracks.map CidTrack.toJson))]
  | .hiresStart => .ofMembers []
  | .hiresStop => .ofMembers []
  | .speakReqs cids => .ofMembers [("cids", .array (cids.map .uint32))]
  | .speakReqDel cid => .ofMembers [("cid", .uint32 cid)]
  | .speakOn cid audio =>
    .ofMembers
      [("cid", .optional .uint32 cid), ("audio", .optional TrackDescriptor.toJson audio)]
  | .speakOff cid => .ofMembers [("cid", .optional .uint32 cid)]
  | .peerJoin peer => peer.toJson
  | .peerLeft cid => .ofMembers [("cid", .uint32 cid)]
  | .bye reason => .ofMembers [("rsn", .uint32 reason)]
  | .modAdd user => .ofMembers [("userId", .text user.name)]
  | .modDel user => .ofMembers [("userId", .text user.name)]

/-- A frame as JSON. -/
def InboundFrame.toJson : InboundFrame → Json
  | .error code text => .ofMembers [("err", .integer code), ("msg", .optional .text text)]
  | .command c => .ofMembers [("cmd", .text c.name), ("fields", c.fieldsJson)]

end GroupCall
