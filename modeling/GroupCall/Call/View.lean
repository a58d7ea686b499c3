/-
# Calls as JSON

What can be seen of a call, as an application shows it.
-/
import GroupCall.Call.Basic
import GroupCall.Protocol.View

namespace GroupCall

/-- Why a participation ended, as JSON. -/
def TermCode.toJson : TermCode → Json
  | .userHangup => .text "UserHangup"
  | .signalingFailure => .text "SignalingFailure"
  | .retriesExhausted => .text "RetriesExhausted"
  | .relayShutdown reason => .ofMembers [("RelayShutdown", .uint32 reason)]
  | .error code => .ofMembers [("Error", .integer code)]

/-- A session as JSON. -/
def SessionInfo.toJson (i : SessionInfo) : Json :=
  .ofMembers
    [("cid", .uint32 i.cid), ("user_id", .text i.userId.name), ("av", i.av.toJson),
      ("speak_requested", .bool i.speakRequested),
      ("audio_slot", .optional .uint32 i.audioSlot),
      ("vthumb_slot", .optional .uint32 i.vthumbSlot),
      ("hires_slot", .optional .uint32 i.hiresSlot), ("key_id", .optional .uint32 i.keyId)]

/-- A call as JSON. -/
def CallSnapshot.toJson (s : CallSnapshot) : Json :=
  .ofMembers
    [("call_id", .text s.id.name), ("chat_id", .text s.chat.name), ("state", .text s.state.name),
      ("my_cid", .optional .uint32 s.cid), ("local_av", s.av.toJson),
      ("speaker_state", .text s.speaker.name), ("is_moderator", .bool s.isModerator),
      ("participants", .array (s.participants.map fun u => .text u.name)),
      ("sessions", .array (s.sessions.map SessionInfo.toJson)),
      ("key_id", .optional .uint32 s.keyId)]

/-- An error as JSON. -/
def CallError.toJson (e : CallError) : Json :=
  .ofMembers [("error", .text e.kind), ("message", .text e.message)]

/-- What an observer is told as JSON: the name of the news, and what they are about. -/
def CallNews.toJson : CallNews → Json
  | .stateChanged state => .array [.text "state", .text state.name]
  | .participantAdded user => .array [.text "participant_added", .text user.name]
  | .participantRemoved user => .array [.text "participant_removed", .text user.name]
  | .sessionAdded cid user =>
    .array [.text "session_added", .array [.uint32 cid, .text user.name]]
  | .sessionRemoved cid => .array [.text "session_removed", .uint32 cid]
  | .avChanged cid av => .array [.text "av", .array [.uint32 cid, av.toJson]]
  | .speakRequests cids => .array [.text "speak_requests", .array (cids.map .uint32)]
  | .speakerChanged state => .array [.text "speaker", .text state.name]
  | .moderatorChanged user isModerator =>
    .array [.text "moderator", .array [.text user.name, .bool isModerator]]
  | .relayError code text => .array [.text "relay_error", .array [.integer code, .text text]]
  | .failed error => .array [.text "error", error.toJson]
  | .terminated code =>
    .array [.text "terminated",
      .ofMembers [("code", code.toJson), ("by_user", .bool code.isUserInitiated)]]

/-- The user of a participant. -/
def CallSnapshot.userOf? (s : CallSnapshot) (cid : Cid) : Option UserId :=
  (s.sessions.find? fun i => i.cid = cid).map SessionInfo.userId

end GroupCall
