/-
# What the relay makes of a call

Commands of the relay are applied at the stage to which they belong: the answer while we are
joining, what concerns sessions while we are in the call, the rest at any time.  News of a
relay connection count only if they come from the one that the call has at the moment.
-/
import GroupCall.Call.Request
import GroupCall.Protocol.Dispatch
import GroupCall.Sdp.Expand

namespace GroupCall
namespace Call

/-- Applies a command that belongs into the call. -/
def inCall (c : Call) (apply : Call → Call × Bool) : Call × Bool :=
  if c.state = .inProgress then apply c else (c, false)

/-! ## The answer -/

/-- Takes over what an answer says of us and the others. -/
def takeRoster (c : Call) (answer : Answer) : Call :=
  let c := { c with cid := answer.cid, startedAt := some answer.startedAt }
  let c := answer.moderators.foldl (fun c user => c.setModerator user true) c
  let c := answer.peers.foldl (fun c peer => (c.addSession peer).1) c
  answer.vthumbs.entries.foldl (fun c e => (c.bindTrack e.1 e.2 .vthumb).1) c

/-- Lets a participant speak: us at once, another one through its track. -/
def admitSpeaker (c : Call) (cid : Cid) (track : TrackDescriptor) : Call :=
  if c.isUs cid then c.setSpeaker .active else (c.bindTrack cid track .audio).1

/-- The description in an answer as text, after the engine has taken it. -/
def setRemote (c : Call) (w : Surroundings) (sdp : Sdp) : Call × Except CallError Unit :=
  match sdp.decompress with
  | .error e => (c, .error (.sdp e))
  | .ok text =>
    match c.engine.setRemote w.faults text with
    | .error reason => (c, .error (.media reason))
    | .ok engine => ({ c with engine := engine }, .ok ())

/-- We are in the call: everybody is sent our key. -/
def enter (c : Call) (w : Surroundings) : Call × Bool :=
  match c.setState .inProgress with
  | (c, .error _) => (c, false)
  | (c, .ok ()) => (c.applyLocalAv.rotateOrReport w, true)

/-- Applies an answer.  If its description is of no use it is reported and ignored. -/
def onAnswer (w : Surroundings) (answer : Answer) (c : Call) : Call × Bool :=
  if c.state = .joining then
    match c.setRemote w answer.sdp with
    | (c, .error e) => (c.report e, false)
    | (c, .ok ()) =>
      (answer.speakers.entries.foldl (fun c e => c.admitSpeaker e.1 e.2)
        (c.takeRoster answer)).enter w
  else (c, false)

/-! ## Sessions -/

/-- A participant changed what it sends. -/
def onAv (cid : Cid) (av : AvFlags) (c : Call) : Call × Bool :=
  c.inCall fun c =>
    if c.sessions.contains cid then
      (((c.setAv cid av).applyRemoteAv cid).tell (.avChanged cid av), true)
    else (c, false)

/-- A participant came: it is sent our key. -/
def onPeerJoin (w : Surroundings) (peer : PeerInfo) (c : Call) : Call × Bool :=
  c.inCall fun c =>
    match c.addSession peer with
    | (c, false) => (c, true)
    | (c, true) =>
      match c.sendKeyTo w peer.cid with
      | (c, .ok ()) => (c, true)
      | (c, .error e) => (c.report e, true)

/-- A participant left: it must not be able to decrypt what follows. -/
def onPeerLeft (w : Surroundings) (cid : Cid) (c : Call) : Call × Bool :=
  c.inCall fun c =>
    if c.sessions.contains cid then ((c.removeSession cid).rotateOrReport w, true)
    else (c, false)

/-- A participant sends its media key. -/
def onKey (w : Surroundings) (id : KeyId) (sender : Cid) (bytes : List UInt8) (c : Call) :
    Call × Bool :=
  c.inCall fun c =>
    match c.sessions.get? sender with
    | none => (c, false)
    | some session =>
      match c.takeKey w id session bytes with
      | (c, .ok ()) => (c, true)
      | (c, .error e) => (c.report e, false)

/-! ## Speaking -/

/-- A participant asks to speak.  If it is us, our own request has reached the relay. -/
def noteSpeakRequest (c : Call) (cid : Cid) : Call :=
  if c.isUs cid then if c.speaker = .none then c.setSpeaker .pending else c
  else c.setSpeakRequested cid true

/-- Participants ask to speak. -/
def onSpeakReqs (cids : List Cid) (c : Call) : Call × Bool :=
  c.inCall fun c => ((cids.foldl noteSpeakRequest c).tell (.speakRequests cids), true)

/-- A request to speak was withdrawn. -/
def onSpeakReqDel (cid : Cid) (c : Call) : Call × Bool :=
  if c.isUs cid then (if c.speaker = .pending then c.setSpeaker .none else c, true)
  else (c.setSpeakRequested cid false, c.sessions.contains cid)

/-- We may speak, or no longer. -/
def speak (c : Call) (state : SpeakerState) : Call := (c.setSpeaker state).applyLocalAv

/-- Somebody may speak: we, unless another participant is named, whose track is then
bound. -/
def onSpeakOn (cid : Option Cid) (audio : Option TrackDescriptor) (c : Call) : Call × Bool :=
  c.inCall fun c =>
    match cid.filter fun cid => !c.isUs cid with
    | none => (c.speak .active, true)
    | some cid =>
      match audio with
      | none => (c, false)
      | some track =>
        match c.bindTrack cid track .audio with
        | (c, false) => (c, false)
        | (c, true) => (c.setSpeakRequested cid false, true)

/-- Somebody may no longer speak: we, unless another participant is named. -/
def onSpeakOff (cid : Option Cid) (c : Call) : Call × Bool :=
  match cid.filter fun cid => !c.isUs cid with
  | none => (c.speak .none, true)
  | some cid => c.releaseRole cid .audio

/-! ## The end -/

/-- The relay reports an error, which ends our participation. -/
def onError (code : Int) (text : Option String) (c : Call) : Call × Bool :=
  let text := text.getD ""
  (((c.tell (.relayError code text)).report (.relay code text)).leave (.error code), true)

/-- How a call takes the commands of its relay. -/
def receiver (w : Surroundings) : Receiver Call where
  onAv := onAv
  onAnswer := onAnswer w
  onKey := onKey w
  onVthumbs := fun tracks c => c.inCall fun c => c.bindTracks .vthumb tracks
  onVthumbStart := fun c => ({ c with vthumbWanted := true }.applyLocalAv, true)
  onVthumbStop := fun c => ({ c with vthumbWanted := false }.applyLocalAv, true)
  onHires := fun tracks c => c.inCall fun c => c.bindTracks .hires tracks
  onHiresStart := fun c => ({ c with hiresWanted := true }.applyLocalAv, true)
  onHiresStop := fun c => ({ c with hiresWanted := false }.applyLocalAv, true)
  onSpeakReqs := onSpeakReqs
  onSpeakReqDel := onSpeakReqDel
  onSpeakOn := onSpeakOn
  onSpeakOff := onSpeakOff
  onPeerJoin := onPeerJoin w
  onPeerLeft := onPeerLeft w
  onBye := fun reason c => (c.leave (.relayShutdown reason), true)
  onModAdd := fun user c => (c.setModerator user true, true)
  onModDel := fun user c => (c.setModerator user false, true)
  onError := onError

/-! ## News of the relay connection -/

/-- The reason for which a failed connection ends our participation. -/
def endedBy : RelayError → TermCode
  | .retriesExhausted _ => .retriesExhausted
  | .aborted => .retriesExhausted
  | _ => .signalingFailure

/-- Takes the news of our relay connection. -/
def onNews (c : Call) (w : Surroundings) : RelayNews → Call
  | .stateChanged .connected =>
    match c.linkUp w with
    | (c, .ok ()) => c
    | (c, .error e) => (c.report e).leave .signalingFailure
  | .stateChanged .disconnected => c.linkLost
  | .stateChanged _ => c
  | .frame frame => ((receiver w).deliver frame c).1
  | .failed error => (c.report (.connection error)).leave (endedBy error)
  | .closed => c.leave .signalingFailure

/-- Takes an event of some relay connection; only those of ours count. -/
def onRelayEvent (c : Call) (w : Surroundings) (event : RelayEvent) : Call :=
  if c.relay = some event.connection then c.onNews w event.news else c

end Call
end GroupCall
