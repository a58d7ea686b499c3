/-
# Delivering frames

A receiver has one operation for each command and one for errors; every operation says
whether the command could be applied.  A frame reaches exactly one of them, and a malformed
frame reaches none.
-/
import GroupCall.Protocol.Inbound

namespace GroupCall

/-- The operations of a receiver whose state is a `σ`. -/
structure Receiver (σ : Type) where
  /-- A participant changed what it sends. -/
  onAv : Cid → AvFlags → σ → σ × Bool
  /-- We are in the call. -/
  onAnswer : Answer → σ → σ × Bool
  /-- A participant sends its media key. -/
  onKey : KeyId → Cid → List UInt8 → σ → σ × Bool
  /-- Low resolution video tracks are assigned. -/
  onVthumbs : List CidTrack → σ → σ × Bool
  /-- We are to send low resolution video. -/
  onVthumbStart : σ → σ × Bool
  /-- We are to stop sending low resolution video. -/
  onVthumbStop : σ → σ × Bool
  /-- High resolution video tracks are assigned. -/
  onHires : List CidTrack → σ → σ × Bool
  /-- We are to send high resolution video. -/
  onHiresStart : σ → σ × Bool
  /-- We are to stop sending high resolution video. -/
  onHiresStop : σ → σ × Bool
  /-- Participants ask to speak. -/
  onSpeakReqs : List Cid → σ → σ × Bool
  /-- A request to speak was withdrawn. -/
  onSpeakReqDel : Cid → σ → σ × Bool
  /-- Somebody may speak. -/
  onSpeakOn : Option Cid → Option TrackDescriptor → σ → σ × Bool
  /-- Somebody may no longer speak. -/
  onSpeakOff : Option Cid → σ → σ × Bool
  /-- A participant came. -/
  onPeerJoin : PeerInfo → σ → σ × Bool
  /-- A participant left. -/
  onPeerLeft : Cid → σ → σ × Bool
  /-- The relay ends our session. -/
  onBye : UInt32 → σ → σ × Bool
  /-- A user becomes a moderator. -/
  onModAdd : UserId → σ → σ × Bool
  /-- A user is no longer a moderator. -/
  onModDel : UserId → σ → σ × Bool
  /-- The relay reports an error. -/
  onError : Int → Option String → σ → σ × Bool

namespace Receiver

variable {σ : Type} (r : Receiver σ)

/-- Delivers a command. -/
def deliverCommand : Command → σ → σ × Bool
  | .av cid flags => r.onAv cid flags
  | .answer answer => r.onAnswer answer
  | .key id sender bytes => r.onKey id sender bytes
  | .vthumbs tracks => r.onVthumbs tracks
  | .vthumbStart => r.onVthumbStart
  | .vthumbStop => r.onVthumbStop
  | .hires tracks => r.onHires tracks
  | .hiresStart => r.onHiresStart
  | .hiresStop => r.onHiresStop
  | .speakReqs cids => r.onSpeakReqs cids
  | .speakReqDel cid => r.onSpeakReqDel cid
  | .speakOn cid audio => r.onSpeakOn cid audio
  | .speakOff cid => r.onSpeakOff cid
  | .peerJoin peer => r.onPeerJoin peer
  | .peerLeft cid => r.onPeerLeft cid
  | .bye reason => r.onBye reason
  | .modAdd user => r.onModAdd user
  | .modDel user => r.onModDel user

/-- Delivers a frame. -/
def deliver : InboundFrame → σ → σ × Bool
  | .command command => r.deliverCommand command
  | .error code text => r.onError code text

/-- Delivers a frame given as bytes; a malformed one is dropped. -/
def deliverBytes (input : List UInt8) (s : σ) : σ × Bool :=
  match InboundFrame.parse input with
  | .ok frame => r.deliver frame s
  | .error _ => (s, false)

end Receiver
end GroupCall
