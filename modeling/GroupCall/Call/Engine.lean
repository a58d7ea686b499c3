/-
# The media engine

An engine that negotiates and moves no media.  It hands out tracks with ascending numbers
and writes an offer with one section per track: a track that sends has sources of its own,
a video track a pair of them.  What may go wrong outside of it is given as faults.
-/
import GroupCall.Call.MediaTrack
import GroupCall.Text.Decimal
import GroupCall.Text.Line

namespace GroupCall

open Text

/-- The engine. -/
structure MediaEngine where
  /-- The tracks; the number of a track is its place. -/
  tracks : MediaTracks
  /-- The description of the other side. -/
  remote : Option String
  /-- How often the engine was closed. -/
  closes : Nat
  /-- How many tracks were ever asked for. -/
  requested : Nat
deriving DecidableEq

/-- What goes wrong, or is replaced, in an engine. -/
structure EngineFaults where
  /-- Why the track that is asked for as the given one cannot be had. -/
  track : Nat → Option String
  /-- What is offered instead, or why nothing can be. -/
  offer : Option (Except String String)
  /-- Why the description of the other side is refused. -/
  remote : Option String

/-- Nothing goes wrong. -/
def EngineFaults.none : EngineFaults := ⟨fun _ => .none, .none, .none⟩

namespace MediaEngine

/-- An engine without tracks. -/
def new : MediaEngine := ⟨.empty, none, 0, 0⟩

/-- The first source of an offer. -/
def firstSource : Nat := 1000

/-- The lines of an offer about the session as a whole. -/
def sessionLines (tracks : List MediaTrack) : List (List Char) :=
  ["v=0".toList, "o=- 0 2 IN IP4 127.0.0.1".toList, "s=-".toList, "t=0 0".toList,
    "a=group:BUNDLE ".toList ++
      joinWith ' ' (tracks.map fun t => decimal (t.mid.getD 0).toNat)]

/-- The opening line of a section, its address and its codec. -/
def openingLines : TrackKind → List (List Char)
  | .audio =>
    ["m=audio 9 UDP/TLS/RTP/SAVPF 111".toList, "c=IN IP4 0.0.0.0".toList,
      "a=rtpmap:111 opus/48000/2".toList]
  | .video =>
    ["m=video 9 UDP/TLS/RTP/SAVPF 96".toList, "c=IN IP4 0.0.0.0".toList,
      "a=rtpmap:96 VP8/90000".toList]

/-- A line that names a source. -/
def sourceLine (source : Nat) : List Char :=
  "a=ssrc:".toList ++ decimal source ++ " cname:headless".toList

/-- The lines about the sources of a track that sends. -/
def sourceLines (source : Nat) : TrackKind → List (List Char)
  | .audio => [sourceLine source]
  | .video =>
    ["a=ssrc-group:FID ".toList ++ decimal source ++ ' ' :: decimal (source + 500),
      sourceLine source, sourceLine (source + 500)]

/-- The section of a track. -/
def trackSection (source : Nat) (t : MediaTrack) : List (List Char) :=
  let mid := decimal (t.mid.getD 0).toNat
  openingLines t.kind ++ ["a=mid:".toList ++ mid, "a=".toList ++ t.direction.name.toList] ++
    if t.direction = .recvOnly then []
    else ("a=msid:local track".toList ++ mid) :: sourceLines source t.kind

/-- The first source that a track leaves to the next one. -/
def nextSource (source : Nat) (t : MediaTrack) : Nat :=
  if t.direction = .recvOnly then source
  else
    match t.kind with
    | .audio => source + 1
    | .video => source + 10

/-- The sections of tracks. -/
def sections (source : Nat) : List MediaTrack → List (List Char)
  | [] => []
  | t :: rest => trackSection source t ++ sections (nextSource source t) rest

/-- The offer of tracks. -/
def offerText (tracks : List MediaTrack) : String :=
  String.ofList (joinLines (sessionLines tracks ++ sections firstSource tracks))

/-- Adds a track; gives its place. -/
def addTrack (e : MediaEngine) (faults : EngineFaults) (kind : TrackKind) (direction : Direction) :
    MediaEngine × Except String Nat :=
  let counted := { e with requested := e.requested + 1 }
  match faults.track e.requested with
  | some reason => (counted, .error reason)
  | none =>
    let place := e.tracks.all.length
    ({ counted with tracks := e.tracks.add (.new (some (UInt32.ofNat place)) kind direction) },
      .ok place)

/-- Adds tracks until one cannot be had; gives their places. -/
def addTracks (e : MediaEngine) (faults : EngineFaults) :
    List (TrackKind × Direction) → MediaEngine × Except String (List Nat)
  | [] => (e, .ok [])
  | (kind, direction) :: rest =>
    match e.addTrack faults kind direction with
    | (e, .error reason) => (e, .error reason)
    | (e, .ok place) =>
      match addTracks e faults rest with
      | (e, .error reason) => (e, .error reason)
      | (e, .ok places) => (e, .ok (place :: places))

/-- The offer of the tracks that were handed out. -/
def offer (e : MediaEngine) (faults : EngineFaults) : Except String String :=
  match faults.offer with
  | some replaced => replaced
  | none =>
    if e.tracks.all.isEmpty then .error "no transceivers" else .ok (offerText e.tracks.all)

/-- Takes the description of the other side. -/
def setRemote (e : MediaEngine) (faults : EngineFaults) (text : String) :
    Except String MediaEngine :=
  match faults.remote with
  | some reason => .error reason
  | none => .ok { e with remote := some text }

/-- Drops every track and the description of the other side. -/
def close (e : MediaEngine) : MediaEngine :=
  { e with tracks := .empty, remote := none, closes := e.closes + 1 }

end MediaEngine
end GroupCall
