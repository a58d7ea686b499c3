/-
# Compact session descriptions

A full session description repeats, for every track, the codecs and extensions of its kind.
The compact form keeps them once per kind, as a template, next to the lines of the session
as a whole; of each track it keeps only what differs from track to track.
-/
import GroupCall.Track
import GroupCall.Text.Line

namespace GroupCall

/-- What a session description says of one track beyond the template of its kind. -/
structure SdpTrack where
  /-- The kind, which selects the template. -/
  kind : TrackKind
  /-- The number of the track. -/
  mid : Mid
  /-- The direction. -/
  direction : Direction
  /-- The stream that the track belongs to. -/
  streamId : Option String
  /-- The name of the track in its stream. -/
  trackId : Option String
  /-- The sources with their canonical names, in the order of their first mention. -/
  ssrcs : List (UInt64 × String)
  /-- The groups of sources, as they are written. -/
  ssrcGroups : List String
deriving DecidableEq, Repr

/-- A session description as templates and tracks. -/
structure Sdp where
  /-- The lines of the session as a whole. -/
  common : String
  /-- The template of audio tracks. -/
  audioTemplate : Option String
  /-- The template of video tracks. -/
  videoTemplate : Option String
  /-- The tracks, in the order of their sections. -/
  tracks : List SdpTrack
deriving DecidableEq, Repr

/-- Why a session description is refused. -/
inductive SdpError where
  /-- There is no line in it. -/
  | empty
  /-- A media section has no number. -/
  | missingMid
  /-- The number of a media section is none. -/
  | invalidMid (value : String)
  /-- A source line has no number. -/
  | invalidSsrc (line : String)
  /-- A track has no template. -/
  | missingTemplate (kind : TrackKind)
  /-- A track cannot be sent in layers. -/
  | notSimulcastable (reason : String)
deriving DecidableEq, Repr

namespace SdpError

/-- The kind of an error. -/
def kind : SdpError → String
  | .empty => "Empty"
  | .missingMid => "MissingMid"
  | .invalidMid _ => "InvalidMid"
  | .invalidSsrc _ => "InvalidSsrc"
  | .missingTemplate _ => "MissingTemplate"
  | .notSimulcastable _ => "NotSimulcastable"

/-- An error in words. -/
def message : SdpError → String
  | .empty => "session description is empty"
  | .missingMid => "media section without a=mid"
  | .invalidMid value => "invalid a=mid value: " ++ value
  | .invalidSsrc line => "invalid ssrc line: " ++ line
  | .missingTemplate kind => "no " ++ kind.name ++ " template for track"
  | .notSimulcastable reason => "track is not eligible for simulcast: " ++ reason

end SdpError

namespace Sdp

/-- The template of a kind. -/
def template (s : Sdp) : TrackKind → Option String
  | .audio => s.audioTemplate
  | .video => s.videoTemplate

/-- Sets the template of a kind. -/
def setTemplate (s : Sdp) (kind : TrackKind) (text : String) : Sdp :=
  match kind with
  | .audio => { s with audioTemplate := some text }
  | .video => { s with videoTemplate := some text }

end Sdp
end GroupCall
