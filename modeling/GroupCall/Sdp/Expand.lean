/-
# From the compact description to a full one

Behind the common part every track is written as the template of its kind, followed by the
lines of its own: number, direction, stream, groups and sources.
-/
import GroupCall.Sdp.Basic
import GroupCall.Text.Decimal

namespace GroupCall

namespace SdpTrack

open Text

/-- The stream and track names of a track, if it belongs to a stream. -/
def msid? (track : SdpTrack) : Option (List Char) :=
  track.streamId.map fun sid => sid.toList ++ ' ' :: (track.trackId.getD "-").toList

/-- The lines of one source. -/
def ssrcLines (msid : Option (List Char)) (id : UInt64) (cname : String) : List (List Char) :=
  let start := "a=ssrc:".toList ++ decimal id.toNat
  (if cname = "" then [] else [start ++ " cname:".toList ++ cname.toList]) ++
    match msid with
    | some m => [start ++ " msid:".toList ++ m]
    | none => []

/-- The lines that a track adds to its template. -/
def ownLines (track : SdpTrack) : List (List Char) :=
  ["a=mid:".toList ++ decimal track.mid.toNat, "a=".toList ++ track.direction.name.toList] ++
    (match track.msid? with
      | some m => ["a=msid:".toList ++ m]
      | none => []) ++
    track.ssrcGroups.map (fun group => "a=ssrc-group:".toList ++ group.toList) ++
    track.ssrcs.flatMap fun s => ssrcLines track.msid? s.1 s.2

end SdpTrack

namespace Sdp

open Text

/-- The text of the media sections of some tracks. -/
def sectionChars (s : Sdp) : List SdpTrack → Except SdpError (List Char)
  | [] => .ok []
  | track :: rest =>
    match s.template track.kind with
    | none => .error (.missingTemplate track.kind)
    | some template =>
      match sectionChars s rest with
      | .ok chars => .ok (template.toList ++ joinLines track.ownLines ++ chars)
      | .error e => .error e

/-- The full form of a compact description. -/
def decompress (s : Sdp) : Except SdpError String :=
  match s.sectionChars s.tracks with
  | .ok chars => .ok (String.ofList (s.common.toList ++ chars))
  | .error e => .error e

end Sdp
end GroupCall
