/-
# From a full description to the compact one

The lines in front of the first media section are the common part.  Of each section that
opens with audio or video, the lines that no track owns become the template of its kind,
unless an earlier section of the kind has left one; the attributes that a track owns are
read into it.  Sections of other kinds are left out, and so are blank lines everywhere.
-/
import GroupCall.Sdp.Basic
import GroupCall.Text.Blank
import GroupCall.Text.Decimal

namespace GroupCall

namespace Sdp

open Text

/-- The attributes that belong to one track and never to a template. -/
def trackAttributes : List (List Char) :=
  ["sendrecv", "sendonly", "recvonly", "inactive", "mid", "msid", "ssrc", "ssrc-group"].map
    String.toList

/-- The name and the value of an attribute line; a name that stands alone has an empty
value. -/
def attribute? (line : List Char) : Option (List Char × List Char) :=
  (dropBeginning ['a', '='] line).map fun rest => (splitAtFirst ':' rest).getD (rest, [])

/-- Whether a line is an attribute that belongs to one track. -/
def isTrackLine (line : List Char) : Bool :=
  match attribute? line with
  | some (name, _) => trackAttributes.contains name
  | none => false

/-- Whether a line opens a media section. -/
def opensSection (line : List Char) : Bool := ['m', '='].isPrefixOf line

end Sdp

namespace SdpTrack

open Text

/-- A track of which nothing is known but its kind. -/
def blank (kind : TrackKind) : SdpTrack :=
  ⟨kind, 0, .sendRecv, none, none, [], []⟩

/-- Adds a source to a list.  A source that is already there takes the canonical name only
if it had none. -/
def addSsrc (id : UInt64) (cname : Option String) :
    List (UInt64 × String) → List (UInt64 × String)
  | [] => [(id, cname.getD "")]
  | (other, known) :: rest =>
    if other = id then (other, if known = "" then cname.getD "" else known) :: rest
    else (other, known) :: addSsrc id cname rest

/-- Reads one attribute of a section into the track; `mid` is the number read so far. -/
def readAttribute (line name value : List Char) (track : SdpTrack) (mid : Option Mid) :
    Except SdpError (SdpTrack × Option Mid) :=
  if name = "mid".toList then
    match readUInt32? (trim value) with
    | some n => .ok (track, some n)
    | none => .error (.invalidMid (String.ofList value))
  else if name = "msid".toList then
    let parts := (words value).map String.ofList
    .ok ({ track with streamId := parts[0]?, trackId := parts[1]? }, mid)
  else if name = "ssrc-group".toList then
    .ok ({ track with ssrcGroups := track.ssrcGroups ++ [String.ofList value] }, mid)
  else if name = "ssrc".toList then
    let parts := (splitAtFirst ' ' value).getD (value, [])
    match readUInt64? parts.1 with
    | some id =>
      let cname := (dropBeginning "cname:".toList parts.2).map String.ofList
      .ok ({ track with ssrcs := addSsrc id cname track.ssrcs }, mid)
    | none => .error (.invalidSsrc (String.ofList line))
  else
    match Direction.ofName? (String.ofList name) with
    | some direction => .ok ({ track with direction := direction }, mid)
    | none => .ok (track, mid)

/-- Reads the lines of a section into the track. -/
def readLines (track : SdpTrack) (mid : Option Mid) :
    List (List Char) → Except SdpError (SdpTrack × Option Mid)
  | [] => .ok (track, mid)
  | line :: rest =>
    match Sdp.attribute? line with
    | none => readLines track mid rest
    | some (name, value) =>
      match readAttribute line name value track mid with
      | .ok (track, mid) => readLines track mid rest
      | .error e => .error e

/-- The track that a media section describes. -/
def ofSection (kind : TrackKind) (lines : List (List Char)) : Except SdpError SdpTrack :=
  match readLines (blank kind) none lines with
  | .ok (track, some mid) => .ok { track with mid := mid }
  | .ok (_, none) => .error .missingMid
  | .error e => .error e

end SdpTrack

namespace Sdp

open Text

/-- Adds a media section with its opening line. -/
def addSection (s : Sdp) (opening : List Char) (body : List (List Char)) : Except SdpError Sdp :=
  match TrackKind.ofMediaLine? opening with
  | none => .ok s
  | some kind =>
    let lines := opening :: body
    let s := if (s.template kind).isSome then s
      else s.setTemplate kind (String.ofList (joinLines (lines.filter (!isTrackLine ·))))
    match SdpTrack.ofSection kind lines with
    | .ok track => .ok { s with tracks := s.tracks ++ [track] }
    | .error e => .error e

/-- Cuts lines into the part in front of the first section and the sections, each with its
opening line. -/
def sections : List (List Char) → List (List Char) × List (List Char × List (List Char))
  | [] => ([], [])
  | line :: rest =>
    let (front, more) := sections rest
    if opensSection line then ([], (line, front) :: more) else (line :: front, more)

/-- Adds media sections in their order. -/
def addSections (s : Sdp) : List (List Char × List (List Char)) → Except SdpError Sdp
  | [] => .ok s
  | (opening, body) :: rest =>
    match s.addSection opening body with
    | .ok s => addSections s rest
    | .error e => .error e

/-- The compact form of the lines of a description. -/
def ofLines (ls : List (List Char)) : Except SdpError Sdp :=
  match ls with
  | [] => .error .empty
  | _ =>
    let (front, more) := sections ls
    addSections ⟨String.ofList (joinLines front), none, none, []⟩ more

/-- The compact form of a full description. -/
def compress (full : String) : Except SdpError Sdp :=
  ofLines ((lines full.toList).filter fun line => !isAllBlank line)

end Sdp
end GroupCall
