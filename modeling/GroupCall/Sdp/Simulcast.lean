/-
# Sending a track in three layers

A video track with one source and one source of retransmissions is turned into three pairs
of such sources with consecutive numbers.  One group ties the three layers together and one
group per layer ties a source to its retransmissions.
-/
import GroupCall.Sdp.Basic
import GroupCall.Text.Blank
import GroupCall.Text.Decimal

namespace GroupCall

namespace SdpTrack

open Text

/-- The canonical name of a source of a list. -/
def cnameOf (id : UInt64) : List (UInt64 × String) → Option String
  | [] => none
  | (other, cname) :: rest => if other = id then some cname else cnameOf id rest

/-- The two sources that a group ties as a source and its retransmissions. -/
def readFid (group : String) : Except SdpError (UInt64 × UInt64) :=
  match words group.toList with
  | [tag, v, r] =>
    if tag = "FID".toList then
      match readUInt64? v with
      | none => .error (.invalidSsrc (String.ofList v))
      | some video =>
        match readUInt64? r with
        | none => .error (.invalidSsrc (String.ofList r))
        | some rtx => .ok (video, rtx)
    else .error (.notSimulcastable "ssrc group is not FID")
  | _ => .error (.notSimulcastable "ssrc group is not FID")

/-- A number in a group. -/
def numeral (id : UInt64) : List Char := decimal id.toNat

/-- The group that ties a source to its retransmissions. -/
def fidGroup (video rtx : UInt64) : String :=
  String.ofList ("FID ".toList ++ numeral video ++ ' ' :: numeral rtx)

/-- The group that ties three layers together. -/
def simGroup (a b c : UInt64) : String :=
  String.ofList ("SIM ".toList ++ numeral a ++ ' ' :: numeral b ++ ' ' :: numeral c)

/-- Three layers of a source and its retransmissions, with their canonical names. -/
def layers (track : SdpTrack) (video rtx : UInt64) (videoName rtxName : String) : SdpTrack :=
  { track with
    ssrcs := [(video, videoName), (rtx, rtxName), (video + 1, videoName), (rtx + 1, rtxName),
      (video + 2, videoName), (rtx + 2, rtxName)]
    ssrcGroups := [simGroup video (video + 1) (video + 2), fidGroup video rtx,
      fidGroup (video + 1) (rtx + 1), fidGroup (video + 2) (rtx + 2)] }

/-- Puts a video track with one pair of sources into three layers, in place: the track as it is
afterwards, and what came of it. -/
def munge (track : SdpTrack) : SdpTrack × Except SdpError Unit :=
  if track.kind ≠ .video then (track, .error (.notSimulcastable "not a video track"))
  else
    match track.ssrcs, track.ssrcGroups with
    | [_, _], [group] =>
      match readFid group with
      | .error e => (track, .error e)
      | .ok (video, rtx) =>
        match cnameOf video track.ssrcs, cnameOf rtx track.ssrcs with
        | some videoName, some rtxName => (track.layers video rtx videoName rtxName, .ok ())
        | _, _ => (track, .error (.notSimulcastable "FID group names unknown ssrcs"))
    | _, _ =>
      (track, .error (.notSimulcastable "expected exactly one video ssrc and one FID ssrc"))

end SdpTrack

namespace Sdp

/-- Puts the track of an index into three layers, in place: the description as it is afterwards,
and what came of it. -/
def munge (s : Sdp) (index : Nat) : Sdp × Except SdpError Unit :=
  match s.tracks[index]? with
  | none => (s, .error (.notSimulcastable "no track at index"))
  | some track => ({ s with tracks := s.tracks.set index track.munge.1 }, track.munge.2)

/-- A description after the track of an index was to be put into layers. -/
def layered (s : Sdp) (index : Nat) : Sdp := (s.munge index).1

/-- A description with the track of an index in three layers. -/
def simulcast (s : Sdp) (index : Nat) : Except SdpError Sdp :=
  (s.munge index).2.map fun _ => s.layered index

end Sdp
end GroupCall
