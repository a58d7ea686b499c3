/-
# Compact descriptions as JSON

A description is written as an object in which absent names and empty lists are left out.
It is read from such an object, whose other members do not matter, or from an array of the
same parts in their order; a part that has a default may be missing at the end.
-/
import GroupCall.Json.Value
import GroupCall.Sdp.Basic

namespace GroupCall

namespace Json

open Json (Document Piece pieceText)

/-- The text of a document that is a string. -/
def textOf? : Document → Option String
  | .text pieces => pieceText pieces
  | _ => none

/-- The natural number of a document, if it is at most `bound`. -/
def naturalOf? (bound : Nat) : Document → Option Nat
  | .number n =>
    match n.integer? with
    | some i => if 0 ≤ i ∧ i.toNat ≤ bound then some i.toNat else none
    | none => none
  | _ => none

/-- The items of a document that is an array, each read by `read`. -/
def listOf? {α : Type} (read : Document → Option α) : Document → Option (List α)
  | .array items => items.mapM read
  | _ => none

/-- The text of a document that is a string, or nothing for null. -/
def optionalTextOf? : Document → Option (Option String)
  | .null => some none
  | document => (textOf? document).map some

/-- The word of a document that is a string, or an object with that one key and null. -/
def wordOf? : Document → Option String
  | .text pieces => pieceText pieces
  | .object [(key, .null)] => pieceText key
  | _ => none

/-- The parts of a record by name.  A key that is no text or a repeated part is refused;
members that are no part are passed over. -/
def partsOfMembers? (names : List String) (members : List (List Piece × Document)) :
    Option (List (Option Document)) := do
  let named ← members.mapM fun m => (pieceText m.1).map fun key => (key, m.2)
  names.mapM fun name =>
    match named.filter (·.1 = name) with
    | [] => some none
    | [m] => some (some m.2)
    | _ => none

/-- The parts of a record: by name from an object, by place from an array. -/
def parts? (names : List String) : Document → Option (List (Option Document))
  | .object members => partsOfMembers? names members
  | .array items =>
    if items.length ≤ names.length then
      some (items.map some ++ List.replicate (names.length - items.length) none)
    else none
  | _ => none

/-- A part that must be there. -/
def required? {α : Type} (read : Document → Option α) : Option Document → Option α
  | some document => read document
  | none => none

/-- A part with a default. -/
def defaulted? {α : Type} (read : Document → Option α) (default : α) :
    Option Document → Option α
  | some document => read document
  | none => some default

end Json

namespace SdpTrack

open Json

/-- The names of the parts of a track, in their order. -/
def partNames : List String := ["t", "mid", "dir", "sid", "id", "ssrcs", "ssrcg"]

/-- A source with its canonical name. -/
def readSsrc? : Document → Option (UInt64 × String)
  | .array [id, cname] => do
    let id ← naturalOf? (UInt64.size - 1) id
    let cname ← textOf? cname
    return (UInt64.ofNat id, cname)
  | _ => none

/-- The track that a document describes. -/
def ofDocument? (document : Document) : Option SdpTrack := do
  match ← parts? partNames document with
  | [kind, mid, direction, streamId, trackId, ssrcs, groups] =>
    let kind ← required? (fun d => (wordOf? d).bind TrackKind.ofLetter?) kind
    let mid ← required? (naturalOf? (UInt32.size - 1)) mid
    let direction ←
      defaulted? (fun d => (wordOf? d).bind Direction.ofName?) Direction.sendRecv direction
    let streamId ← defaulted? optionalTextOf? none streamId
    let trackId ← defaulted? optionalTextOf? none trackId
    let ssrcs ← defaulted? (listOf? readSsrc?) [] ssrcs
    let groups ← defaulted? (listOf? textOf?) [] groups
    return ⟨kind, UInt32.ofNat mid, direction, streamId, trackId, ssrcs, groups⟩
  | _ => none

/-- The members of a track. -/
def members (track : SdpTrack) : List (String × Json) :=
  [("t", .text track.kind.letter), ("mid", .nat track.mid.toNat),
    ("dir", .text track.direction.name)] ++
  (match track.streamId with
    | some sid => [("sid", .text sid)]
    | none => []) ++
  (match track.trackId with
    | some id => [("id", .text id)]
    | none => []) ++
  (if track.ssrcs.isEmpty then []
    else [("ssrcs", .array (track.ssrcs.map fun s => .array [.nat s.1.toNat, .text s.2]))]) ++
  (if track.ssrcGroups.isEmpty then []
    else [("ssrcg", .array (track.ssrcGroups.map .text))])

/-- A track as JSON. -/
def toJson (track : SdpTrack) : Json := .ofMembers track.members

end SdpTrack

namespace Sdp

open Json

/-- The names of the parts of a description, in their order. -/
def partNames : List String := ["cmn", "atpl", "vtpl", "tracks"]

/-- The description that a document describes. -/
def ofDocument? (document : Document) : Option Sdp := do
  match ← parts? partNames document with
  | [common, audio, video, tracks] =>
    let common ← required? textOf? common
    let audio ← defaulted? optionalTextOf? none audio
    let video ← defaulted? optionalTextOf? none video
    let tracks ← defaulted? (listOf? SdpTrack.ofDocument?) [] tracks
    return ⟨common, audio, video, tracks⟩
  | _ => none

/-- The description that a JSON value describes. -/
def ofJson? (j : Json) : Option Sdp := ofDocument? j.toDocument

/-- The description that JSON text describes. -/
def read? (input : List UInt8) : Option Sdp := (Document.read? input).bind ofDocument?

/-- The members of a description. -/
def members (s : Sdp) : List (String × Json) :=
  [("cmn", .text s.common)] ++
  (match s.audioTemplate with
    | some t => [("atpl", .text t)]
    | none => []) ++
  (match s.videoTemplate with
    | some t => [("vtpl", .text t)]
    | none => []) ++
  [("tracks", .array (s.tracks.map SdpTrack.toJson))]

/-- A description as JSON. -/
def toJson (s : Sdp) : Json := .ofMembers s.members

end Sdp
end GroupCall
