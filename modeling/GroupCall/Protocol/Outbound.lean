/-
# Commands to the relay

A command is written as a JSON object with its name and its members; members that say
nothing are left out.
-/
import GroupCall.Json.Printer
import GroupCall.Sdp.Wire
import GroupCall.Text.Base64Url

namespace GroupCall

/-- A command to the relay. -/
inductive OutboundCommand where
  /-- We want to be in the call: our description, the IVs of our tracks, what we send,
  whether we want to speak, and how many low resolution streams we want without asking. -/
  | join (sdp : Sdp) (ivs : SendIvs) (av : AvFlags) (speaker : Bool) (vthumbs : Option UInt32)
  /-- Our media key, wrapped for each recipient. -/
  | key (id : KeyId) (wrapped : List (Cid × List UInt8))
  /-- What we send changed. -/
  | av (flags : AvFlags)
  /-- We want low resolution streams. -/
  | getVthumbs (cids : List Cid)
  /-- We no longer want low resolution streams. -/
  | delVthumbs (cids : List Cid)
  /-- We want a high resolution stream, possibly on the track of the low resolution one. -/
  | getHires (cid : Cid) (reuse : Bool) (quality : UInt8)
  /-- We no longer want high resolution streams. -/
  | delHires (cids : List Cid)
  /-- We want another quality of a high resolution stream. -/
  | hiresSetLo (cid : Cid) (quality : UInt8)
  /-- We want other layers. -/
  | layer (spatial temporal screenTemporal : UInt8)
  /-- We ask to speak, or grant it to a participant. -/
  | speakRequest (cid : Option Cid)
  /-- We withdraw our request, or deny that of a participant. -/
  | speakRequestDel (cid : Option Cid)
  /-- We stop speaking, or stop a participant. -/
  | speakerDel (cid : Option Cid)
deriving DecidableEq, Repr

namespace OutboundCommand

/-- The name of a command. -/
def name : OutboundCommand → String
  | .join _ _ _ _ _ => "JOIN"
  | .key _ _ => "KEY"
  | .av _ => "AV"
  | .getVthumbs _ => "GET_VTHUMBS"
  | .delVthumbs _ => "DEL_VTHUMBS"
  | .getHires _ _ _ => "GET_HIRES"
  | .delHires _ => "DEL_HIRES"
  | .hiresSetLo _ _ => "HIRES_SET_LO"
  | .layer _ _ _ => "LAYER"
  | .speakRequest _ => "SPEAK_RQ"
  | .speakRequestDel _ => "SPEAK_RQ_DEL"
  | .speakerDel _ => "SPEAKER_DEL"

/-- A participant as JSON. -/
def cidJson (cid : Cid) : Json := .nat cid.toNat

/-- The IVs of our tracks, by the number of the track. -/
def ivsJson (ivs : SendIvs) : Json :=
  .object [("0", .text ivs.vthumb.hex), ("1", .text ivs.hires.hex), ("2", .text ivs.audio.hex)]

/-- The member that names a participant, if there is one. -/
def cidMember : Option Cid → List (String × Json)
  | some cid => [("cid", cidJson cid)]
  | none => []

/-- The members of a command beside its name. -/
def members : OutboundCommand → List (String × Json)
  | .join sdp ivs flags speaker vthumbs =>
    [("sdp", sdp.toJson), ("ivs", ivsJson ivs), ("av", .nat flags.bits.toNat)] ++
      (if speaker then [("spk", .nat 1)] else []) ++
      (match vthumbs with
        | some n => [("vthumbs", .nat n.toNat)]
        | none => [])
  | .key id wrapped =>
    [("id", .nat id.toNat),
      ("data", .array (wrapped.map fun w => .array [cidJson w.1, .text (Text.base64Url w.2)]))]
  | .av flags => [("av", .nat flags.bits.toNat)]
  | .getVthumbs cids => [("cids", .array (cids.map cidJson))]
  | .delVthumbs cids => [("cids", .array (cids.map cidJson))]
  | .delHires cids => [("cids", .array (cids.map cidJson))]
  | .getHires cid reuse quality =>
    [("cid", cidJson cid), ("lo", .nat quality.toNat)] ++ (if reuse then [("r", .nat 1)] else [])
  | .hiresSetLo cid quality => [("cid", cidJson cid), ("lo", .nat quality.toNat)]
  | .layer spatial temporal screenTemporal =>
    [("spt", .nat spatial.toNat), ("tmp", .nat temporal.toNat),
      ("stmp", .nat screenTemporal.toNat)]
  | .speakRequest cid => cidMember cid
  | .speakRequestDel cid => cidMember cid
  | .speakerDel cid => cidMember cid

/-- A command as JSON. -/
def toJson (c : OutboundCommand) : Json := .ofMembers (("a", .text c.name) :: c.members)

/-- A command as the bytes of its frame. -/
def frame (c : OutboundCommand) : List UInt8 := c.toJson.bytes

end OutboundCommand
end GroupCall
