/-
# Members of a command

Typed access to the members of a JSON object.  A member that is missing or of the wrong shape
is refused with the names of the command and of the member, and a text that is no IV with the
text itself.  An optional member may be absent or null.
-/
import GroupCall.Json.Value
import GroupCall.Protocol.Error
import GroupCall.Sdp.Wire
import GroupCall.Text.Base64Url
import GroupCall.Text.Decimal

namespace GroupCall

/-- The 64-bit number that 16 hexadecimal digits write; any other text is refused. -/
def decodeHex64 (text : String) : Except ProtocolError UInt64 :=
  match Text.readHex64? text with
  | some n => .ok n
  | none => .error (.invalidHex text)

/-- The IV that 16 hexadecimal digits write. -/
def InitVector.decodeHex (text : String) : Except ProtocolError InitVector :=
  (decodeHex64 text).map InitVector.mk

/-- The members of an object that belongs to a command. -/
structure Fields where
  /-- The name of the command. -/
  command : String
  /-- The members. -/
  members : List (String × Json)

namespace Fields

variable (f : Fields) (field : String)

/-- The refusal of a missing member. -/
def missing : ProtocolError := .missingField f.command field

/-- The refusal of a member of the wrong shape. -/
def wrong (expected : Shape) : ProtocolError := .wrongType f.command field expected

/-- The value of a member, if it is there. -/
def find? : Option Json := Json.member? field f.members

/-- The value of a member that must be there. -/
def get : Except ProtocolError Json :=
  match f.find? field with
  | some value => .ok value
  | none => .error (f.missing field)

/-- A value read as a given shape. -/
def as {α : Type} (expected : Shape) (read : Json → Option α) (value : Json) :
    Except ProtocolError α :=
  match read value with
  | some a => .ok a
  | none => .error (f.wrong field expected)

/-- A member read as a given shape. -/
def read {α : Type} (expected : Shape) (reader : Json → Option α) : Except ProtocolError α :=
  (f.get field).bind (f.as field expected reader)

/-- A member that is absent or null, or else read by `reader`. -/
def optional {α : Type} (reader : Except ProtocolError α) : Except ProtocolError (Option α) :=
  match f.find? field with
  | none => .ok none
  | some .null => .ok none
  | some _ => reader.map some

/-- An integer from 0 to `bound`. -/
def boundedNat (bound : Nat) (expected : Shape) : Except ProtocolError Nat :=
  (f.read field .unsigned Json.natural?).bind fun n =>
    if n ≤ bound then .ok n else .error (f.wrong field expected)

/-- A 64-bit integer. -/
def uint64 : Except ProtocolError UInt64 :=
  (f.boundedNat field (UInt64.size - 1) .unsigned).map UInt64.ofNat

/-- A 32-bit integer. -/
def uint32 : Except ProtocolError UInt32 :=
  (f.boundedNat field (UInt32.size - 1) .bits32).map UInt32.ofNat

/-- A mask of audio and video flags. -/
def av : Except ProtocolError AvFlags :=
  (f.boundedNat field 255 .flags).map fun n => ⟨UInt8.ofNat n⟩

/-- A text. -/
def text : Except ProtocolError String := f.read field .text Json.text?

/-- An array. -/
def array : Except ProtocolError (List Json) := f.read field .array Json.array?

/-- An object. -/
def object : Except ProtocolError (List (String × Json)) := f.read field .object Json.object?

/-- Bytes in base64. -/
def key : Except ProtocolError (List UInt8) :=
  (f.text field).bind fun s =>
    match Text.readBase64Url? s with
    | some bytes => .ok bytes
    | none => .error (f.wrong field .base64)

/-- An IV. -/
def iv : Except ProtocolError InitVector := (f.text field).bind InitVector.decodeHex

/-- A session description. -/
def sdp : Except ProtocolError Sdp :=
  (f.object field).bind fun members =>
    match Sdp.ofJson? (.object members) with
    | some s => .ok s
    | none => .error .invalidSdp

/-- A participant. -/
def cidOf? (value : Json) : Option Cid :=
  value.natural?.bind fun n => if n < UInt32.size then some (UInt32.ofNat n) else none

/-- A list of participants. -/
def cids : Except ProtocolError (List Cid) :=
  (f.array field).bind fun items => items.mapM (f.as field .cids cidOf?)

/-- A participant that is the key of a member. -/
def cidKey (name : String) : Except ProtocolError Cid :=
  match Text.readUInt32? name.toList with
  | some cid => .ok cid
  | none => .error (f.wrong field .byCid)

end Fields
end GroupCall
