/-
# Why a frame is refused
-/

namespace GroupCall

/-- What a member of a frame is expected to be. -/
inductive Shape where
  /-- A signed integer. -/
  | integer
  /-- An integer that is not negative. -/
  | unsigned
  /-- An integer below `2 ^ 32`. -/
  | bits32
  /-- A mask of eight flags. -/
  | flags
  /-- A text. -/
  | text
  /-- An array. -/
  | array
  /-- An object. -/
  | object
  /-- Bytes in base64. -/
  | base64
  /-- An array whose items are objects. -/
  | objects
  /-- An array whose items are texts. -/
  | texts
  /-- An array whose items are participants. -/
  | cids
  /-- An object whose keys are participants. -/
  | byCid
  /-- An object whose values hold an audio track. -/
  | audioTracks
  /-- An object whose values are tracks. -/
  | tracks
deriving DecidableEq, Repr

/-- A shape in words. -/
def Shape.name : Shape → String
  | .integer => "integer"
  | .unsigned => "unsigned integer"
  | .bits32 => "32-bit integer"
  | .flags => "8-bit flags"
  | .text => "string"
  | .array => "array"
  | .object => "object"
  | .base64 => "base64 string"
  | .objects => "array of objects"
  | .texts => "array of strings"
  | .cids => "array of cids"
  | .byCid => "map keyed by cid"
  | .audioTracks => "map of \x7baudio: track\x7d"
  | .tracks => "map of tracks"

/-- Why a frame is refused. -/
inductive ProtocolError where
  /-- The bytes are no JSON text. -/
  | malformedJson
  /-- The text is no object. -/
  | notAnObject
  /-- There is neither a command nor an error code. -/
  | missingCommandName
  /-- There is no such command. -/
  | unknownCommand (name : String)
  /-- A member of a command is missing. -/
  | missingField (command field : String)
  /-- A member of a command is something else than it should be. -/
  | wrongType (command field : String) (expected : Shape)
  /-- A text is not the 16 hexadecimal digits of an IV. -/
  | invalidHex (text : String)
  /-- An object does not describe a session. -/
  | invalidSdp
deriving DecidableEq, Repr

namespace ProtocolError

/-- The kind of an error. -/
def kind : ProtocolError → String
  | .malformedJson => "MalformedJson"
  | .notAnObject => "NotAnObject"
  | .missingCommandName => "MissingCommandName"
  | .unknownCommand _ => "UnknownCommand"
  | .missingField _ _ => "MissingField"
  | .wrongType _ _ _ => "WrongType"
  | .invalidHex _ => "InvalidHex"
  | .invalidSdp => "InvalidSdp"

/-- An error in words. -/
def message : ProtocolError → String
  | .malformedJson => "malformed json frame"
  | .notAnObject => "frame is not a json object"
  | .missingCommandName => "frame has neither a command name nor an error code"
  | .unknownCommand name => "unknown command: " ++ name
  | .missingField command field => command ++ ": missing required field '" ++ field ++ "'"
  | .wrongType command field expected =>
    command ++ ": field '" ++ field ++ "' has the wrong type, expected " ++ expected.name
  | .invalidHex text => "invalid hex value: " ++ text
  | .invalidSdp => "invalid embedded sdp"

end ProtocolError
end GroupCall
