/-
# The published state of a relay connection

What the owner of a connection sees of it, and which frames may pass in which state: errors
always, the answer only while we are joining, and every other command only after it.
-/
import GroupCall.Protocol.Inbound

namespace GroupCall

/-- The published state of a relay connection. -/
inductive RelayState where
  /-- Nothing has been tried. -/
  | new
  /-- The host is looked up. -/
  | resolving
  /-- A socket is being opened. -/
  | connecting
  /-- A socket is open. -/
  | connected
  /-- We have asked to join. -/
  | joining
  /-- The relay has answered. -/
  | joined
  /-- There is no socket, for now or for good. -/
  | disconnected
deriving DecidableEq, Repr, Inhabited

namespace RelayState

/-- The name of a state. -/
def name : RelayState → String
  | .new => "New"
  | .resolving => "Resolving"
  | .connecting => "Connecting"
  | .connected => "Connected"
  | .joining => "Joining"
  | .joined => "Joined"
  | .disconnected => "Disconnected"

/-- All states. -/
def all : List RelayState :=
  [.new, .resolving, .connecting, .connected, .joining, .joined, .disconnected]

/-- The state of a name. -/
def ofName? (name : String) : Option RelayState := all.find? fun s => s.name = name

/-- Whether a socket is open, so that commands are accepted. -/
def isOnline : RelayState → Bool
  | .connected => true
  | .joining => true
  | .joined => true
  | _ => false

end RelayState

namespace InboundFrame

/-- Whether a frame is the answer to a request to join. -/
def isAnswer : InboundFrame → Bool
  | .command (.answer _) => true
  | _ => false

/-- Whether a frame may pass in a state. -/
def passes (frame : InboundFrame) (state : RelayState) : Bool :=
  match frame with
  | .error _ _ => true
  | .command (.answer _) => decide (state = .joining)
  | .command _ => decide (state = .joined)

end InboundFrame
end GroupCall
