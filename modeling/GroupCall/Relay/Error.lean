/-
# Why the relay connection fails
-/

namespace GroupCall

/-- Why something about the relay connection failed. -/
inductive RelayError where
  /-- The URL cannot be dialed. -/
  | invalidUrl (text : String)
  /-- The host could not be looked up. -/
  | dns (host reason : String)
  /-- The host has no address. -/
  | noUsableAddress (host : String)
  /-- The socket failed, or could not be opened. -/
  | transport (reason : String)
  /-- The socket was not open in time. -/
  | timeout
  /-- There is no open socket. -/
  | notConnected
  /-- We have already asked to join through this socket. -/
  | alreadyJoining
  /-- Too many commands wait. -/
  | queueFull (capacity : Nat)
  /-- All attempts are used up. -/
  | retriesExhausted (attempts : Nat)
  /-- Reconnecting was aborted. -/
  | aborted
  /-- The connection is over. -/
  | closed
deriving DecidableEq, Repr

namespace RelayError

/-- The kind of an error. -/
def kind : RelayError → String
  | .invalidUrl _ => "InvalidUrl"
  | .dns _ _ => "Dns"
  | .noUsableAddress _ => "NoUsableAddress"
  | .transport _ => "Transport"
  | .timeout => "Timeout"
  | .notConnected => "NotConnected"
  | .alreadyJoining => "AlreadyJoining"
  | .queueFull _ => "QueueFull"
  | .retriesExhausted _ => "RetriesExhausted"
  | .aborted => "Aborted"
  | .closed => "Closed"

/-- An error in words. -/
def message : RelayError → String
  | .invalidUrl text => "invalid relay url: " ++ text
  | .dns host reason => "failed to resolve " ++ host ++ ": " ++ reason
  | .noUsableAddress host => "no usable address for " ++ host
  | .transport reason => "transport error: " ++ reason
  | .timeout => "connection attempt timed out"
  | .notConnected => "not connected to the relay"
  | .alreadyJoining => "join already sent on this connection"
  | .queueFull capacity => "outbound queue is full (" ++ toString capacity ++ " frames)"
  | .retriesExhausted attempts => "gave up after " ++ toString attempts ++ " attempts"
  | .aborted => "reconnection aborted"
  | .closed => "connection closed"

end RelayError
end GroupCall
