/-
# Why an operation on a call fails
-/
import GroupCall.Call.State
import GroupCall.Crypto.Error
import GroupCall.Identity
import GroupCall.Relay.Error
import GroupCall.Sdp.Basic

namespace GroupCall

/-- Why an operation on a call fails. -/
inductive CallError where
  /-- The operation is not allowed at this stage. -/
  | stateViolation (operation : String) (state : CallState)
  /-- There is no such step between stages. -/
  | invalidTransition (transition : InvalidTransition)
  /-- Only moderators may do this. -/
  | accessDenied
  /-- The public key of a user cannot be had. -/
  | keyUnavailable (user : UserId)
  /-- A key is unusable. -/
  | crypto (error : CryptoError)
  /-- The relay reported an error. -/
  | relay (code : Int) (text : String)
  /-- The relay connection failed. -/
  | connection (error : RelayError)
  /-- A session description is unusable. -/
  | sdp (error : SdpError)
  /-- The media engine failed. -/
  | media (reason : String)
  /-- The URL of the relay cannot be had. -/
  | initiator (reason : String)
  /-- There is no such session or call. -/
  | notFound (what : String)
  /-- The call is over. -/
  | closed
deriving DecidableEq, Repr

namespace CallError

/-- The kind of an error. -/
def kind : CallError → String
  | .stateViolation _ _ => "StateViolation"
  | .invalidTransition _ => "InvalidTransition"
  | .accessDenied => "AccessDenied"
  | .keyUnavailable _ => "KeyUnavailable"
  | .crypto _ => "Crypto"
  | .relay _ _ => "Relay"
  | .connection _ => "Connection"
  | .sdp _ => "Sdp"
  | .media _ => "Media"
  | .initiator _ => "Initiator"
  | .notFound _ => "NotFound"
  | .closed => "Closed"

/-- An error in words. -/
def message : CallError → String
  | .stateViolation operation state => operation ++ " is not allowed while " ++ state.name
  | .invalidTransition transition => transition.message
  | .accessDenied => "access denied: moderator rights required"
  | .keyUnavailable user => "public key unavailable for " ++ user.name
  | .crypto error => "crypto error: " ++ error.message
  | .relay code text => "relay error " ++ toString code ++ ": " ++ text
  | .connection error => "relay connection: " ++ error.message
  | .sdp error => "sdp error: " ++ error.message
  | .media reason => "media engine: " ++ reason
  | .initiator reason => "session initiator: " ++ reason
  | .notFound what => "not found: " ++ what
  | .closed => "call is closed"

/-- The error of a participant without a session. -/
def noSession (cid : Cid) : CallError := .notFound ("session " ++ toString cid.toNat)

end CallError
end GroupCall
