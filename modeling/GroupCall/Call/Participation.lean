/-
# Taking part

How we come into a call and out of it.  Joining finds the relay and opens a connection; once
its socket is open our tracks are set up and the offer is sent.  Losing the socket takes us
back to waiting for it, with our tracks and our offer kept.  Leaving, for whatever reason,
gives up the connection, the sessions, the tracks and our keys.
-/
import GroupCall.Call.Operation
import GroupCall.Call.Roster
import GroupCall.Sdp.Compress
import GroupCall.Sdp.Simulcast

namespace GroupCall
namespace Call

open Operation (demand handTo step)

/-! ## Leaving -/

/-- Closes the relay connection and lets go of it. -/
def dropRelay (c : Call) : Call :=
  match c.relay with
  | none => c
  | some relay => { c with relay := none }.record (.disconnected relay)

/-- Releases our slots and drops the tracks, if there are slots. -/
def closeMedia (c : Call) : Call :=
  match c.slots with
  | none => c
  | some slots =>
    let c := (((c.onSlots Slots.releaseAll).switch slots.vthumb false).switch
      slots.hires false).switch slots.audio false
    { c with slots := none, engine := c.engine.close }

/-- Forgets what belongs to one participation. -/
def forgetParticipation (c : Call) : Call :=
  { c with
    offer := none
    sendKey := none
    vthumbWanted := false
    hiresWanted := false
    startedAt := none
    keys := c.keys.clear
    cid := 0 }

/-- Ends our participation, if we take part or are about to. -/
def leave (c : Call) (code : TermCode) : Call :=
  let c := if c.state.isParticipating then c.moveTo .terminatingParticipation else c
  if c.state = .terminatingParticipation then
    let c := (c.dropRelay.clearSessions.closeMedia.forgetParticipation).setSpeaker .none
    (c.moveTo .clientNotParticipating).tell (.terminated code)
  else c

/-- Ends our participation on our own wish. -/
def hangup (c : Call) : Call × Except CallError Unit :=
  if c.state.isParticipating then (c.leave .userHangup, .ok ())
  else (c, .error (.stateViolation "hangup" c.state))

/-- Gives up what the call still does. -/
def cancel (c : Call) : Call := { c with cancelled := true }

/-- Releases everything, for good. -/
def destroy (c : Call) : Call :=
  if c.state.isDestroyed then c
  else
    let c := if c.state.isParticipating then c.leave .userHangup else c
    match c.setState .destroyed with
    | (c, .ok ()) => c.cancel
    | (c, .error _) => c

/-! ## Joining -/

/-- Begins to join: what is left is to find the relay. -/
def beginJoin (c : Call) (av : AvFlags) : Call × Except CallError Unit :=
  if c.state.canJoin then { c with av := av }.setState .connecting
  else (c, .error (.stateViolation "join" c.state))

/-- Opens a connection to the relay, once its URL is known or known to be missing. -/
def connect (c : Call) (w : Surroundings) : Except String String → Call × Except CallError Unit
  | .error reason => (c.leave .signalingFailure, .error (.initiator reason))
  | .ok url =>
    let c := c.record (.sought url)
    match w.connect url with
    | .error e => (c.leave .signalingFailure, .error (.connection e))
    | .ok relay => ({ c with relay := some relay }.record (.connected relay url), .ok ())

/-- Joins: finds the relay and opens a connection.  If there is no answer before the call is
cancelled, it stays where it is. -/
def join (c : Call) (w : Surroundings) (av : AvFlags) : Call × Except CallError Unit :=
  match c.beginJoin av with
  | (c, .error e) => (c, .error e)
  | (c, .ok ()) =>
    match w.url with
    | some answer => c.connect w answer
    | none => (c, .error .closed)

/-- Stops further attempts of the relay connection. -/
def abortReconnect (c : Call) : Call × Except CallError Unit :=
  c.attempt do
    let relay ← demand requireRelay
    modify (·.record (.aborted relay))

/-! ## Setting up our media -/

/-- Our description: the offer of the engine in compact form, in layers if that is possible. -/
def describe (c : Call) (w : Surroundings) : Except CallError Sdp := do
  let offer ← (c.engine.offer w.faults).mapError .media
  c.requireAlive
  let sdp ← (Sdp.compress offer).mapError .sdp
  return sdp.layered c.config.simulcastIndex

/-- Puts tracks into slots: our three, and behind them the receive tracks. -/
def installMedia (c : Call) (sdp : Sdp) (ivs : SendIvs) : List Nat → Call
  | vthumb :: hires :: audio :: recv =>
    let slots := Slots.new vthumb hires audio recv c.engine.tracks
    let bound := slots.bindLocal ivs c.engine.tracks
    ({ c with slots := some bound.1, offer := some (sdp, ivs) }.withTracks bound.2).applyLocalAv
  | _ => c

/-- Asks the engine for our tracks, and describes them.  Tracks that were handed out before
something fails are kept by the engine. -/
def setUpMedia (c : Call) (w : Surroundings) : Call × Except CallError Unit :=
  match c.engine.addTracks w.faults c.config.tracks with
  | (engine, .error reason) => ({ c with engine := engine }, .error (.media reason))
  | (engine, .ok places) =>
    let c := { c with engine := engine }
    c.attempt do
      let sdp ← demand (·.describe w)
      modify (·.installMedia sdp w.ivs places)

/-- Sets up our media, unless that was done before. -/
def ensureMedia (c : Call) (w : Surroundings) : Call × Except CallError Unit :=
  match c.slots with
  | none => c.setUpMedia w
  | some _ => (c, .ok ())

/-- The request to join with an offer. -/
def joinRequest (c : Call) (sdp : Sdp) (ivs : SendIvs) : RelayRequest :=
  .join (.join sdp ivs c.av c.av.audio c.config.vthumbsOnJoin)

/-- Asks the relay to let us in. -/
def sendJoin (c : Call) (w : Surroundings) : Call × Except CallError Unit :=
  c.attempt do
    let some (sdp, ivs) := (← get).offer | throw (.media "no local offer")
    let some relay := (← get).relay | throw .closed
    handTo w relay ((← get).joinRequest sdp ivs)
    step (·.setState .joining)

/-! ## The link to the relay -/

/-- The socket is open: if we wait for it, our media are set up and we ask to be let in. -/
def linkUp (c : Call) (w : Surroundings) : Call × Except CallError Unit :=
  if c.state = .connecting then
    match c.ensureMedia w with
    | (c, .error e) => (c, .error e)
    | (c, .ok ()) => c.sendJoin w
  else (c, .ok ())

/-- The socket is lost: we wait for the next one, without sessions. -/
def linkLost (c : Call) : Call :=
  if c.state = .joining ∨ c.state = .inProgress then
    let c := { c.clearSessions with vthumbWanted := false, hiresWanted := false }
    ((c.setSpeaker .none).applyLocalAv).moveTo .connecting
  else c

end Call
end GroupCall
