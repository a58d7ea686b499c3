/-
# A call over a relay that does as it is told

A single call runs here over connections that publish the states which they are told to.
They accept requests as every connection does; a request to join moves them on, and closing
them takes them offline.
-/
import GroupCall.Call.Delivery
import GroupCall.Simulation.World

namespace GroupCall

/-- A connection that does as it is told. -/
structure LoopbackRelay where
  /-- The published state. -/
  state : RelayState
  /-- Whether further attempts were stopped. -/
  aborted : Bool
  /-- Whether it was closed. -/
  disconnected : Bool
deriving DecidableEq, Repr

/-- A call with its connections. -/
structure Loopback where
  /-- The call. -/
  call : Call
  /-- How many connections were opened; they are numbered from one. -/
  connections : Nat
  /-- The newest connection. -/
  relay : Option LoopbackRelay
  /-- The URLs to which connections were asked for. -/
  urls : List String
  /-- How many things the call has done. -/
  done : Nat

namespace Loopback

/-- A call without connections. -/
def new (call : Call) : Loopback := ⟨call, 0, none, [], 0⟩

/-- Tells the newest connection which state to publish. -/
def publish (l : Loopback) (state : RelayState) : Loopback :=
  { l with relay := l.relay.map fun r => { r with state := state } }

/-- What the connections make of a deed of the call. -/
def carryOver (l : Loopback) : CallDeed → Loopback
  | .told _ => l
  | .sought url => { l with urls := l.urls ++ [url] }
  | .connected relay _ => { l with connections := relay, relay := some ⟨.new, false, false⟩ }
  | .posted _ (.send _) => l
  | .posted _ (.join _) => l.publish .joining
  | .disconnected _ =>
    { l with relay := l.relay.map fun r =>
        { r with state := .disconnected, disconnected := true } }
  | .aborted _ => { l with relay := l.relay.map fun r => { r with aborted := true } }

/-- What surrounds the call; connections may be refused. -/
def surroundings (l : Loopback) (world : World) (refusal : Option RelayError) : Surroundings :=
  world.surroundings l.done ((l.relay.map LoopbackRelay.state).getD .new) fun _ =>
    match refusal with
    | some e => .error e
    | none => .ok (l.connections + 1)

/-- Lets the call do something; gives also what it did. -/
def act {α : Type} (l : Loopback) (world : World) (refusal : Option RelayError)
    (f : Call → Surroundings → Call × α) : Loopback × List CallDeed × α :=
  let outcome := f l.call (l.surroundings world refusal)
  let deeds := outcome.1.journal.drop l.call.journal.length
  (deeds.foldl carryOver { l with call := outcome.1, done := l.done + 1 }, deeds, outcome.2)

end Loopback
end GroupCall
