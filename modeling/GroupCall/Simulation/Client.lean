/-
# A client on a scripted network

The calls of a client run here over relay connections on a scripted network.  What a call
does to its connections is carried over to the network, and news of the network are
delivered to the calls.  Calls and connections take turns: no connection does anything while
a call can act, and no call learns of anything before the connections have done all that
needs no alarm.
-/
import GroupCall.Call.Manager
import GroupCall.Simulation.Network
import GroupCall.Simulation.World

namespace GroupCall

/-- What a client finds outside of its calls and of the network. -/
structure ClientWorld extends World where
  /-- How relay connections behave. -/
  relay : RelayConfig

/-- A client with its network. -/
structure Client where
  /-- The calls. -/
  manager : CallManager
  /-- The network. -/
  network : Network
  /-- The handle of the call that opened a relay connection. -/
  owners : Table Nat Nat
  /-- How many things calls have done. -/
  done : Nat

namespace Client

/-- A client that has done nothing. -/
def new (manager : CallManager) (network : Network) : Client := ⟨manager, network, .empty, 0⟩

/-- The number of the next relay connection. -/
def nextConnection (c : Client) : Nat := c.network.connections.size + 1

/-- What surrounds a call at the moment. -/
def surroundings (c : Client) (world : ClientWorld) (call : Call) : Surroundings :=
  world.surroundings c.done
    (((call.relay.bind c.network.connections.get?).map Connection.state).getD .new) fun url =>
    (Connection.ofUrl c.nextConnection url world.relay).map Connection.id

/-- Carries over to the network what a call did. -/
def carryOver (c : Client) (world : ClientWorld) (handle : Nat) : CallDeed → Client
  | .told _ => c
  | .sought _ => c
  | .connected relay url =>
    match Connection.ofUrl relay url world.relay with
    | .error _ => c
    | .ok connection =>
      { c with network := c.network.add connection, owners := c.owners.insert relay handle }
  | .posted relay request =>
    { c with network := c.network.modify relay fun r => (r.post request).toOption.getD r }
  | .disconnected relay =>
    { c with network := c.network.modify relay fun r => r.disconnect.drop }
  | .aborted relay => { c with network := c.network.modify relay Connection.abortRetries }

/-- Lets a call do something.  If that destroyed it, it closes. -/
def act (c : Client) (world : ClientWorld) (handle : Nat)
    (f : CallTask → Surroundings → CallTask) : Client :=
  match c.manager.task? handle with
  | none => c
  | some task =>
    let task' := (f task (c.surroundings world task.call)).settle
    let deeds := task'.call.journal.drop task.call.journal.length
    let c := { c with manager := c.manager.modify handle fun _ => task', done := c.done + 1 }
    deeds.foldl (fun c deed => c.carryOver world handle deed) c

/-- What a call can do next, if anything. -/
def nextOf? (world : ClientWorld) (task : CallTask) :
    Option (CallTask → Surroundings → CallTask) :=
  if task.closed then none
  else if task.joining.isSome then
    if world.url.isSome || task.call.cancelled then some CallTask.resume else none
  else if !task.waiting.isEmpty then some CallTask.takeRequest
  else if !task.events.isEmpty then some CallTask.takeEvent
  else none

/-- Delivers one event of the network to the call that it concerns. -/
def route (c : Client) (event : RelayEvent) : Client :=
  match c.owners.get? event.connection with
  | none => c
  | some handle => { c with manager := c.manager.modify handle fun task => task.deliver event }

/-- Delivers all news of the network. -/
def deliverNews (c : Client) : Client :=
  c.network.news.foldl route { c with network := { c.network with news := [] } }

/-- Takes all calls that have ended out of the registry. -/
def sweep (c : Client) : Client :=
  { c with manager := (List.range c.manager.tasks.length).foldl CallManager.sweep c.manager }

/-- Whether the connection of a call accepts another command. -/
def hasRoom (c : Client) (call : Call) : Bool :=
  ((call.relay.bind c.network.connections.get?).map Connection.hasRoom).getD true

/-- The first call that can do something, and what.  A call whose connection is full waits. -/
def firstReady? (c : Client) (world : ClientWorld) :
    Option (Nat × (CallTask → Surroundings → CallTask)) :=
  c.manager.tasks.zipIdx.findSome? fun t =>
    if c.hasRoom t.1.call then (nextOf? world t.1).map fun f => (t.2, f) else none

/-- Lets a call do something, or else the network until it needs an alarm; nothing if neither
has anything to do. -/
def advanceOne (world : ClientWorld) (fuel : Nat) (c : Client) : Option Client :=
  match c.firstReady? world with
  | some (handle, f) => some (c.act world handle f).sweep
  | none => c.network.advanceOne.map fun network =>
      { c with network := network.work fuel }.deliverNews

/-- Does what is ready, in at most `fuel` turns. -/
def settle (world : ClientWorld) : Nat → Client → Client
  | 0, c => c
  | fuel + 1, c =>
    match c.advanceOne world fuel with
    | some c => settle world fuel c
    | none => c

/-- Moves the clock on, through each alarm on the way.  What is ready is done before the clock
moves. -/
def elapse (world : ClientWorld) (fuel target : Nat) : Nat → Client → Client
  | 0, c => c
  | rounds + 1, c =>
    let c := settle world fuel c
    match c.network.nextDue? target with
    | some due =>
      let network := { c.network with clock := max c.network.clock due }
      elapse world fuel target rounds { c with network := network }
    | none => { c with network := { c.network with clock := target } }

/-! ## What happens from outside -/

/-- Replaces the network after something happened on it, and delivers its news. -/
def withNetwork (c : Client) (network : Network) : Client :=
  { c with network := network }.deliverNews

/-- Makes requests to a call; gives their numbers. -/
def submitAll (c : Client) (handle : Nat) (requests : List CallRequest) : Client × List Nat :=
  let made := ((c.manager.task? handle).map CallTask.made).getD 0
  ({ c with manager := requests.foldl (fun m r => m.submit handle r) c.manager },
    (List.range requests.length).map (made + ·))

/-- The answer of a request to a call, if there is one. -/
def reply? (c : Client) (handle number : Nat) : Option (Except CallError CallReply) :=
  (c.manager.task? handle).bind fun task => task.reply? number

end Client
end GroupCall
