/-
# A scripted network

Relay connections run here against scripted look-ups and dials and under a clock that moves
only when it is told to.  What a connection asks for is recorded and answered: at once, when
an alarm goes off, or, if frames are held, when somebody acknowledges them.  `workOne` does
the next thing that a connection can do without an alarm, in a fixed order; `advanceOne` lets
an alarm go off once there is no such thing, and `settle` goes on until nothing is ready.
-/
import GroupCall.Relay.Connection
import GroupCall.Simulation.Script

namespace GroupCall

/-- What an alarm reports to a connection. -/
inductive Notice where
  /-- The awaited look-up is answered. -/
  | resolved (round : Nat) (answer : LookupAnswer)
  /-- A look-up behind the attempt's back is answered. -/
  | refreshed (round : Nat) (answer : LookupAnswer)
  /-- The dial is answered. -/
  | dialed (round : Nat) (result : Except String Unit)
  /-- The dial has taken too long. -/
  | dialTimeout (round : Nat)
  /-- The delay before the next attempt is over. -/
  | retryDue

/-- An alarm for a connection. -/
structure Alarm where
  /-- When it goes off. -/
  due : Nat
  /-- Whom it wakes. -/
  connection : Nat
  /-- What it reports. -/
  notice : Notice

/-- A scripted network with its connections. -/
structure Network where
  /-- The time in milliseconds. -/
  clock : Nat
  /-- The answers to look-ups. -/
  lookups : Script LookupAnswer
  /-- The answers to dials. -/
  dials : Script (Except String Unit)
  /-- Whether frames are held until they are acknowledged. -/
  holds : Bool
  /-- The shared cache. -/
  cache : DnsCache
  /-- The connections by number. -/
  connections : Table Nat Connection
  /-- The alarms that are set, in the order in which they were set. -/
  alarms : List Alarm
  /-- The sockets whose frame was sent without being held, oldest first. -/
  acknowledged : List Nat
  /-- The sockets whose frame is held, oldest first. -/
  held : List Nat
  /-- The connections that opened the sockets, by number of the socket. -/
  sockets : List Nat
  /-- How often a socket was closed by its connection. -/
  hangUps : Nat
  /-- The URLs and addresses dialed. -/
  dialed : List (String × IpAddress)
  /-- The hosts looked up. -/
  lookedUp : List String
  /-- The frames handed to sockets. -/
  wire : List (Nat × OutboundCommand)
  /-- The news that nobody has read. -/
  news : List RelayEvent

namespace Network

/-- A network on which nothing has happened. -/
def new (lookups : Script LookupAnswer) (dials : Script (Except String Unit)) (holds : Bool)
    (cache : DnsCache) : Network :=
  ⟨0, lookups, dials, holds, cache, .empty, [], [], [], [], 0, [], [], [], []⟩

/-- Adds a connection. -/
def add (n : Network) (c : Connection) : Network :=
  { n with connections := n.connections.insert c.id c }

/-- Changes a connection. -/
def modify (n : Network) (id : Nat) (f : Connection → Connection) : Network :=
  { n with connections := n.connections.modify id f }

/-- Sets an alarm. -/
def setAlarm (n : Network) (delay id : Nat) (notice : Notice) : Network :=
  { n with alarms := n.alarms ++ [⟨n.clock + delay, id, notice⟩] }

/-- Does what a connection asks for. -/
def perform (n : Network) (c : Connection) : RelayAction → Network
  | .tell event => { n with news := n.news ++ [event] }
  | .lookup round =>
    let (entry, script) := n.lookups.take
    { n with lookups := script, lookedUp := n.lookedUp ++ [c.host] }.setAlarm entry.delay c.id
      (.resolved round entry.answer)
  | .refresh round =>
    let (entry, script) := n.lookups.take
    { n with lookups := script, lookedUp := n.lookedUp ++ [c.host] }.setAlarm entry.delay c.id
      (.refreshed round entry.answer)
  | .dial round address =>
    let (entry, script) := n.dials.take
    let n := { n with dials := script, dialed := n.dialed ++ [(c.url, address)] }
    (n.setAlarm entry.delay c.id (.dialed round entry.answer)).setAlarm
      c.config.connectTimeout.millis c.id (.dialTimeout round)
  | .transmit socket command =>
    let n := { n with wire := n.wire ++ [(socket, command)] }
    if n.holds then { n with held := n.held ++ [socket] }
    else { n with acknowledged := n.acknowledged ++ [socket] }
  | .hangUp _ => { n with hangUps := n.hangUps + 1 }
  | .sleep delay => n.setAlarm delay.millis c.id .retryDue

/-- Gives an input to a connection and does what it then asks for. -/
def feed (n : Network) (id : Nat) (input : RelayInput) : Network :=
  match n.connections.get? id with
  | none => n
  | some c =>
    let turn := Turn.step ⟨c, n.cache, []⟩ input
    let n := { n with
      connections := n.connections.insert id turn.connection
      cache := turn.cache }
    turn.actions.foldl (fun n action => n.perform turn.connection action) n

/-- Gives an input to the connection of a socket. -/
def feedSocket (n : Network) (socket : Nat) (input : RelayInput) : Network :=
  match n.sockets[socket]? with
  | some id => n.feed id input
  | none => n

/-- Whether a connection still waits for the dial of a round. -/
def awaitsDial (c : Connection) (round : Nat) : Bool :=
  match c.phase with
  | .dialing _ => c.round == round
  | _ => false

/-- Lets an alarm go off.  A socket is opened only for a connection that waits for it. -/
def ring (n : Network) (alarm : Alarm) : Network :=
  match alarm.notice with
  | .resolved round answer => n.feed alarm.connection (.resolved round answer)
  | .refreshed round answer => n.feed alarm.connection (.refreshed round answer)
  | .dialTimeout round => n.feed alarm.connection (.dialTimeout round)
  | .retryDue => n.feed alarm.connection .retryDue
  | .dialed round result =>
    match n.connections.get? alarm.connection with
    | none => n
    | some c =>
      if awaitsDial c round then
        match result with
        | .error reason => n.feed c.id (.dialed round (.error reason))
        | .ok () =>
          { n with sockets := n.sockets ++ [c.id] }.feed c.id (.dialed round (.ok n.sockets.length))
      else n

/-- What a connection would take next on its own. -/
def inputOf? (c : Connection) : Option RelayInput :=
  match c.phase with
  | .idle => some .start
  | .finished => none
  | phase =>
    if c.cancelled then some .noticeCancel
    else
      match phase with
      | .waiting =>
        if c.aborted then some .noticeAbort
        else if c.inbox.isEmpty then none
        else some .takeRequest
      | .serving _ =>
        if !c.inbox.isEmpty then some .takeRequest
        else if !c.answers.isEmpty then some .takeAnswer
        else none
      | _ => none

/-- The first alarm that is due at a time, and the others. -/
def takeDue (time : Nat) : List Alarm → Option (Alarm × List Alarm)
  | [] => none
  | alarm :: rest =>
    if alarm.due ≤ time then some (alarm, rest)
    else (takeDue time rest).map fun p => (p.1, alarm :: p.2)

/-- Does the next thing that needs no alarm, if there is one: something that a connection
takes on its own, or an acknowledgement. -/
def workOne (n : Network) : Option Network :=
  match n.connections.entries.findSome? fun e => (inputOf? e.2).map fun input => (e.1, input) with
  | some (id, input) => some (n.feed id input)
  | none =>
    match n.acknowledged with
    | socket :: rest =>
      some ({ n with acknowledged := rest }.feedSocket socket (.sent socket (.ok ())))
    | [] => none

/-- Does what needs no alarm, at most `fuel` things. -/
def work : Nat → Network → Network
  | 0, n => n
  | fuel + 1, n =>
    match n.workOne with
    | some n => work fuel n
    | none => n

/-- Lets the first alarm that is due go off, if there is one. -/
def ringOne (n : Network) : Option Network :=
  (takeDue n.clock n.alarms).map fun p => { n with alarms := p.2 }.ring p.1

/-- Does the next thing that is ready, if there is one. -/
def advanceOne (n : Network) : Option Network := n.workOne.or n.ringOne

/-- Does what is ready, at most `fuel` things. -/
def settle : Nat → Network → Network
  | 0, n => n
  | fuel + 1, n =>
    match n.advanceOne with
    | some n => settle fuel n
    | none => n

/-- The time of the earliest alarm, if it is not after `target`. -/
def nextDue? (n : Network) (target : Nat) : Option Nat :=
  (n.alarms.foldl
    (fun (best : Option Nat) alarm => some (min alarm.due (best.getD alarm.due))) none).filter
    fun due => due ≤ target

/-- Moves the clock on, through each alarm on the way.  What is ready is done before the clock
moves. -/
def elapse (fuel target : Nat) : Nat → Network → Network
  | 0, n => n
  | rounds + 1, n =>
    let n := settle fuel n
    match n.nextDue? target with
    | some due => elapse fuel target rounds { n with clock := max n.clock due }
    | none => { n with clock := target }

/-! ## What happens from outside -/

/-- The newest socket, if its connection still serves it. -/
def liveSocket? (n : Network) : Option Nat := do
  let id ← n.sockets.getLast?
  let c ← n.connections.get? id
  let link ← c.link?
  if link.socket + 1 = n.sockets.length then some link.socket else none

/-- Gives an input to the newest socket; says whether its connection still serves it. -/
def reach (n : Network) (input : Nat → RelayInput) : Network × Bool :=
  match n.liveSocket? with
  | some socket => (n.feedSocket socket (input socket), true)
  | none => (n, false)

/-- Completes the oldest held frame; says whether there was one. -/
def complete (n : Network) (result : Except String Unit) : Network × Bool :=
  match n.held with
  | [] => (n, false)
  | socket :: rest => ({ n with held := rest }.feedSocket socket (.sent socket result), true)

/-- Forgets what was recorded. -/
def clearRecords (n : Network) : Network :=
  { n with dialed := [], lookedUp := [], wire := [], news := [] }

end Network
end GroupCall
