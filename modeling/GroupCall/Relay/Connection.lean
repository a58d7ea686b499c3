/-
# The relay connection

A connection keeps one socket to the relay open for its owner.  An attempt looks up the
host, dials, and serves the socket until it ends; then the connection waits and tries again,
until the attempts are exhausted or the owner stops it.  Addresses from the cache are dialed
at once and looked up again behind the attempt's back: an answer with other addresses, in
the round of the attempt, replaces the socket.

`step` is the whole behaviour: it takes one input, in any order in which the surroundings
deliver them, and returns the connection, the shared cache and what the surroundings have to
do.  Inputs that do not fit the phase change nothing.  Requests are accepted by `post`
against the published state; they wait in the inbox until the input that takes them.
-/
import GroupCall.Net.Url
import GroupCall.Protocol.Outbound
import GroupCall.Relay.Backoff
import GroupCall.Relay.DnsCache
import GroupCall.Relay.SendQueue
import GroupCall.Relay.State

namespace GroupCall

/-- How a connection behaves. -/
structure RelayConfig where
  /-- When to try again. -/
  retry : RetryPolicy
  /-- How long opening a socket may take. -/
  connectTimeout : Duration
  /-- How many frames may wait behind the one that is being sent. -/
  queueCapacity : Nat
deriving DecidableEq, Repr

/-- The configuration without special wishes. -/
def RelayConfig.standard : RelayConfig := ⟨.standard, .ofMillis 10000, 256⟩

/-- What a connection tells its owner. -/
inductive RelayNews where
  /-- The published state changed. -/
  | stateChanged (state : RelayState)
  /-- A frame passed. -/
  | frame (frame : InboundFrame)
  /-- There will be no further attempt. -/
  | failed (error : RelayError)
  /-- The connection is over. -/
  | closed
deriving DecidableEq, Repr

/-- News with the number of the connection that they come from. -/
structure RelayEvent where
  /-- The connection. -/
  connection : Nat
  /-- The news. -/
  news : RelayNews
deriving DecidableEq, Repr

/-- Something that the owner wants sent. -/
inductive RelayRequest where
  /-- A command. -/
  | send (command : OutboundCommand)
  /-- A request to join. -/
  | join (command : OutboundCommand)
deriving DecidableEq, Repr

namespace RelayRequest

/-- The command of a request. -/
def command : RelayRequest → OutboundCommand
  | .send command => command
  | .join command => command

/-- Whether a request is accepted in a published state: a command while a socket is open, a
request to join while it is open and we have not used it for one. -/
def check (state : RelayState) : RelayRequest → Except RelayError Unit
  | .send _ => if state.isOnline then .ok () else .error .notConnected
  | .join _ =>
    match state with
    | .connected => .ok ()
    | .joining => .error .alreadyJoining
    | .joined => .error .alreadyJoining
    | _ => .error .notConnected

end RelayRequest

/-- What a look-up of the host gave, or why it failed. -/
abbrev LookupAnswer := Except String Addresses

/-- The socket that is served. -/
structure Link where
  /-- The number of the socket. -/
  socket : Nat
  /-- The addresses from the cache that were dialed, if they came from there. -/
  cached : Option Addresses
deriving DecidableEq, Repr

/-- What a connection is doing. -/
inductive Phase where
  /-- Nothing yet. -/
  | idle
  /-- It waits for the addresses of the host. -/
  | resolving
  /-- It waits for a socket. -/
  | dialing (cached : Option Addresses)
  /-- It serves a socket. -/
  | serving (link : Link)
  /-- It waits before the next attempt. -/
  | waiting
  /-- Nothing any more. -/
  | finished
deriving DecidableEq, Repr

/-- A connection to the relay. -/
structure Connection where
  /-- The number of the connection. -/
  id : Nat
  /-- The URL that is dialed. -/
  url : String
  /-- The host that is looked up. -/
  host : String
  /-- The configuration. -/
  config : RelayConfig
  /-- The published state. -/
  state : RelayState
  /-- What the connection is doing. -/
  phase : Phase
  /-- Commands that were accepted and not taken yet, oldest first. -/
  inbox : List RelayRequest
  /-- Answers to look-ups behind an attempt's back, with their rounds, oldest first. -/
  answers : List (Nat × LookupAnswer)
  /-- Frames that wait for the socket. -/
  queue : SendQueue OutboundCommand
  /-- The failures so far. -/
  backoff : Backoff
  /-- Whether the next attempt prefers addresses of version 6. -/
  preferV6 : Bool
  /-- The number of the attempt. -/
  round : Nat
  /-- Whether the owner has closed the connection. -/
  cancelled : Bool
  /-- Whether the owner has stopped further attempts. -/
  aborted : Bool
  /-- Whether anybody listens to the news. -/
  listening : Bool
  /-- Whether the channel of the news has room.  News wait for room, except for the last one. -/
  newsRoom : Bool

/-- What happens to a connection. -/
inductive RelayInput where
  /-- It starts to run. -/
  | start
  /-- The addresses of the host are there, or not. -/
  | resolved (round : Nat) (answer : LookupAnswer)
  /-- A look-up behind the attempt's back is answered. -/
  | refreshed (round : Nat) (answer : LookupAnswer)
  /-- The socket is open, with its number, or could not be opened. -/
  | dialed (round : Nat) (result : Except String Nat)
  /-- The socket was not open in time. -/
  | dialTimeout (round : Nat)
  /-- The oldest accepted command is taken. -/
  | takeRequest
  /-- The oldest answer is taken. -/
  | takeAnswer
  /-- The frame that was being sent has been sent, or not. -/
  | sent (socket : Nat) (result : Except String Unit)
  /-- A frame arrived. -/
  | received (socket : Nat) (bytes : List UInt8)
  /-- The socket reports that it is open. -/
  | socketOpen (socket : Nat)
  /-- The socket is gone. -/
  | socketLost (socket : Nat)
  /-- The delay before the next attempt is over. -/
  | retryDue
  /-- The connection notices that it was closed. -/
  | noticeCancel
  /-- The connection notices that further attempts were stopped. -/
  | noticeAbort

/-- What the surroundings have to do for a connection. -/
inductive RelayAction where
  /-- Tell the owner. -/
  | tell (event : RelayEvent)
  /-- Look up the host for an attempt that waits for it. -/
  | lookup (round : Nat)
  /-- Look up the host behind an attempt's back. -/
  | refresh (round : Nat)
  /-- Open a socket. -/
  | dial (round : Nat) (address : IpAddress)
  /-- Hand a frame to a socket. -/
  | transmit (socket : Nat) (command : OutboundCommand)
  /-- Close a socket. -/
  | hangUp (socket : Nat)
  /-- Report when a delay is over. -/
  | sleep (delay : Duration)
deriving DecidableEq, Repr

/-- Why a socket is no longer served. -/
inductive LinkEnd where
  /-- The owner is done, or nobody listens. -/
  | closed
  /-- The socket failed. -/
  | lost
  /-- The host has other addresses than the ones in use. -/
  | staleAddress
deriving DecidableEq, Repr

/-! ## The owner's side -/

namespace Connection

/-- A connection to a URL, not started yet. -/
def ofUrl (id : Nat) (url : String) (config : RelayConfig) : Except RelayError Connection :=
  match Url.parse url with
  | .error e => .error (.invalidUrl (url ++ ": " ++ e.message))
  | .ok parsed =>
    if parsed.scheme = "ws" ∨ parsed.scheme = "wss" then
      match parsed.host with
      | none => .error (.invalidUrl (url ++ ": missing host"))
      | some host =>
        .ok
          { id, url, host, config
            state := .new, phase := .idle, inbox := [], answers := []
            queue := .new config.queueCapacity, backoff := .new config.retry
            preferV6 := false, round := 0, cancelled := false, aborted := false
            listening := true, newsRoom := true }
    else .error (.invalidUrl (url ++ ": unsupported scheme " ++ parsed.scheme))

/-- Takes a request into the inbox, if it is accepted. -/
def post (c : Connection) (request : RelayRequest) : Except RelayError Connection :=
  (request.check c.state).map fun _ => { c with inbox := c.inbox ++ [request] }

/-- Whether the inbox has room.  It holds as many commands as may wait for the socket, at
least one; while the connection accepts none the question does not arise. -/
def hasRoom (c : Connection) : Bool :=
  !c.state.isOnline || c.inbox.length < max 1 c.config.queueCapacity

/-- Stops further attempts. -/
def abortRetries (c : Connection) : Connection := { c with aborted := true }

/-- Closes the connection. -/
def disconnect (c : Connection) : Connection := { c with aborted := true, cancelled := true }

/-- The owner lets go of the connection. -/
def drop (c : Connection) : Connection := { c with cancelled := true }

/-- Nobody listens any more. -/
def dropListener (c : Connection) : Connection := { c with listening := false }

/-- The channel of the news fills up, or the owner takes news from it. -/
def setNewsRoom (c : Connection) (room : Bool) : Connection := { c with newsRoom := room }

/-- The socket that is served. -/
def link? (c : Connection) : Option Link :=
  match c.phase with
  | .serving link => some link
  | _ => none

end Connection

/-! ## One step -/

/-- A connection and the shared cache during a step, and what the surroundings have to do
because of it, first thing first. -/
structure Turn where
  /-- The connection. -/
  connection : Connection
  /-- The cache. -/
  cache : DnsCache
  /-- What is to be done. -/
  actions : List RelayAction

namespace Turn

/-- Changes the connection. -/
def update (t : Turn) (f : Connection → Connection) : Turn :=
  { t with connection := f t.connection }

/-- Asks something of the surroundings. -/
def ask (t : Turn) (action : RelayAction) : Turn := { t with actions := t.actions ++ [action] }

/-- Tells the owner, if anybody listens. -/
def tell (t : Turn) (news : RelayNews) : Turn :=
  if t.connection.listening then t.ask (.tell ⟨t.connection.id, news⟩) else t

/-- Tells the owner, if anybody listens and there is room at the moment. -/
def tryTell (t : Turn) (news : RelayNews) : Turn :=
  if t.connection.newsRoom then t.tell news else t

/-- Enters a phase. -/
def enter (t : Turn) (phase : Phase) : Turn := t.update fun c => { c with phase := phase }

/-- Publishes a state. -/
def publish (t : Turn) (state : RelayState) : Turn :=
  if t.connection.state = state then t
  else (t.update fun c => { c with state := state }).tell (.stateChanged state)

/-- Stores addresses of the host in the cache. -/
def store (t : Turn) (addresses : Addresses) : Turn :=
  { t with cache := (t.cache.set t.connection.host addresses).1 }

/-- The end: the state is published without news, and nothing is left that could wait for room. -/
def finish (t : Turn) : Turn :=
  ((t.update fun c => { c with state := .disconnected }).enter .finished).tryTell .closed

/-- Tells why there will be no further attempt, and ends. -/
def giveUp (t : Turn) (error : RelayError) : Turn := (t.tell (.failed error)).finish

/-- What follows a failure: the other version of addresses is preferred, and after a delay
there is another attempt, unless the owner has stopped them or they are exhausted. -/
def fail (t : Turn) : Turn :=
  let t := (t.update fun c => { c with preferV6 := !c.preferV6 }).publish .disconnected
  if t.connection.aborted then t.giveUp .aborted
  else
    match t.connection.backoff.next with
    | (none, b) => t.giveUp (.retriesExhausted b.attempts)
    | (some delay, b) =>
      ((t.update fun c => { c with backoff := b }).enter .waiting).ask (.sleep delay)

/-- Dials one of some addresses; `cached` are the addresses that came from the cache. -/
def dial (t : Turn) (addresses : Addresses) (cached : Option Addresses) : Turn :=
  match addresses.pick t.connection.preferV6 with
  | none => t.fail
  | some address =>
    ((t.publish .connecting).enter (.dialing cached)).ask (.dial t.connection.round address)

/-- The addresses of the host from the cache, if there are any. -/
def cached? (t : Turn) : Option Addresses :=
  (t.cache.get? t.connection.host).filter fun a => !a.isEmpty

/-- Starts an attempt, unless the owner has closed the connection. -/
def attempt (t : Turn) : Turn :=
  if t.connection.cancelled then t.finish
  else
    let t := (t.publish .resolving).update fun c => { c with round := c.round + 1 }
    match t.cached? with
    | some addresses => (t.ask (.refresh t.connection.round)).dial addresses (some addresses)
    | none => (t.enter .resolving).ask (.lookup t.connection.round)

/-- Takes the addresses that the attempt waits for. -/
def resolve (t : Turn) : LookupAnswer → Turn
  | .error _ => t.fail
  | .ok addresses => if addresses.isEmpty then t.fail else (t.store addresses).dial addresses none

/-- What follows an attempt on which no socket opened: addresses from the cache are
forgotten. -/
def failDial (t : Turn) (cached : Option Addresses) : Turn :=
  match cached with
  | some _ => { t with cache := t.cache.remove t.connection.host }.fail
  | none => t.fail

/-- Starts to serve a socket.  Commands for an earlier one are forgotten. -/
def establish (t : Turn) (link : Link) : Turn :=
  let t := t.update fun c => { c with inbox := [], queue := c.queue.clear }
  (t.publish .connected).update fun c =>
    { c with backoff := c.backoff.reset, phase := .serving link }

/-- What follows the end of a link. -/
def endLink (t : Turn) (link : Link) (why : LinkEnd) : Turn :=
  let t := (t.ask (.hangUp link.socket)).update fun c => { c with queue := c.queue.clear }
  match why with
  | .closed => t.finish
  | .lost => t.fail
  | .staleAddress => (t.publish .disconnected).attempt

/-- Queues a command for the socket, or sends it at once.  If too many wait it is lost. -/
def enqueue (t : Turn) (link : Link) (command : OutboundCommand) : Turn :=
  match t.connection.queue.push command with
  | .ok (queue, some first) =>
    (t.update fun c => { c with queue := queue }).ask (.transmit link.socket first)
  | .ok (queue, none) => t.update fun c => { c with queue := queue }
  | .error _ => t

/-- Carries out an accepted command.  A second request to join is ignored. -/
def carryOut (t : Turn) (link : Link) : RelayRequest → Turn
  | .send command => t.enqueue link command
  | .join command =>
    if t.connection.state = .connected then (t.publish .joining).enqueue link command else t

/-- Takes note that a frame was sent, and sends the next one. -/
def acknowledge (t : Turn) (link : Link) : Turn :=
  let (queue, next) := t.connection.queue.acknowledge
  let t := t.update fun c => { c with queue := queue }
  match next with
  | some command => t.ask (.transmit link.socket command)
  | none => t

/-- Completes the joining, if a frame is the answer. -/
def complete (t : Turn) (frame : InboundFrame) : Turn :=
  if frame.isAnswer then t.publish .joined else t

/-- Passes a frame on, if it may pass. -/
def receive (t : Turn) (link : Link) (bytes : List UInt8) : Turn :=
  match InboundFrame.parse bytes with
  | .error _ => t
  | .ok frame =>
    if frame.passes t.connection.state then
      let t := t.complete frame
      if t.connection.listening then t.tell (.frame frame) else t.endLink link .closed
    else t

/-- Takes an answer to a look-up behind the attempt's back.  Only an answer of this round
with addresses counts; one that differs from the addresses in use ends the link. -/
def refresh (t : Turn) (link : Link) (round : Nat) (answer : LookupAnswer) : Turn :=
  match answer with
  | .error _ => t
  | .ok fresh =>
    if round ≠ t.connection.round ∨ fresh.isEmpty then t
    else
      match link.cached with
      | none => t.store fresh
      | some known =>
        if known.sameSet fresh then t else (t.store fresh).endLink link .staleAddress

/-- What an input does while a socket is served. -/
def serve (t : Turn) (link : Link) : RelayInput → Turn
  | .takeRequest =>
    match t.connection.inbox with
    | [] => t
    | request :: rest => (t.update fun c => { c with inbox := rest }).carryOut link request
  | .takeAnswer =>
    match t.connection.answers with
    | [] => t
    | (round, answer) :: rest =>
      (t.update fun c => { c with answers := rest }).refresh link round answer
  | .sent socket result =>
    if socket = link.socket then
      match result with
      | .ok () => t.acknowledge link
      | .error _ => t.endLink link .lost
    else t
  | .received socket bytes => if socket = link.socket then t.receive link bytes else t
  | .socketLost socket =>
    if socket = link.socket then t.endLink link .lost else t
  | .noticeCancel => if t.connection.cancelled then t.endLink link .closed else t
  | _ => t

/-- What an input does in any other phase. -/
def advance (t : Turn) : Phase → RelayInput → Turn
  | .idle, .start => t.attempt
  | .resolving, .resolved round answer =>
    if round = t.connection.round then t.resolve answer else t
  | .resolving, .noticeCancel => if t.connection.cancelled then t.finish else t
  | .dialing cached, .dialed round result =>
    if round = t.connection.round then
      match result with
      | .ok socket => t.establish ⟨socket, cached⟩
      | .error _ => t.failDial cached
    else t
  | .dialing cached, .dialTimeout round =>
    if round = t.connection.round then t.failDial cached else t
  | .dialing _, .noticeCancel => if t.connection.cancelled then t.finish else t
  | .waiting, .retryDue => t.attempt
  | .waiting, .takeRequest => t.update fun c => { c with inbox := c.inbox.tail }
  | .waiting, .noticeCancel => if t.connection.cancelled then t.finish else t
  | .waiting, .noticeAbort => if t.connection.aborted then t.giveUp .aborted else t
  | .serving link, input => t.serve link input
  | _, _ => t

/-- One step of a connection. -/
def step (t : Turn) (input : RelayInput) : Turn :=
  match input with
  | .refreshed round answer =>
    t.update fun c => { c with answers := c.answers ++ [(round, answer)] }
  | _ => t.advance t.connection.phase input

end Turn

end GroupCall
