/-
# Whether the request to join is on its way

To take a request to join, a connection publishes that we are joining and then queues the command,
and the second of these can fail: if the queue is full the command is lost, while the published
state stays.  So what was put on its way for a socket is kept as its cargo, next to whether a
request to join found no room.  The cargo is exactly what was handed to the socket and what waits
for it, and it holds a request to join exactly if we have asked for one and it was not lost.
-/
import GroupCall.Proofs.Relay.Outcomes
import GroupCall.Proofs.Relay.Queue
import GroupCall.Proofs.Relay.Sockets

namespace GroupCall

/-- What was put on its way for a socket. -/
structure Cargo where
  /-- The requests, oldest first. -/
  loaded : List RelayRequest
  /-- Whether a request to join found no room. -/
  spilled : Bool
deriving DecidableEq, Repr

/-- Nothing was put on its way. -/
def Cargo.empty : Cargo := ⟨[], false⟩

/-- A request is put on its way, if there is room. -/
def Cargo.add (g : Cargo) (request : RelayRequest) (room : Bool) : Cargo :=
  if room then { g with loaded := g.loaded ++ [request] }
  else { g with spilled := g.spilled || request.isJoin }

namespace Connection

/-- Whether a request that is taken is carried out: a second one to join is not. -/
def heeds (c : Connection) (request : RelayRequest) : Bool :=
  !request.isJoin || decide (c.state = .connected)

/-- What becomes of the cargo when a request is taken. -/
def freight (c : Connection) (g : Cargo) (request : RelayRequest) : Cargo :=
  if c.heeds request then g.add request c.queue.hasRoom else g

/-- The request that is taken in a step. -/
def taken? (c : Connection) : RelayStep → Option RelayRequest
  | .input _ .takeRequest => c.inbox.head?
  | _ => none

/-- The cargo after a step; a socket that opens begins with none. -/
def load (c : Connection) (g : Cargo) (step : RelayStep) : Cargo :=
  match c.link? with
  | none => .empty
  | some _ => (c.taken? step).elim g (c.freight g)

/-- The cargo after a run. -/
def cargo (c : Connection) (g : Cargo) : List RelayStep → Cargo
  | [] => g
  | step :: rest => (c.take step).1.cargo (c.load g step) rest

variable {c : Connection} {e : Era} {loaded inbox : List RelayRequest} {link : Link} {g : Cargo}

/-! ## What was put on its way -/

/-- What was put on its way for the socket of an era was handed over or waits; `inbox` are the
requests that are still to be taken. -/
structure Laden (e : Era) (loaded inbox : List RelayRequest) (c : Connection) : Prop where
  /-- It was handed over, or waits. -/
  commands : loaded.map RelayRequest.command = e.commands ++ c.queue.waiting
  /-- It was accepted in the era. -/
  accepted : (loaded ++ inbox).Sublist e.requests
  /-- What is in flight was handed over. -/
  flight : c.queue.inFlight = true → e.commands ≠ []
  /-- Commands wait only for one that is in flight. -/
  idle : c.queue.inFlight = false → c.queue.waiting = []

namespace Laden

theorem congr (h : c.Laden e loaded inbox) {c' : Connection} (hqueue : c'.queue = c.queue) :
    c'.Laden e loaded inbox := by
  constructor
  · rw [hqueue]
    exact h.commands
  · exact h.accepted
  · rw [hqueue]
    exact h.flight
  · rw [hqueue]
    exact h.idle

/-- Whatever hands nothing over may follow. -/
theorem quiet (h : c.Laden e loaded inbox) {more : List Traffic}
    (hmore : ∀ p ∈ more, p.isQuiet = true) : c.Laden (e.add more) loaded inbox := by
  have hcommands : (e.add more).commands = e.commands := by
    rw [Era.commands_add, List.filterMap_eq_nil_iff.2, List.append_nil]
    intro p hp
    have hp' := hmore p hp
    simp_all [Traffic.isQuiet]
  constructor
  · rw [hcommands]
    exact h.commands
  · rw [Era.requests_add]
    exact h.accepted.trans (List.sublist_append_left _ _)
  · rw [hcommands]
    exact h.flight
  · exact h.idle

theorem lose {request : RelayRequest} (h : c.Laden e loaded (request :: inbox)) :
    c.Laden e loaded inbox :=
  { h with
    accepted := ((List.Sublist.refl loaded).append (List.sublist_cons_self request inbox)).trans
      h.accepted }

theorem accept (h : c.Laden e loaded inbox) (request : RelayRequest) :
    c.Laden (e.add [.accepted request]) loaded (inbox ++ [request]) := by
  have hcommands : (e.add [.accepted request]).commands = e.commands := by
    simp [List.filterMap_cons, Traffic.command?]
  constructor
  · rw [hcommands]
    exact h.commands
  · rw [Era.requests_add, ← List.append_assoc]
    exact h.accepted.append (List.Sublist.refl _)
  · rw [hcommands]
    exact h.flight
  · exact h.idle

/-- A socket that finds no room for a request was handed one, and so many more wait. -/
theorem capacity_lt (h : c.Laden e loaded inbox) (hroom : c.queue.hasRoom = false) :
    c.queue.capacity < loaded.length := by
  obtain ⟨hflight, hfull⟩ := SendQueue.hasRoom_eq_false_iff.1 hroom
  have hhanded : 0 < e.commands.length := List.length_pos_iff.2 (h.flight hflight)
  have hlength := congrArg List.length h.commands
  rw [List.length_map, List.length_append] at hlength
  omega

end Laden
end Connection

namespace Turn

variable {t : Turn} {e : Era} {loaded inbox : List RelayRequest} {link : Link}

/-- What was put on its way, with what was handed over in the turn; the era `e` is the one before
the turn. -/
def Laden (e : Era) (loaded inbox : List RelayRequest) (t : Turn) : Prop :=
  t.connection.Laden (e.add t.traffic) loaded inbox

/-- A command is handed over, before all that waits. -/
theorem laden_hand {loaded inbox : List RelayRequest} {command : OutboundCommand}
    {queue : SendQueue OutboundCommand}
    (hcommands : loaded.map RelayRequest.command =
      (e.add t.traffic).commands ++ command :: queue.waiting)
    (haccepted : (loaded ++ inbox).Sublist (e.add t.traffic).requests)
    (hflight : queue.inFlight = true) :
    ((t.update fun c => { c with queue := queue }).ask
      (.transmit link.socket command)).Laden e loaded inbox := by
  have htraffic : e.add ((t.update fun c => { c with queue := queue }).ask
      (.transmit link.socket command)).traffic =
        (e.add t.traffic).add [.handed link.socket command] := by
    rw [traffic_ask, traffic_update, Era.add_add]
    rfl
  have hhanded : ((e.add t.traffic).add [.handed link.socket command]).commands =
      (e.add t.traffic).commands ++ [command] := Era.commands_add _ _
  rw [Laden, htraffic]
  constructor
  · rw [hhanded, List.append_assoc]
    exact hcommands
  · rw [Era.requests_add]
    exact haccepted.trans (List.sublist_append_left _ _)
  · intro _
    rw [hhanded]
    simp
  · intro hidle
    change queue.inFlight = false at hidle
    rw [hflight] at hidle
    cases hidle

namespace Laden

theorem congr (h : t.Laden e loaded inbox) {t' : Turn} (htraffic : t'.traffic = t.traffic)
    (hqueue : t'.connection.queue = t.connection.queue) : t'.Laden e loaded inbox := by
  rw [Turn.Laden, htraffic]
  exact Connection.Laden.congr h hqueue

/-- A request is put on its way if there is room, and lost otherwise. -/
theorem enqueue {request : RelayRequest} (h : t.Laden e loaded (request :: inbox)) :
    (t.enqueue link request.command).Laden e
      (if t.connection.queue.hasRoom then loaded ++ [request] else loaded) inbox := by
  have haccepted : (loaded ++ [request] ++ inbox).Sublist (e.add t.traffic).requests := by
    simpa using h.accepted
  rw [Turn.enqueue]
  cases hflight : t.connection.queue.inFlight with
  | true =>
    by_cases hfull : t.connection.queue.capacity ≤ t.connection.queue.waiting.length
    · rw [SendQueue.push_of_full hflight hfull,
        SendQueue.hasRoom_eq_false_iff.2 ⟨hflight, hfull⟩]
      exact h.lose
    · have hroom := Nat.lt_of_not_le hfull
      rw [SendQueue.push_of_room hflight hroom, SendQueue.hasRoom_of_lt hroom]
      refine ⟨?_, haccepted, fun _ => h.flight hflight, fun hidle => ?_⟩
      · rw [if_pos rfl, List.map_append, h.commands, List.append_assoc]
        rfl
      · cases hflight.symm.trans hidle
  | false =>
    have hidle : t.connection.queue.waiting = [] := h.idle hflight
    rw [SendQueue.push_of_idle hflight, SendQueue.hasRoom_of_idle hflight]
    refine laden_hand ?_ haccepted rfl
    rw [if_pos rfl, List.map_append, h.commands, hidle, List.append_nil]
    rfl

/-- An acknowledgement lets the next command be handed over. -/
theorem acknowledge (h : t.Laden e loaded inbox) : (t.acknowledge link).Laden e loaded inbox := by
  rw [Turn.acknowledge]
  have hcommands := h.commands
  cases hwaiting : t.connection.queue.waiting with
  | nil =>
    rw [SendQueue.acknowledge_of_nil hwaiting]
    exact ⟨hcommands, h.accepted, fun hflight => (by cases hflight), fun _ => hwaiting⟩
  | cons command rest =>
    rw [hwaiting] at hcommands
    rw [SendQueue.acknowledge_of_cons hwaiting]
    exact laden_hand hcommands h.accepted rfl

end Laden

theorem capacity_enqueue (t : Turn) (link : Link) (command : OutboundCommand) :
    (t.enqueue link command).connection.queue.capacity = t.connection.queue.capacity := by
  rw [enqueue]
  split
  · rename_i hpush
    exact SendQueue.capacity_push hpush
  · rename_i hpush
    exact SendQueue.capacity_push hpush
  · rfl

theorem capacity_acknowledge (t : Turn) (link : Link) :
    (t.acknowledge link).connection.queue.capacity = t.connection.queue.capacity := by
  have hcapacity := SendQueue.capacity_acknowledge t.connection.queue
  rw [acknowledge]
  cases hsent : t.connection.queue.acknowledge with
  | mk queue next =>
    rw [hsent] at hcapacity
    cases next <;> exact hcapacity

end Turn

/-! ## The balance of requests to join -/

namespace Connection

variable {c c' : Connection} {g : Cargo} {log : List Traffic}

/-- The cargo holds a request to join exactly if one was taken and found room. -/
structure Balanced (g : Cargo) (c : Connection) : Prop where
  /-- How many requests to join it holds. -/
  joins : g.loaded.countP RelayRequest.isJoin =
    if c.state = .connected ∨ g.spilled = true then 0 else 1
  /-- A request to join was lost after it was published, behind more than may wait. -/
  spilled : g.spilled = true → c.state ≠ .connected ∧ c.queue.capacity < g.loaded.length

namespace Balanced

/-- The answer changes nothing. -/
theorem congr (h : Balanced g c) (hstate : c'.state = .connected ↔ c.state = .connected)
    (hcapacity : c'.queue.capacity = c.queue.capacity) : Balanced g c' := by
  constructor
  · simp only [hstate]
    exact h.joins
  · intro hspilled
    rw [Ne, hstate, hcapacity]
    exact h.spilled hspilled

/-- A command that is not a request to join. -/
theorem send (h : Balanced g c) (command : OutboundCommand) (room : Bool)
    (hstate : c'.state = c.state) (hcapacity : c'.queue.capacity = c.queue.capacity) :
    Balanced (g.add (.send command) room) c' := by
  have hsame : Balanced g c' := h.congr (by rw [hstate]) hcapacity
  cases room with
  | true =>
    constructor
    · simpa [Cargo.add, RelayRequest.isJoin] using hsame.joins
    · intro hspilled
      obtain ⟨hstate', hlt⟩ := hsame.spilled hspilled
      refine ⟨hstate', Nat.lt_of_lt_of_le hlt ?_⟩
      simp [Cargo.add]
  | false => simpa [Cargo.add, RelayRequest.isJoin] using hsame

/-- The first request to join. -/
theorem join (h : Balanced g c) (hconnected : c.state = .connected) (command : OutboundCommand)
    {room : Bool} (hfull : room = false → c.queue.capacity < g.loaded.length)
    (hstate : c'.state = .joining) (hcapacity : c'.queue.capacity = c.queue.capacity) :
    Balanced (g.add (.join command) room) c' := by
  have hnone : g.loaded.countP RelayRequest.isJoin = 0 := by
    rw [h.joins, if_pos (Or.inl hconnected)]
  have hkept : ¬ g.spilled = true := fun hspilled => (h.spilled hspilled).1 hconnected
  cases room with
  | true =>
    constructor
    · simp [Cargo.add, hnone, hkept, hstate, RelayRequest.isJoin]
    · intro hspilled
      exact absurd hspilled hkept
  | false =>
    constructor
    · simp [Cargo.add, hnone, RelayRequest.isJoin]
    · intro _
      rw [hstate, hcapacity]
      exact ⟨by simp, hfull rfl⟩

end Balanced

/-- A request that is taken is put on its way, or lost. -/
theorem ships_carryOut {t : Turn} {e : Era} {request : RelayRequest} {inbox : List RelayRequest}
    (link : Link) (hladen : t.Laden e g.loaded (request :: inbox))
    (hbalanced : t.connection.Balanced g) :
    (t.carryOut link request).Laden e (t.connection.freight g request).loaded inbox ∧
      (t.carryOut link request).connection.Balanced (t.connection.freight g request) := by
  have hloaded : ∀ room, (g.add request room).loaded =
      if room = true then g.loaded ++ [request] else g.loaded := by
    intro room
    cases room <;> rfl
  cases request with
  | send command =>
    have hfreight : t.connection.freight g (.send command) =
        g.add (.send command) t.connection.queue.hasRoom := rfl
    obtain ⟨queue, hconnection⟩ := Turn.connection_enqueue t link command
    rw [hfreight, hloaded, Turn.carryOut]
    refine ⟨hladen.enqueue, hbalanced.send command _ ?_ (Turn.capacity_enqueue t link command)⟩
    rw [hconnection]
  | join command =>
    by_cases hconnected : t.connection.state = .connected
    · have hfreight : t.connection.freight g (.join command) =
          g.add (.join command) t.connection.queue.hasRoom :=
        if_pos (by simp [heeds, hconnected])
      have hpublished : (t.publish .joining).connection.queue = t.connection.queue := by
        rw [Turn.connection_publish]
      have hbegun : (t.publish .joining).Laden e g.loaded (.join command :: inbox) :=
        hladen.congr (Turn.traffic_publish t _) hpublished
      have hqueued := @Turn.Laden.enqueue _ _ _ _ link _ hbegun
      obtain ⟨queue, hconnection⟩ := Turn.connection_enqueue (t.publish .joining) link command
      rw [hfreight, hloaded, Turn.carryOut, if_pos hconnected]
      rw [hpublished] at hqueued
      refine ⟨hqueued, hbalanced.join hconnected command hladen.capacity_lt ?_ ?_⟩
      · rw [hconnection]
        exact Turn.state_publish t _
      · rw [Turn.capacity_enqueue, hpublished]
    · have hfreight : t.connection.freight g (.join command) = g :=
        if_neg (by simp [heeds, hconnected, RelayRequest.isJoin])
      rw [hfreight, Turn.carryOut, if_neg hconnected]
      exact ⟨hladen.lose, hbalanced⟩

/-- A connection that serves a socket ships its cargo. -/
def Ships (log : List Traffic) (g : Cargo) (c : Connection) : Prop :=
  ∀ link, c.link? = some link → ∃ e rest, eras log = e :: rest ∧
    c.Laden e g.loaded c.inbox ∧ c.Balanced g

theorem connection_establish (t : Turn) (link : Link) :
    (t.establish link).connection = { t.connection with
      inbox := [], queue := t.connection.queue.clear, state := .connected
      backoff := t.connection.backoff.reset, phase := .serving link } := by
  rw [Turn.establish]
  simp only [Turn.update, Turn.connection_publish]

/-- A socket that opens has no cargo. -/
theorem ships_establish (log : List Traffic) (t : Turn) (link : Link) :
    (t.establish link).connection.Ships (log ++ [.opened link.socket]) .empty := by
  intro link' hlink
  rw [connection_establish] at hlink ⊢
  refine ⟨_, _, eras_opened log link.socket, ?_, ?_⟩
  · exact ⟨rfl, List.Sublist.refl _, fun hflight => (by cases hflight), fun _ => rfl⟩
  · exact ⟨rfl, fun hspilled => (by cases hspilled)⟩

namespace Ships

/-- Nothing is taken while no request waits. -/
theorem taken?_eq_none (cache : DnsCache) {input : RelayInput}
    (h : input = .takeRequest → c.inbox = []) : c.taken? (.input cache input) = none := by
  cases input with
  | takeRequest =>
    rw [taken?, h rfl]
    rfl
  | _ => rfl

theorem load_eq {link : Link} (hlink : c.link? = some link) (g : Cargo) {step : RelayStep}
    (h : c.taken? step = none) : c.load g step = g := by
  rw [load, hlink, h]
  rfl

theorem input (h : c.Ships log g) (hstands : c.Stands log) (cache : DnsCache)
    (input : RelayInput) :
    (c.take (.input cache input)).1.Ships (log ++ c.traffic (.input cache input))
      (c.load g (.input cache input)) := by
  have hquiet := fun p hp => (input.isQuiet_traffic p hp).1
  have hopens := fun p hp => (input.isQuiet_traffic p hp).2
  rw [Connection.take, Connection.traffic]
  cases hlink : c.link? with
  | none =>
    have hdown : Turn.Down [] ⟨c, cache, []⟩ := ⟨rfl, hstands.offline hlink, hlink⟩
    rcases Turn.step_of_down (t := ⟨c, cache, []⟩) hdown input with hafter | ⟨link, hafter⟩
    · intro link hlink'
      rw [hafter.link] at hlink'
      cases hlink'
    · obtain ⟨htraffic, hserves⟩ := Turn.serves_establish ⟨c, cache, []⟩ link
      have hempty : c.load g (.input cache input) = .empty := by rw [load, hlink]
      rw [hafter, htraffic, opening, hlink, hserves.link?_eq, hempty]
      simpa [Turn.traffic] using ships_establish (log ++ input.traffic) ⟨c, cache, []⟩ link
  | some link =>
    obtain ⟨e, rest, heras, hladen, hbalanced⟩ := h link hlink
    have hphase : c.phase = .serving link := phase_of_link? hlink
    have hbefore : Turn.Laden (e.add input.traffic) g.loaded c.inbox ⟨c, cache, []⟩ := by
      rw [Turn.Laden, show Turn.traffic ⟨c, cache, []⟩ = [] from rfl, Era.add_nil]
      exact hladen.quiet hquiet
    have houtcome := Turn.outcome_step (t := ⟨c, cache, []⟩) hphase input
    generalize Turn.step ⟨c, cache, []⟩ input = t at houtcome
    have hopening : c.opening t.connection = [] := by rw [opening, hlink]
    have hmore : ∀ p ∈ input.traffic ++ t.traffic, p.opens = false :=
      List.forall_mem_append.2 ⟨hopens, t.opens_traffic⟩
    rw [hopening, List.append_nil]
    intro link' hlink'
    -- the era goes on, and what remains is what became of the cargo
    suffices hafter : t.Laden (e.add input.traffic) (c.load g (.input cache input)).loaded
        t.connection.inbox ∧ t.connection.Balanced (c.load g (.input cache input)) by
      refine ⟨_, _, eras_append heras hmore, ?_, hafter.2⟩
      rw [← Era.add_add]
      exact hafter.1
    cases houtcome with
    | passes hpassed hinbox =>
      rw [load_eq hlink g (taken?_eq_none cache hinbox)]
      obtain ⟨answers, hconnection⟩ := hpassed.connection
      have hinbox' : t.connection.inbox = c.inbox := by rw [hconnection]
      refine ⟨?_, hbalanced.congr ?_ (by rw [hpassed.queue])⟩
      · rw [hinbox']
        exact hbefore.congr hpassed.traffic hpassed.queue
      · rcases hpassed.state with hsame | ⟨hjoining, hjoined⟩
        · rw [hsame]
        · rw [hjoined, hjoining]
          simp
    | @takes request inbox hinbox =>
      have hload : c.load g (.input cache .takeRequest) = c.freight g request := by
        rw [load, hlink, taken?, show c.inbox = request :: inbox from hinbox]
        rfl
      have hinbox' := Turn.inbox_carryOut
        (Turn.update ⟨c, cache, []⟩ fun c => { c with inbox := inbox }) link request
      rw [hload, hinbox']
      rw [hinbox] at hbefore
      exact ships_carryOut link (hbefore.congr rfl rfl) (hbalanced.congr Iff.rfl rfl)
    | acknowledges =>
      have hnone : c.load g (.input cache (.sent link.socket (.ok ()))) = g :=
        load_eq hlink g rfl
      obtain ⟨queue, hconnection⟩ := Turn.connection_acknowledge ⟨c, cache, []⟩ link
      rw [hnone]
      refine ⟨?_, hbalanced.congr ?_ (Turn.capacity_acknowledge _ link)⟩
      · rw [hconnection]
        exact hbefore.acknowledge
      · rw [hconnection]
    | ends hpassed why hinput hclosed hstale =>
      rw [(Turn.down_endLink _ link why).link] at hlink'
      cases hlink'

/-- A request is accepted only while a socket is served, and is taken later. -/
theorem post (h : c.Ships log g) (request : RelayRequest) :
    (c.take (.post request)).1.Ships (log ++ c.traffic (.post request))
      (c.load g (.post request)) := by
  rw [Connection.take, Connection.traffic, Connection.post]
  cases hcheck : request.check c.state with
  | error _ =>
    intro link hlink
    have hserved : c.link? = some link := hlink
    rw [load_eq hserved g rfl]
    exact (List.append_nil log).symm ▸ h link hserved
  | ok _ =>
    have honline := RelayRequest.isOnline_of_check hcheck
    intro link hlink
    have hserved : c.link? = some link := hlink
    obtain ⟨e, rest, heras, hladen, hbalanced⟩ := h link hserved
    rw [load_eq hserved g rfl]
    exact ⟨_, rest, eras_append heras (List.forall_mem_singleton.2 rfl),
      (hladen.accept request).congr rfl, hbalanced.congr Iff.rfl rfl⟩

/-- What the owner does otherwise has nothing to do with the cargo. -/
theorem owner (h : c.Ships log g) {step : RelayStep} (htaken : c.taken? step = none)
    (htraffic : c.traffic step = []) {c' : Connection} (hphase : c'.phase = c.phase)
    (hstate : c'.state = c.state) (hqueue : c'.queue = c.queue) (hinbox : c'.inbox = c.inbox) :
    c'.Ships (log ++ c.traffic step) (c.load g step) := by
  intro link hserved
  have hlink : c.link? = some link := by rwa [link?, hphase] at hserved
  obtain ⟨e, rest, heras, hladen, hbalanced⟩ := h link hlink
  rw [load_eq hlink g htaken, htraffic, List.append_nil, hinbox]
  exact ⟨e, rest, heras, hladen.congr hqueue, hbalanced.congr (by rw [hstate]) (by rw [hqueue])⟩

theorem take (h : c.Ships log g) (hstands : c.Stands log) (step : RelayStep) :
    (c.take step).1.Ships (log ++ c.traffic step) (c.load g step) := by
  cases step with
  | input cache input => exact h.input hstands cache input
  | post request => exact h.post request
  | _ => exact h.owner rfl rfl rfl rfl rfl rfl

theorem run (h : c.Ships log g) (hstands : c.Stands log) (steps : List RelayStep) :
    (c.run steps).Ships (log ++ c.traffics steps) (c.cargo g steps) := by
  induction steps generalizing c log g with
  | nil => simpa [traffics, Connection.run, cargo] using h
  | cons step rest ih =>
    rw [traffics, ← List.append_assoc]
    exact ih (h.take hstands step) (hstands.take step)

end Ships

/-- In every run of a connection, what was put on its way for the socket that is served was
accepted while it was open, in this order, and was handed to this socket and no other, or waits for
it.  Once the connection is joining, or has joined, one request to join is part of it, unless it
found no room: then it is not sent on this socket, though the published state says so. -/
theorem join_along_runs {id : Nat} {url : String} {config : RelayConfig}
    (h : ofUrl id url config = .ok c) (steps : List RelayStep) {link : Link}
    (hlink : (c.run steps).link? = some link) :
    ∃ e rest, eras (c.traffics steps) = e :: rest ∧
      (∀ socket command, .handed socket command ∈ e.traffic → socket = link.socket) ∧
      (c.cargo .empty steps).loaded.Sublist e.requests ∧
      (c.cargo .empty steps).loaded.map RelayRequest.command =
        e.commands ++ (c.run steps).queue.waiting ∧
      (c.run steps).Balanced (c.cargo .empty steps) := by
  have hstands := stands_ofUrl h
  have hships : c.Ships [] .empty := by
    intro link hlink
    obtain ⟨e, rest, hnone, -⟩ := hstands.serves link hlink
    cases hnone
  obtain ⟨e, rest, heras, hladen, hbalanced⟩ := hships.run hstands steps link hlink
  obtain ⟨e', rest', heras', hserves⟩ := (hstands.run steps).serves link hlink
  rw [List.nil_append] at heras heras'
  obtain ⟨rfl, rfl⟩ := List.cons_eq_cons.1 (heras'.symm.trans heras)
  refine ⟨e', rest', heras, ?_, ?_, hladen.commands, hbalanced⟩
  · intro socket command hmem
    rw [hserves.own socket command hmem]
    exact hserves.socket
  · exact (List.sublist_append_left _ _).trans hladen.accepted

/-- The socket is slow, so the request to join comes behind a command that is being sent and one
that waits. -/
def joinBehind : List RelayStep :=
  [.input .empty .start, .input .empty (.resolved 1 (.ok ⟨[⟨0x0A000001⟩], []⟩)),
    .input .empty (.dialed 1 (.ok 0)), .post (.send (.speakRequest none)),
    .input .empty .takeRequest, .post (.send (.speakerDel none)), .input .empty .takeRequest,
    .post joinRequest, .input .empty .takeRequest]

/-- What can be seen of a connection after the request to join was taken: the published state, the
socket, the commands that it was handed and those that wait. -/
def outlook (c : Connection) (steps : List RelayStep) :
    RelayState × Option Link × List (List OutboundCommand) × List OutboundCommand :=
  ((c.run steps).state, (c.run steps).link?, (eras (c.traffics steps)).map Era.commands,
    (c.run steps).queue.waiting)

/-- A queue that has room holds the request to join. -/
theorem join_waits : ∃ c, ofUrl 1 "ws://10.0.0.1" .standard = .ok c ∧
    c.outlook joinBehind = (.joining, some ⟨0, none⟩, [[.speakRequest none]],
      [.speakerDel none, joinRequest.command]) ∧
    ∃ e rest, eras (c.traffics joinBehind) = e :: rest ∧
      (∀ socket command, .handed socket command ∈ e.traffic → socket = 0) ∧
      (c.cargo .empty joinBehind).loaded.Sublist e.requests ∧
      (c.cargo .empty joinBehind).loaded.map RelayRequest.command =
        e.commands ++ (c.run joinBehind).queue.waiting ∧
      (c.run joinBehind).Balanced (c.cargo .empty joinBehind) := by
  obtain ⟨c, h, houtlook⟩ : ∃ c, ofUrl 1 "ws://10.0.0.1" .standard = .ok c ∧
      c.outlook joinBehind = (.joining, some ⟨0, none⟩, [[.speakRequest none]],
        [.speakerDel none, joinRequest.command]) :=
    exists_of_map_ofUrl (by decide +kernel)
  have hlink : (c.run joinBehind).link? = some ⟨0, none⟩ := congrArg (fun o => o.2.1) houtlook
  exact ⟨c, h, houtlook, join_along_runs h joinBehind hlink⟩

/-- A queue in which a single command may wait. -/
def narrow : RelayConfig := { RelayConfig.standard with queueCapacity := 1 }

/-- With a queue in which a single command may wait, the same run leaves the connection joining,
while the request to join was neither handed over nor waits. -/
theorem join_spilled : ∃ c, ofUrl 1 "ws://10.0.0.1" narrow = .ok c ∧
    c.outlook joinBehind = (.joining, some ⟨0, none⟩, [[.speakRequest none]],
      [.speakerDel none]) :=
  exists_of_map_ofUrl (by decide +kernel)

end Connection
end GroupCall
