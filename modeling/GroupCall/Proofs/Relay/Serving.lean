/-
# Serving a socket

While a connection serves a socket, what was handed over, what waits in the queue and what
waits in the inbox are one list, in the order in which the owner had it accepted.  An input
moves a command from one part of the list to the next, or loses it, and never puts one back.
Where a link ends, no socket is left, and a socket that is opened finds nothing that waits.
-/
import GroupCall.Proofs.Relay.Eras
import GroupCall.Proofs.Relay.Queue
import GroupCall.Proofs.Relay.Runs

namespace GroupCall

/-- What an action lets pass. -/
def RelayAction.traffic? : RelayAction → Option Traffic
  | .transmit socket command => some (.handed socket command)
  | .hangUp socket => some (.closed socket)
  | _ => none

/-- What an input reports of a socket. -/
def RelayInput.traffic : RelayInput → List Traffic
  | .sent socket (.ok ()) => [.acknowledged socket]
  | _ => []

/-- What passes in a turn. -/
def Turn.traffic (t : Turn) : List Traffic := t.actions.filterMap RelayAction.traffic?

/-! ## Serving a socket -/

namespace Connection

open Traffic

variable {c : Connection} {e : Era} {joins : Nat} {inbox : List RelayRequest} {link : Link}

/-- A connection serves a socket; `inbox` are the requests that it has still to take. -/
structure Serves (e : Era) (joins : Nat) (inbox : List RelayRequest) (link : Link)
    (c : Connection) : Prop where
  /-- The era is the one of the socket. -/
  socket : e.socket = link.socket
  /-- The socket is the one of the phase. -/
  phase : c.phase = .serving link
  /-- A socket is open. -/
  online : c.state.isOnline = true
  /-- No other socket is handed anything. -/
  own : ∀ socket command, .handed socket command ∈ e.traffic → socket = e.socket
  /-- The socket was not closed. -/
  live : .closed e.socket ∉ e.traffic
  /-- What waits was accepted in the era. -/
  holds : e.Holds joins c.queue.waiting inbox
  /-- Each command is handed over once the one before it was acknowledged. -/
  paced : Paced e.socket false e.traffic
  /-- A command that has yet to be acknowledged is in flight. -/
  busy : underway e.socket false e.traffic = true → c.queue.inFlight = true
  /-- Commands wait only for one that is in flight. -/
  idle : c.queue.inFlight = false → c.queue.waiting = []

namespace Serves

/-- As far as a socket was served its era stands for itself. -/
theorem isolated (h : c.Serves e joins inbox link) (hjoins : joins ≤ 1) : e.Isolated where
  own := h.own
  ordered := by
    obtain ⟨handed, queued, hsub, hhanded, -, hcount⟩ := h.holds
    rw [List.append_assoc] at hsub
    rw [List.countP_append] at hcount
    exact ⟨handed, (List.sublist_append_left handed _).trans hsub, hhanded, by omega⟩
  paced := h.paced
  ended := ⟨e.traffic, [], (List.append_nil _).symm, h.live, List.forall_mem_nil _⟩

theorem link?_eq (h : c.Serves e joins inbox link) : c.link? = some link := by
  rw [link?, h.phase]

/-- Nothing matters but the phase, the published state and the queue. -/
theorem congr (h : c.Serves e joins inbox link) {c' : Connection} (hphase : c'.phase = c.phase)
    (honline : c'.state.isOnline = true) (hqueue : c'.queue = c.queue) :
    c'.Serves e joins inbox link where
  socket := h.socket
  phase := hphase.trans h.phase
  online := honline
  own := h.own
  live := h.live
  holds := hqueue ▸ h.holds
  paced := h.paced
  busy := hqueue ▸ h.busy
  idle := hqueue ▸ h.idle

theorem mono (h : c.Serves e joins inbox link) {joins' : Nat} (hle : joins ≤ joins') :
    c.Serves e joins' inbox link :=
  { h with holds := h.holds.mono hle }

theorem lose {request : RelayRequest} (h : c.Serves e joins (request :: inbox) link) :
    c.Serves e joins inbox link :=
  { h with holds := h.holds.lose }

theorem accept (h : c.Serves e joins inbox link) (request : RelayRequest) :
    c.Serves (e.add [.accepted request]) joins (inbox ++ [request]) link where
  socket := h.socket
  phase := h.phase
  online := h.online
  own socket command hmem := h.own socket command (by simpa [Era.add] using hmem)
  live hmem := h.live (by simpa [Era.add] using hmem)
  holds := h.holds.accept request
  paced := (paced_append _ _ _ _).2 ⟨h.paced, trivial⟩
  busy := by
    rw [Era.add, underway_append]
    exact h.busy
  idle := h.idle

/-- An acknowledgement, even one of another socket. -/
theorem acknowledged (h : c.Serves e joins inbox link) (socket : Nat) :
    c.Serves (e.add [.acknowledged socket]) joins inbox link where
  socket := h.socket
  phase := h.phase
  online := h.online
  own other command hmem := h.own other command (by simpa [Era.add] using hmem)
  live hmem := h.live (by simpa [Era.add] using hmem)
  holds := h.holds.quiet rfl
  paced := (paced_append _ _ _ _).2 ⟨h.paced, trivial⟩
  busy := by
    intro hbusy
    rw [Era.add, underway_append, underway, underway] at hbusy
    split at hbusy
    · cases hbusy
    · exact h.busy hbusy
  idle := h.idle

/-- The queue hands over its oldest command, where none has yet to be acknowledged. -/
theorem hand {command : OutboundCommand} {waiting : List OutboundCommand}
    (h : c.Serves e joins inbox link) (hholds : e.Holds joins (command :: waiting) inbox)
    (hfree : underway e.socket false e.traffic = false) {c' : Connection}
    (hphase : c'.phase = c.phase) (hstate : c'.state = c.state)
    (hflight : c'.queue.inFlight = true) (hwaiting : c'.queue.waiting = waiting) :
    c'.Serves (e.add [.handed link.socket command]) joins inbox link where
  socket := h.socket
  phase := hphase.trans h.phase
  online := hstate ▸ h.online
  own := by
    intro socket command hmem
    rcases List.mem_append.1 hmem with hmem | hmem
    · exact h.own socket command hmem
    · cases List.mem_singleton.1 hmem
      exact h.socket.symm
  live hmem := h.live (by simpa [Era.add] using hmem)
  holds := by
    rw [hwaiting]
    exact hholds.hand link.socket
  paced := (paced_append _ _ _ _).2 ⟨h.paced, hfree, trivial⟩
  busy _ := hflight
  idle hidle := by
    rw [hflight] at hidle
    cases hidle

end Serves
end Connection

namespace Turn

open Traffic

variable {t : Turn} {e : Era} {joins : Nat} {inbox : List RelayRequest} {link : Link}

/-! ## What passes in a turn -/

@[simp] theorem traffic_update (t : Turn) (f : Connection → Connection) :
    (t.update f).traffic = t.traffic := rfl

@[simp] theorem traffic_enter (t : Turn) (phase : Phase) :
    (t.enter phase).traffic = t.traffic := rfl

theorem traffic_ask (t : Turn) (action : RelayAction) :
    (t.ask action).traffic = t.traffic ++ action.traffic?.toList := by
  cases h : action.traffic? <;> simp [traffic, ask, h]

@[simp] theorem traffic_tell (t : Turn) (n : RelayNews) : (t.tell n).traffic = t.traffic := by
  rw [tell]
  split
  · rw [traffic_ask]
    exact List.append_nil _
  · rfl

@[simp] theorem traffic_tryTell (t : Turn) (n : RelayNews) :
    (t.tryTell n).traffic = t.traffic := by
  rw [tryTell]
  split
  · exact traffic_tell t n
  · rfl

@[simp] theorem traffic_publish (t : Turn) (state : RelayState) :
    (t.publish state).traffic = t.traffic := by
  rw [publish]
  split
  · rfl
  · rw [traffic_tell, traffic_update]

/-- No action opens a socket. -/
theorem opens_traffic (t : Turn) : ∀ p ∈ t.traffic, p.opens = false := by
  intro p hp
  obtain ⟨action, -, haction⟩ := List.mem_filterMap.1 hp
  cases action with
  | transmit socket command =>
    cases haction
    rfl
  | hangUp socket =>
    cases haction
    rfl
  | _ => cases haction

/-! ## Without a socket -/

/-- No socket is served, and `log` is what passed. -/
structure Down (log : List Traffic) (t : Turn) : Prop where
  /-- What passed. -/
  traffic : t.traffic = log
  /-- No socket is open. -/
  offline : t.connection.state.isOnline = false
  /-- No socket is served. -/
  link : t.connection.link? = none

theorem down_finish (t : Turn) : t.finish.Down t.traffic := by
  constructor
  · rw [finish, traffic_tryTell, traffic_enter, traffic_update]
  · rw [connection_finish]
    rfl
  · rw [connection_finish]
    rfl

theorem down_giveUp (t : Turn) (error : RelayError) : (t.giveUp error).Down t.traffic := by
  have h := down_finish (t.tell (.failed error))
  rwa [traffic_tell] at h

/-- After a failure no socket is left, whatever was there before. -/
theorem down_fail (t : Turn) : t.fail.Down t.traffic := by
  have htraffic : ((t.update fun c => { c with preferV6 := !c.preferV6 }).publish
      .disconnected).traffic = t.traffic := traffic_publish _ _
  have hstate := state_publish (t.update fun c => { c with preferV6 := !c.preferV6 }) .disconnected
  rw [fail]
  generalize (t.update fun c => { c with preferV6 := !c.preferV6 }).publish .disconnected = d
    at htraffic hstate
  rw [← htraffic]
  split
  · exact down_giveUp d _
  · split
    · exact down_giveUp d _
    · constructor
      · rw [traffic_ask]
        exact List.append_nil _
      · change d.connection.state.isOnline = false
        rw [hstate]
        rfl
      · rfl

theorem down_dial (t : Turn) (addresses : Addresses) (cached : Option Addresses) :
    (t.dial addresses cached).Down t.traffic := by
  rw [dial]
  split
  · exact down_fail t
  · constructor
    · rw [traffic_ask, traffic_enter, traffic_publish]
      exact List.append_nil _
    · change (t.publish .connecting).connection.state.isOnline = false
      rw [state_publish]
      rfl
    · rfl

theorem down_attempt (t : Turn) : t.attempt.Down t.traffic := by
  have htraffic : ((t.publish .resolving).update fun c =>
      { c with round := c.round + 1 }).traffic = t.traffic := traffic_publish _ _
  have hstate : ((t.publish .resolving).update fun c =>
      { c with round := c.round + 1 }).connection.state = .resolving := state_publish _ _
  rw [attempt]
  split
  · exact down_finish t
  · dsimp only
    generalize ((t.publish .resolving).update fun c => { c with round := c.round + 1 }) = d
      at htraffic hstate
    rw [← htraffic]
    split
    · rename_i addresses _
      have h := down_dial (d.ask (.refresh d.connection.round)) addresses (some addresses)
      rwa [traffic_ask, show (RelayAction.refresh _).traffic?.toList = [] from rfl,
        List.append_nil] at h
    · constructor
      · rw [traffic_ask]
        exact List.append_nil _
      · change d.connection.state.isOnline = false
        rw [hstate]
        rfl
      · rfl

theorem down_endLink (t : Turn) (link : Link) (why : LinkEnd) :
    (t.endLink link why).Down (t.traffic ++ [.closed link.socket]) := by
  have htraffic : ((t.ask (.hangUp link.socket)).update fun c =>
      { c with queue := c.queue.clear }).traffic = t.traffic ++ [.closed link.socket] :=
    traffic_ask t _
  unfold endLink
  generalize ((t.ask (.hangUp link.socket)).update fun c => { c with queue := c.queue.clear }) = d
    at htraffic
  rw [← htraffic]
  cases why with
  | closed => exact down_finish d
  | lost => exact down_fail d
  | staleAddress =>
    have h := down_attempt (d.publish .disconnected)
    rwa [traffic_publish] at h

/-! ## With a socket -/

/-- A socket is served; the era `e` is the one before the turn. -/
def Serves (e : Era) (joins : Nat) (inbox : List RelayRequest) (link : Link) (t : Turn) : Prop :=
  t.connection.Serves (e.add t.traffic) joins inbox link

/-- After a turn the socket is still served, or it was closed and its era is complete. -/
def Lands (e : Era) (link : Link) (t : Turn) : Prop :=
  t.Serves e t.connection.state.joins t.connection.inbox link ∨
    (e.add t.traffic).Isolated ∧ t.Down t.traffic

theorem connection_enqueue (t : Turn) (link : Link) (command : OutboundCommand) :
    ∃ queue, (t.enqueue link command).connection = { t.connection with queue := queue } := by
  rw [enqueue]
  split
  · exact ⟨_, rfl⟩
  · exact ⟨_, rfl⟩
  · exact ⟨_, rfl⟩

theorem connection_acknowledge (t : Turn) (link : Link) :
    ∃ queue, (t.acknowledge link).connection = { t.connection with queue := queue } := by
  rw [acknowledge]
  dsimp only
  split
  · exact ⟨_, rfl⟩
  · exact ⟨_, rfl⟩

/-- Nothing but the queue and the published state may differ. -/
theorem connection_carryOut (t : Turn) (link : Link) (request : RelayRequest) :
    ∃ queue state, (t.carryOut link request).connection =
      { t.connection with queue := queue, state := state } := by
  cases request with
  | send command =>
    obtain ⟨queue, h⟩ := connection_enqueue t link command
    exact ⟨queue, _, h⟩
  | join command =>
    obtain ⟨queue, h⟩ := connection_enqueue (t.publish .joining) link command
    rw [carryOut]
    split
    · rw [h, connection_publish]
      exact ⟨queue, _, rfl⟩
    · exact ⟨_, _, rfl⟩

/-- What is carried out has left the inbox before. -/
theorem inbox_carryOut (t : Turn) (link : Link) (request : RelayRequest) :
    (t.carryOut link request).connection.inbox = t.connection.inbox := by
  obtain ⟨queue, state, h⟩ := connection_carryOut t link request
  rw [h]

/-- A new socket has an era of its own, and nothing waits for it. -/
theorem serves_establish (t : Turn) (link : Link) :
    (t.establish link).traffic = t.traffic ∧
      (t.establish link).connection.Serves ⟨link.socket, []⟩
        (t.establish link).connection.state.joins (t.establish link).connection.inbox link := by
  have htraffic : ((t.update fun c => { c with inbox := [], queue := c.queue.clear }).publish
      .connected).traffic = t.traffic := traffic_publish _ _
  have hconnection := connection_publish
    (t.update fun c => { c with inbox := [], queue := c.queue.clear }) .connected
  rw [establish]
  generalize (t.update fun c => { c with inbox := [], queue := c.queue.clear }).publish
    .connected = d at htraffic hconnection
  refine ⟨htraffic, ?_⟩
  change Connection.Serves _ d.connection.state.joins d.connection.inbox link _
  simp only [update, hconnection]
  constructor
  · rfl
  · rfl
  · rfl
  · intro socket command hmem
    cases hmem
  · simp
  · exact Era.Holds.begin link.socket
  · trivial
  · intro hbusy
    cases hbusy
  · intro _
    rfl

namespace Serves

theorem congr (h : t.Serves e joins inbox link) {t' : Turn} (htraffic : t'.traffic = t.traffic)
    (hphase : t'.connection.phase = t.connection.phase)
    (honline : t'.connection.state.isOnline = true)
    (hqueue : t'.connection.queue = t.connection.queue) : t'.Serves e joins inbox link := by
  rw [Turn.Serves, htraffic]
  exact Connection.Serves.congr h hphase honline hqueue

/-- The oldest request of the inbox is handed over, waits, or is lost. -/
theorem enqueue {request : RelayRequest} (h : t.Serves e joins (request :: inbox) link) :
    (t.enqueue link request.command).Serves e (joins + [request].countP RelayRequest.isJoin)
      inbox link := by
  have hwaiting := h.holds.wait
  rw [Turn.enqueue]
  cases hflight : t.connection.queue.inFlight with
  | true =>
    by_cases hfull : t.connection.queue.capacity ≤ t.connection.queue.waiting.length
    · rw [SendQueue.push_of_full hflight hfull]
      exact h.lose.mono (Nat.le_add_right _ _)
    · rw [SendQueue.push_of_room hflight (Nat.lt_of_not_le hfull)]
      exact
        { h with
          holds := hwaiting
          busy := fun _ => hflight
          idle := fun hidle => by cases hflight.symm.trans hidle }
  | false =>
    have hidle : t.connection.queue.waiting = [] := h.idle hflight
    have hfree : underway (e.add t.traffic).socket false (e.add t.traffic).traffic = false := by
      cases hbusy : underway (e.add t.traffic).socket false (e.add t.traffic).traffic with
      | false => rfl
      | true => cases hflight.symm.trans (h.busy hbusy)
    rw [SendQueue.push_of_idle hflight]
    rw [Turn.Serves, traffic_ask, ← Era.add_add]
    rw [hidle] at hwaiting
    exact (h.lose.mono (Nat.le_add_right _ _)).hand hwaiting hfree rfl rfl rfl hidle

/-- A request to join leaves the inbox once. -/
theorem carryOut {request : RelayRequest}
    (h : t.Serves e t.connection.state.joins (request :: inbox) link) :
    (t.carryOut link request).Serves e (t.carryOut link request).connection.state.joins inbox
      link := by
  cases request with
  | send command =>
    obtain ⟨queue, hconnection⟩ := connection_enqueue t link command
    have hstate : (t.enqueue link command).connection.state = t.connection.state := by
      rw [hconnection]
    rw [Turn.carryOut, hstate]
    exact h.enqueue
  | join command =>
    obtain ⟨queue, hconnection⟩ := connection_enqueue (t.publish .joining) link command
    have hstate : ((t.publish .joining).enqueue link command).connection.state = .joining := by
      rw [hconnection]
      exact state_publish t _
    rw [Turn.carryOut]
    split
    · rename_i hconnected
      rw [hstate]
      rw [hconnected] at h
      have hpublished : (t.publish .joining).Serves e 0 (.join command :: inbox) link := by
        refine h.congr (traffic_publish t _) (phase_publish t _) ?_ ?_
        · rw [state_publish]
          rfl
        · rw [connection_publish]
      exact hpublished.enqueue
    · -- someone asked to join on this socket before, so this request goes no further
      exact h.lose

/-- An acknowledgement frees the socket for the next command. -/
theorem acknowledge (h : t.Serves e joins inbox link)
    (hfree : underway (e.add t.traffic).socket false (e.add t.traffic).traffic = false) :
    (t.acknowledge link).Serves e joins inbox link := by
  rw [Turn.acknowledge]
  cases hwaiting : t.connection.queue.waiting with
  | nil =>
    rw [SendQueue.acknowledge_of_nil hwaiting]
    -- nothing waits, so the socket is idle until something is accepted
    refine ⟨h.socket, h.phase, h.online, h.own, h.live, h.holds, h.paced, ?_, fun _ => hwaiting⟩
    intro hbusy
    exact absurd (hfree.symm.trans hbusy) Bool.false_ne_true
  | cons command rest =>
    rw [SendQueue.acknowledge_of_cons hwaiting]
    rw [Turn.Serves, traffic_ask, ← Era.add_add]
    exact Connection.Serves.hand h (hwaiting ▸ h.holds) hfree rfl rfl rfl rfl

theorem endLink (h : t.Serves e joins inbox link) (hjoins : joins ≤ 1) (why : LinkEnd) :
    (t.endLink link why).Lands e link := by
  have hdown := down_endLink t link why
  have hisolated : (e.add (t.traffic ++ [.closed link.socket])).Isolated := by
    rw [← Era.add_add]
    exact (h.isolated hjoins).add_quiet (List.forall_mem_singleton.2 rfl)
  refine Or.inr ⟨?_, ?_⟩
  · rw [hdown.traffic]
    exact hisolated
  · exact ⟨rfl, hdown.offline, hdown.link⟩

/-- The state and the queue are left alone while something is told. -/
theorem tell (h : t.Serves e joins inbox link) (n : RelayNews) :
    (t.tell n).Serves e joins inbox link := by
  refine h.congr (traffic_tell t n) ?_ ?_ ?_
  · rw [connection_tell]
  · rw [connection_tell]
    exact h.online
  · rw [connection_tell]

/-- The answer is published before the frame is told. -/
theorem answer (h : t.Serves e t.connection.state.joins t.connection.inbox link) :
    (t.publish .joined).Serves e (t.publish .joined).connection.state.joins
      (t.publish .joined).connection.inbox link := by
  have hjoined : t.Serves e 1 t.connection.inbox link := h.mono t.connection.state.joins_le
  rw [state_publish, connection_publish]
  refine hjoined.congr (traffic_publish t _) (phase_publish t _) ?_ ?_
  · rw [state_publish]
    rfl
  · rw [connection_publish]

theorem complete (h : t.Serves e t.connection.state.joins t.connection.inbox link)
    (frame : InboundFrame) :
    (t.complete frame).Serves e (t.complete frame).connection.state.joins
      (t.complete frame).connection.inbox link := by
  rw [Turn.complete]
  split
  · exact h.answer
  · exact h

/-- A request leaves the inbox. -/
theorem takes (h : t.Serves e t.connection.state.joins t.connection.inbox link)
    {request : RelayRequest} {rest : List RelayRequest}
    (hinbox : t.connection.inbox = request :: rest) :
    ((t.update fun c => { c with inbox := rest }).carryOut link request).Lands e link := by
  rw [hinbox] at h
  have htaken : (t.update fun c => { c with inbox := rest }).Serves e
      t.connection.state.joins (request :: rest) link := h.congr rfl rfl h.online rfl
  have hrest : ((t.update fun c => { c with inbox := rest }).carryOut link
      request).connection.inbox = rest := inbox_carryOut _ link request
  refine Or.inl ?_
  rw [hrest]
  exact htaken.carryOut

/-- Whatever happens while a socket is served; an acknowledgement is in the era already. -/
theorem served (h : t.Serves e t.connection.state.joins t.connection.inbox link)
    {input : RelayInput} {t' : Turn} (hserved : Served t link input t')
    (hfree : input = .sent link.socket (.ok ()) →
      underway (e.add t.traffic).socket false (e.add t.traffic).traffic = false) :
    t'.Lands e link := by
  have hjoins := t.connection.state.joins_le
  cases hserved with
  | stays => exact Or.inl h
  | arrives => exact Or.inl (h.congr rfl rfl h.online rfl)
  | takes hinbox => exact h.takes hinbox
  | acknowledges =>
    obtain ⟨queue, hconnection⟩ := connection_acknowledge t link
    refine Or.inl ?_
    rw [hconnection]
    exact h.acknowledge (hfree rfl)
  | tells =>
    refine Or.inl ?_
    rw [connection_tell]
    exact (h.complete _).tell _
  | unheard => exact (h.complete _).endLink (RelayState.joins_le _) _
  | ignores => exact Or.inl (h.congr rfl rfl h.online rfl)
  | learns => exact Or.inl (h.congr rfl rfl h.online rfl)
  | @replaces known fresh rest _ =>
    have hstored : ((t.answered rest).store fresh).Serves e t.connection.state.joins
        t.connection.inbox link := h.congr rfl rfl h.online rfl
    exact hstored.endLink hjoins .staleAddress
  | loses => exact h.endLink hjoins _
  | hangsUp => exact h.endLink hjoins _

end Serves

/-- Where no socket is served, an input leaves it so or opens one. -/
theorem step_of_down (h : t.Down t.traffic) (input : RelayInput) :
    (t.step input).Down t.traffic ∨ ∃ link, t.step input = t.establish link := by
  have hmove := move_step t input
  generalize t.step input = t' at hmove
  cases hmove with
  | stays => exact Or.inl h
  | arrives => exact Or.inl ⟨rfl, h.offline, h.link⟩
  | serves hphase _ =>
    cases (Connection.link?_of_phase hphase).symm.trans h.link
  | begins => exact Or.inl (down_attempt t)
  | @resolves addresses _ _ => exact Or.inl (down_dial (t.store addresses) addresses none)
  | opens => exact Or.inr ⟨_, rfl⟩
  | fails => exact Or.inl (down_fail t)
  | forgets => exact Or.inl (down_fail { t with cache := t.cache.remove t.connection.host })
  | discards => exact Or.inl ⟨rfl, h.offline, h.link⟩
  | closes => exact Or.inl (down_finish t)
  | surrenders => exact Or.inl (down_giveUp t _)

/-- While a socket is served, an input is its business. -/
theorem step_of_serves (h : t.Serves e t.connection.state.joins t.connection.inbox link)
    (input : RelayInput) (hfree : input = .sent link.socket (.ok ()) →
      underway (e.add t.traffic).socket false (e.add t.traffic).traffic = false) :
    (t.step input).Lands e link :=
  h.served (served_step h.phase input) hfree

end Turn

end GroupCall
