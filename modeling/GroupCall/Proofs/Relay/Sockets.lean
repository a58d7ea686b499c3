/-
# Sockets along runs

The traffic of a run is what its inputs report, the sockets that are opened, what the owner
has accepted and what is handed to sockets.  Every era of every run stands for itself: nothing
is carried over from an earlier socket, since a connection that opens one has forgotten what
waits, and nothing is accepted while none is open.
-/
import GroupCall.Proofs.Relay.Serving

namespace GroupCall

namespace Connection

/-- The socket that is served now and was not before. -/
def opening (c c' : Connection) : List Traffic :=
  match c.link?, c'.link? with
  | none, some link => [.opened link.socket]
  | _, _ => []

/-- What passes in a step. -/
def traffic (c : Connection) : RelayStep → List Traffic
  | .input cache input =>
    let t := Turn.step ⟨c, cache, []⟩ input
    input.traffic ++ c.opening t.connection ++ t.traffic
  | .post request =>
    match c.post request with
    | .ok _ => [.accepted request]
    | .error _ => []
  | _ => []

/-- What passes in a run. -/
def traffics (c : Connection) : List RelayStep → List Traffic
  | [] => []
  | step :: rest => c.traffic step ++ traffics (c.take step).1 rest

end Connection

/-! ## How a connection stands -/

/-- What an input reports opens no socket and is of no concern. -/
theorem RelayInput.isQuiet_traffic (input : RelayInput) :
    ∀ p ∈ input.traffic, p.isQuiet = true ∧ p.opens = false := by
  intro p hp
  unfold RelayInput.traffic at hp
  split at hp
  · obtain rfl := List.mem_singleton.1 hp
    exact ⟨rfl, rfl⟩
  · cases hp

namespace Connection

open Traffic

variable {c : Connection} {log : List Traffic}

/-- How a connection stands after some traffic. -/
structure Stands (log : List Traffic) (c : Connection) : Prop where
  /-- Every era stands for itself. -/
  isolated : ∀ e ∈ eras log, e.Isolated
  /-- Without a socket nothing is accepted or handed over. -/
  quiet : eras log = [] → ∀ p ∈ log, p.isQuiet = true
  /-- A socket that is served has the last era. -/
  serves : ∀ link, c.link? = some link →
    ∃ e rest, eras log = e :: rest ∧ c.Serves e c.state.joins c.inbox link
  /-- Without a socket the published state says so. -/
  offline : c.link? = none → c.state.isOnline = false

/-- What an input reports is in the era before it is dealt with. -/
theorem Serves.reported {e : Era} {joins : Nat} {inbox : List RelayRequest} {link : Link}
    (h : c.Serves e joins inbox link) (input : RelayInput) :
    c.Serves (e.add input.traffic) joins inbox link ∧ (input = .sent link.socket (.ok ()) →
      underway (e.add input.traffic).socket false (e.add input.traffic).traffic = false) := by
  constructor
  · unfold RelayInput.traffic
    split
    · exact h.acknowledged _
    · rw [Era.add_nil]
      exact h
  · rintro rfl
    rw [Era.socket_add, h.socket, Era.add, underway_append]
    simp [RelayInput.traffic, underway]

namespace Stands

/-- An era that goes on. -/
theorem continued {e : Era} {rest : List Era} {more : List Traffic} {c' : Connection}
    (h : c.Stands log) (heras : eras log = e :: rest) (hmore : ∀ p ∈ more, p.opens = false)
    (hisolated : (e.add more).Isolated)
    (hserves : ∀ link, c'.link? = some link →
      c'.Serves (e.add more) c'.state.joins c'.inbox link)
    (hoffline : c'.link? = none → c'.state.isOnline = false) : c'.Stands (log ++ more) := by
  have hlast := eras_append heras hmore
  constructor
  · intro other hother
    rw [hlast] at hother
    rcases List.mem_cons.1 hother with rfl | hother
    · exact hisolated
    · exact h.isolated other (heras ▸ List.mem_cons_of_mem e hother)
  · intro hnone
    rw [hlast] at hnone
    cases hnone
  · intro link hlink
    exact ⟨e.add more, rest, hlast, hserves link hlink⟩
  · exact hoffline

/-- What is of no concern may pass while no socket is served. -/
theorem add_quiet (h : c.Stands log) {more : List Traffic}
    (hquiet : ∀ p ∈ more, p.isQuiet = true) (hopens : ∀ p ∈ more, p.opens = false)
    {c' : Connection} (hlink : c'.link? = none) (hoffline : c'.state.isOnline = false) :
    c'.Stands (log ++ more) := by
  have hunserved : ∀ link, c'.link? ≠ some link := by simp [hlink]
  cases heras : eras log with
  | nil =>
    have hnone := eras_append_of_nil heras hopens
    constructor
    · rw [hnone]
      exact List.forall_mem_nil _
    · intro _
      exact List.forall_mem_append.2 ⟨h.quiet heras, hquiet⟩
    · intro link hlink'
      exact absurd hlink' (hunserved link)
    · exact fun _ => hoffline
  | cons e rest =>
    have hisolated : e.Isolated := h.isolated e (heras ▸ List.mem_cons_self)
    refine h.continued heras hopens (hisolated.add_quiet hquiet) ?_ fun _ => hoffline
    intro link hlink'
    exact absurd hlink' (hunserved link)

/-- A socket that is opened begins an era. -/
theorem opened (h : c.Stands log) {link : Link} {c' : Connection}
    (hserves : c'.Serves ⟨link.socket, []⟩ c'.state.joins c'.inbox link) :
    c'.Stands (log ++ [.opened link.socket]) := by
  have hfirst := eras_opened log link.socket
  constructor
  · intro e he
    rw [hfirst] at he
    rcases List.mem_cons.1 he with rfl | he
    · exact hserves.isolated c'.state.joins_le
    · exact h.isolated e he
  · intro hnone
    rw [hfirst] at hnone
    cases hnone
  · intro other hother
    rw [hserves.link?_eq] at hother
    cases hother
    exact ⟨_, _, hfirst, hserves⟩
  · intro hnone
    rw [hserves.link?_eq] at hnone
    cases hnone

/-- A socket that is still served goes on with its era. -/
theorem kept {e : Era} {rest : List Era} {more : List Traffic} {link : Link} {c' : Connection}
    (h : c.Stands log) (heras : eras log = e :: rest) (hmore : ∀ p ∈ more, p.opens = false)
    (hserves : c'.Serves (e.add more) c'.state.joins c'.inbox link) :
    c'.Stands (log ++ more) := by
  refine h.continued heras hmore (hserves.isolated c'.state.joins_le) ?_ ?_
  · intro other hother
    rw [hserves.link?_eq] at hother
    cases hother
    exact hserves
  · intro hnone
    rw [hserves.link?_eq] at hnone
    cases hnone

theorem input (h : c.Stands log) (cache : DnsCache) (input : RelayInput) :
    (Turn.step ⟨c, cache, []⟩ input).connection.Stands (log ++ c.traffic (.input cache input)) := by
  have hquiet := fun p hp => (input.isQuiet_traffic p hp).1
  have hopens := fun p hp => (input.isQuiet_traffic p hp).2
  rw [Connection.traffic]
  cases hlink : c.link? with
  | none =>
    have hdown : Turn.Down [] ⟨c, cache, []⟩ := ⟨rfl, h.offline hlink, hlink⟩
    rcases Turn.step_of_down (t := ⟨c, cache, []⟩) hdown input with hafter | ⟨link, hafter⟩
    · -- no socket is opened
      rw [hafter.traffic, opening, hlink, hafter.link]
      simpa [Turn.traffic] using h.add_quiet hquiet hopens hafter.link hafter.offline
    · -- what the input reports belongs to the era before that of the new socket
      have hbefore : c.Stands (log ++ input.traffic) :=
        h.add_quiet hquiet hopens hlink (h.offline hlink)
      obtain ⟨htraffic, hserves⟩ := Turn.serves_establish ⟨c, cache, []⟩ link
      rw [← hafter] at htraffic hserves
      rw [htraffic, opening, hlink, hserves.link?_eq]
      simpa [Turn.traffic] using hbefore.opened hserves
  | some link =>
    obtain ⟨e, rest, heras, hserves⟩ := h.serves link hlink
    obtain ⟨hreported, hfree⟩ := hserves.reported input
    have hnone : (e.add input.traffic).add (Turn.traffic ⟨c, cache, []⟩) = e.add input.traffic :=
      Era.add_nil _
    have hbefore : Turn.Serves (e.add input.traffic) c.state.joins c.inbox link
        ⟨c, cache, []⟩ := by
      rw [Turn.Serves, hnone]
      exact hreported
    have hlands := Turn.step_of_serves hbefore input (by rw [hnone]; exact hfree)
    generalize Turn.step ⟨c, cache, []⟩ input = t at hlands
    have hopening : c.opening t.connection = [] := by rw [opening, hlink]
    have hmore : ∀ p ∈ input.traffic ++ t.traffic, p.opens = false :=
      List.forall_mem_append.2 ⟨hopens, t.opens_traffic⟩
    rw [hopening, List.append_nil]
    -- either way the era goes on; if the socket was closed, with the closing as its end
    rcases hlands with hserves | ⟨hisolated, hdown⟩
    · rw [Turn.Serves, Era.add_add] at hserves
      exact h.kept heras hmore hserves
    · rw [Era.add_add] at hisolated
      refine h.continued heras hmore hisolated ?_ fun _ => hdown.offline
      intro other hother
      rw [hdown.link] at hother
      cases hother

theorem post (h : c.Stands log) (request : RelayRequest) :
    (c.take (.post request)).1.Stands (log ++ c.traffic (.post request)) := by
  rw [Connection.take, Connection.traffic, Connection.post]
  cases hcheck : request.check c.state with
  | error e => exact (List.append_nil log).symm ▸ h
  | ok _ =>
    have honline := RelayRequest.isOnline_of_check hcheck
    cases hlink : c.link? with
    | none =>
      rw [h.offline hlink] at honline
      cases honline
    | some link =>
      obtain ⟨e, rest, heras, hserves⟩ := h.serves link hlink
      have haccepted : Connection.Serves (e.add [.accepted request]) c.state.joins
          (c.inbox ++ [request]) link { c with inbox := c.inbox ++ [request] } :=
        (hserves.accept request).congr rfl honline rfl
      exact h.kept heras (List.forall_mem_singleton.2 rfl) haccepted

/-- What the owner does otherwise has nothing to do with commands. -/
theorem congr (h : c.Stands log) {c' : Connection} (hphase : c'.phase = c.phase)
    (hstate : c'.state = c.state) (hqueue : c'.queue = c.queue) (hinbox : c'.inbox = c.inbox) :
    c'.Stands log := by
  have hlink : c'.link? = c.link? := by rw [link?, link?, hphase]
  refine ⟨h.isolated, h.quiet, ?_, ?_⟩
  · intro link hserved
    obtain ⟨e, rest, heras, hserves⟩ := h.serves link (hlink ▸ hserved)
    refine ⟨e, rest, heras, ?_⟩
    rw [hstate, hinbox]
    exact hserves.congr hphase (hstate ▸ hserves.online) hqueue
  · intro hnone
    rw [hstate]
    exact h.offline (hlink ▸ hnone)

theorem take (h : c.Stands log) (step : RelayStep) :
    (c.take step).1.Stands (log ++ c.traffic step) := by
  cases step with
  | input cache input => exact h.input cache input
  | post request => exact h.post request
  | _ =>
    -- nothing passes
    change Stands (log ++ []) _
    rw [List.append_nil]
    exact h.congr rfl rfl rfl rfl

theorem run (h : c.Stands log) (steps : List RelayStep) :
    (c.run steps).Stands (log ++ c.traffics steps) := by
  induction steps generalizing c log with
  | nil => simpa [traffics, Connection.run] using h
  | cons step rest ih =>
    rw [traffics, ← List.append_assoc]
    exact ih (h.take step)

end Stands

/-- A connection that was not started serves no socket. -/
theorem stands_ofUrl {id : Nat} {url : String} {config : RelayConfig}
    (h : ofUrl id url config = .ok c) : c.Stands [] := by
  obtain ⟨host, rfl⟩ := eq_of_ofUrl h
  constructor
  · intro e he
    cases he
  · intro _ p hp
    cases hp
  · intro link hlink
    cases hlink
  · intro _
    rfl

/-- In every run of a connection, whatever its surroundings and its owner do and in whatever
order, each socket is served in an era that stands for itself, and nothing is accepted or
handed over before the first one.  A socket is handed at most one JOIN, apart from those that the
owner sends as plain commands. -/
theorem sockets_along_runs {id : Nat} {url : String} {config : RelayConfig}
    (h : ofUrl id url config = .ok c) (steps : List RelayStep) :
    (∀ e ∈ eras (c.traffics steps), e.Isolated) ∧
      (eras (c.traffics steps) = [] → ∀ p ∈ c.traffics steps, p.isQuiet = true) ∧
      ∀ e ∈ eras (c.traffics steps), e.commands.countP (fun command => command.name = "JOIN") ≤
        1 + e.requests.countP Era.smuggles := by
  have hstands := (stands_ofUrl h).run steps
  rw [List.nil_append] at hstands
  exact ⟨hstands.isolated, hstands.quiet, fun e he => (hstands.isolated e he).joins_le⟩

/-- A request to join. -/
def joinRequest : RelayRequest :=
  .join (.join ⟨"v=0", none, none, []⟩ ⟨⟨0⟩, ⟨0⟩, ⟨0⟩⟩ ⟨0⟩ false none)

/-- The link is lost with one command in the queue and one in the inbox, and a second socket is
opened after the first one. -/
def reconnected : List RelayStep :=
  let addresses : Addresses := ⟨[⟨0x0A000001⟩], []⟩
  [.input .empty .start, .input .empty (.resolved 1 (.ok addresses)),
    .input .empty (.dialed 1 (.ok 0)), .post joinRequest, .input .empty .takeRequest,
    .post (.send (.speakRequest none)), .input .empty .takeRequest,
    .post (.send (.speakerDel none)), .input .empty (.socketLost 0),
    .input .empty .retryDue, .input .empty (.resolved 2 (.ok addresses)),
    .input .empty (.dialed 2 (.ok 1)), .post joinRequest, .input .empty .takeRequest,
    .post (.send (.delVthumbs [])), .input .empty .takeRequest,
    .input .empty (.sent 0 (.ok ())), .input .empty (.sent 1 (.ok ()))]

/-- Each socket is handed what was accepted for it, and what waited for the first one is lost
with it. -/
theorem sockets_reconnected : ∃ c, ofUrl 1 "ws://10.0.0.1" .standard = .ok c ∧
    (eras (c.traffics reconnected)).map (fun e => (e.socket, e.commands)) =
      [(1, [joinRequest.command, .delVthumbs []]), (0, [joinRequest.command])] ∧
    (∀ e ∈ eras (c.traffics reconnected), e.Isolated) ∧
      (eras (c.traffics reconnected) = [] →
        ∀ p ∈ c.traffics reconnected, p.isQuiet = true) ∧
      ∀ e ∈ eras (c.traffics reconnected),
        e.commands.countP (fun command => command.name = "JOIN") ≤
          1 + e.requests.countP Era.smuggles := by
  have heras : ((ofUrl 1 "ws://10.0.0.1" .standard).toOption.map fun c =>
      (eras (c.traffics reconnected)).map fun e => (e.socket, e.commands)) =
        some [(1, [joinRequest.command, .delVthumbs []]), (0, [joinRequest.command])] := by
    decide +kernel
  cases h : ofUrl 1 "ws://10.0.0.1" .standard with
  | error e =>
    rw [h] at heras
    cases heras
  | ok c =>
    rw [h] at heras
    exact ⟨c, rfl, Option.some.inj heras, sockets_along_runs h reconnected⟩

end Connection
end GroupCall
