/-
# What an input does to a connection

A step looks at the phase, at the input and at what the two carry.  This is done here, once: an
input does one of the things below, each with the phase in which it does so, the reason and the
turn that results.  What every step preserves is then proved by cases on them.

An input that fits nowhere does nothing.  It is no failure, opens no socket and begins no attempt,
so these three are told from the connection and the input alone.
-/
import GroupCall.Proofs.Addresses
import GroupCall.Relay.Connection

namespace GroupCall

/-- What passes: an error in any state, the answer while we are joining, and any other command
after it. -/
theorem InboundFrame.passes_cases {f : InboundFrame} {state : RelayState}
    (h : f.passes state = true) :
    (∃ code text, f = .error code text) ∨
      (∃ answer, f = .command (.answer answer) ∧ state = .joining) ∨
        f.isAnswer = false ∧ state = .joined := by
  cases f with
  | error code text => exact Or.inl ⟨code, text, rfl⟩
  | command command =>
    cases command with
    | answer answer => exact Or.inr (Or.inl ⟨answer, rfl, of_decide_eq_true h⟩)
    | _ => exact Or.inr (Or.inr ⟨rfl, of_decide_eq_true h⟩)

namespace Connection

variable {c : Connection} {link : Link} {input : RelayInput}

theorem phase_of_link? (h : c.link? = some link) : c.phase = .serving link := by
  rw [link?] at h
  split at h
  · rename_i hserving
    rw [hserving, Option.some.inj h]
  · cases h

theorem link?_of_phase (h : c.phase = .serving link) : c.link? = some link := by
  rw [link?, h]

/-! ## Failures, sockets and attempts -/

/-- Whether the connection waits for a socket to open. -/
def isDialing (c : Connection) : Bool :=
  match c.phase with
  | .dialing _ => true
  | _ => false

theorem isDialing_of_phase {cached : Option Addresses} (h : c.phase = .dialing cached) :
    c.isDialing = true := by
  rw [isDialing, h]

/-- Whether an input is a failure: no address, no socket, or a socket that is gone. -/
def fails (c : Connection) : RelayInput → Bool
  | .resolved round answer =>
    decide (c.phase = .resolving) && decide (round = c.round) &&
      match answer with
      | .error _ => true
      | .ok addresses => addresses.isEmpty
  | .dialed round (.error _) => c.isDialing && decide (round = c.round)
  | .dialTimeout round => c.isDialing && decide (round = c.round)
  | .sent socket (.error _) => decide (c.link?.map Link.socket = some socket)
  | .socketLost socket => decide (c.link?.map Link.socket = some socket)
  | _ => false

/-- Whether an input opens a socket. -/
def links (c : Connection) : RelayInput → Bool
  | .dialed round (.ok _) => c.isDialing && decide (round = c.round)
  | _ => false

/-- Whether the oldest answer is one of this attempt, and names other addresses than the ones in
use, which came from the cache. -/
def isStale (c : Connection) : Bool :=
  match c.link?, c.answers with
  | some ⟨_, some known⟩, (round, .ok fresh) :: _ =>
    decide (round = c.round) && !fresh.isEmpty && !known.sameSet fresh
  | _, _ => false

/-- Whether an input begins another attempt. -/
def begins (c : Connection) : RelayInput → Bool
  | .start => !c.cancelled && decide (c.phase = .idle)
  | .retryDue => !c.cancelled && decide (c.phase = .waiting)
  | .takeAnswer => !c.cancelled && c.isStale
  | _ => false

theorem fails_eq_false_of_links (h : c.links input = true) : c.fails input = false := by
  cases input with
  | dialed round result =>
    cases result with
    | error reason => cases h
    | ok socket => rfl
  | _ => cases h

/-- Only a connection that was not closed begins an attempt. -/
theorem open_of_begins (h : c.begins input = true) : c.cancelled = false := by
  cases input with
  | start => simp_all [begins]
  | retryDue => simp_all [begins]
  | takeAnswer => simp_all [begins]
  | _ => cases h

/-- Nothing fails, opens or begins with an input. -/
structure Misfits (c : Connection) (input : RelayInput) : Prop where
  /-- It is no failure. -/
  fails : c.fails input = false
  /-- It opens no socket. -/
  links : c.links input = false
  /-- It begins no attempt. -/
  begins : c.begins input = false

/-- Where no socket is served, it is enough to look at what an attempt waits for. -/
theorem misfits (hlink : c.link? = none) (hbegins : c.begins input = false)
    (hresolved : ∀ round answer, input = .resolved round answer →
      c.phase ≠ .resolving ∨ round ≠ c.round)
    (hdialed : ∀ round result, input = .dialed round result →
      c.isDialing = false ∨ round ≠ c.round)
    (htimeout : ∀ round, input = .dialTimeout round → c.isDialing = false ∨ round ≠ c.round) :
    c.Misfits input := by
  cases input with
  | resolved round answer =>
    rcases hresolved round answer rfl with h | h <;> exact ⟨by simp [fails, h], rfl, hbegins⟩
  | dialed round result =>
    rcases hdialed round result rfl with h | h <;> cases result <;>
      exact ⟨by simp [fails, h], by simp [links, h], hbegins⟩
  | dialTimeout round =>
    rcases htimeout round rfl with h | h <;> exact ⟨by simp [fails, h], rfl, hbegins⟩
  | sent socket result => cases result <;> exact ⟨by simp [fails, hlink], rfl, hbegins⟩
  | socketLost socket => exact ⟨by simp [fails, hlink], rfl, hbegins⟩
  | _ => exact ⟨rfl, rfl, hbegins⟩

end Connection

namespace Turn

variable {t t' : Turn} {link : Link} {input : RelayInput}

/-! ## The connection while something is told -/

@[simp] theorem connection_tell (t : Turn) (n : RelayNews) :
    (t.tell n).connection = t.connection := by
  rw [tell]
  split <;> rfl

theorem connection_publish (t : Turn) (state : RelayState) :
    (t.publish state).connection = { t.connection with state := state } := by
  rw [publish]
  split
  · rename_i h
    rw [← h]
  · exact connection_tell _ _

@[simp] theorem listening_publish (t : Turn) (state : RelayState) :
    (t.publish state).connection.listening = t.connection.listening := by
  rw [connection_publish]

@[simp] theorem phase_publish (t : Turn) (state : RelayState) :
    (t.publish state).connection.phase = t.connection.phase := by
  rw [connection_publish]

@[simp] theorem state_publish (t : Turn) (state : RelayState) :
    (t.publish state).connection.state = state := by
  rw [connection_publish]

@[simp] theorem connection_tryTell (t : Turn) (n : RelayNews) :
    (t.tryTell n).connection = t.connection := by
  rw [tryTell]
  split
  · exact connection_tell t n
  · rfl

/-- The end has no socket, whatever is told of it. -/
theorem connection_finish (t : Turn) :
    t.finish.connection = { t.connection with state := .disconnected, phase := .finished } :=
  connection_tryTell _ _

theorem listening_complete (t : Turn) (frame : InboundFrame) :
    (t.complete frame).connection.listening = t.connection.listening := by
  rw [complete]
  split
  · exact listening_publish t _
  · rfl

/-! ## Answers behind an attempt's back -/

/-- An answer has been taken. -/
def answered (t : Turn) (rest : List (Nat × LookupAnswer)) : Turn :=
  t.update fun c => { c with answers := rest }

/-- The socket is closed because of an answer. -/
def cleared (t : Turn) (link : Link) : Turn :=
  ((t.ask (.hangUp link.socket)).update fun c => { c with queue := c.queue.clear }).publish
    .disconnected

theorem connection_cleared (t : Turn) (link : Link) : (t.cleared link).connection =
    { t.connection with queue := t.connection.queue.clear, state := .disconnected } := by
  rw [cleared, connection_publish]
  rfl

theorem step_takeAnswer {round : Nat} {answer : LookupAnswer} {rest : List (Nat × LookupAnswer)}
    (hphase : t.connection.phase = .serving link)
    (hanswers : t.connection.answers = (round, answer) :: rest) :
    t.step .takeAnswer = (t.answered rest).refresh link round answer := by
  unfold step
  rw [hphase]
  unfold advance
  dsimp only
  rw [serve, hanswers]
  rfl

/-- An answer of another attempt, a failed one, an empty one and one with the addresses in use do
nothing. -/
theorem refresh_same {round : Nat} {answer : LookupAnswer}
    (h : round ≠ t.connection.round ∨ ∀ fresh, answer = .ok fresh → fresh.isEmpty = false →
      ∃ known, link.cached = some known ∧ known.Same fresh) :
    t.refresh link round answer = t := by
  cases answer with
  | error reason => rfl
  | ok fresh =>
    rw [refresh]
    split
    · rfl
    · rename_i hours
      obtain ⟨hround, hsome⟩ := not_or.1 hours
      rcases h with hother | hsame
      · exact absurd hother hround
      · obtain ⟨known, hcached, hsame⟩ := hsame fresh rfl (by simpa using hsome)
        simp [hcached, Addresses.sameSet_iff.2 hsame]

/-- Other addresses than those in use replace the socket. -/
theorem refresh_other {known fresh : Addresses} (hcached : link.cached = some known)
    (hsome : fresh.isEmpty = false) (hother : ¬ known.Same fresh) :
    t.refresh link t.connection.round (.ok fresh) = ((t.store fresh).cleared link).attempt := by
  have hother' : ¬ known.sameSet fresh = true := mt Addresses.sameSet_iff.1 hother
  have hours : ¬ (t.connection.round ≠ t.connection.round ∨ fresh.isEmpty = true) := by
    simp [hsome]
  rw [refresh, if_neg hours, hcached]
  exact if_neg hother'

/-- An answer replaces the socket if it is one of this attempt and names other addresses than the
known ones that are in use. -/
structure Stale (c : Connection) (link : Link) (known fresh : Addresses)
    (rest : List (Nat × LookupAnswer)) : Prop where
  /-- The socket. -/
  phase : c.phase = .serving link
  /-- The addresses in use. -/
  cached : link.cached = some known
  /-- The answer. -/
  answers : c.answers = (c.round, .ok fresh) :: rest
  /-- There are addresses in it. -/
  some : fresh.isEmpty = false
  /-- They are other ones. -/
  other : ¬ known.Same fresh

theorem exists_stale {c : Connection} (h : c.isStale = true) :
    ∃ link known fresh rest, Stale c link known fresh rest := by
  unfold Connection.isStale at h
  split at h
  · rename_i socket known round fresh rest hlink hanswers
    simp only [Bool.and_eq_true, decide_eq_true_eq, Bool.not_eq_true'] at h
    obtain ⟨⟨rfl, hsome⟩, hother⟩ := h
    refine ⟨_, known, fresh, rest, Connection.phase_of_link? hlink, rfl, hanswers, hsome, ?_⟩
    exact mt Addresses.sameSet_iff.2 (by simp [hother])
  · cases h

namespace Stale

variable {c : Connection} {known fresh : Addresses} {rest : List (Nat × LookupAnswer)}

theorem isStale (h : Stale c link known fresh rest) : c.isStale = true := by
  obtain ⟨socket, cached⟩ := link
  have hlink := Connection.link?_of_phase h.phase
  have hcached : cached = Option.some known := h.cached
  have hother := mt Addresses.sameSet_iff.1 h.other
  simp [Connection.isStale, hlink, h.answers, hcached, h.some, hother]

theorem step (h : Stale t.connection link known fresh rest) :
    t.step .takeAnswer = (((t.answered rest).store fresh).cleared link).attempt := by
  rw [step_takeAnswer h.phase h.answers]
  exact refresh_other (t := t.answered rest) h.cached h.some h.other

end Stale

/-! ## While a socket is served -/

/-- What an input does while a socket is served. -/
inductive Served (t : Turn) (link : Link) : RelayInput → Turn → Prop
  /-- Nothing. -/
  | stays {input : RelayInput} (h : t.connection.Misfits input)
    (hinbox : input = .takeRequest → t.connection.inbox = []) : Served t link input t
  /-- An answer arrives, and waits. -/
  | arrives (round : Nat) (answer : LookupAnswer) :
    Served t link (.refreshed round answer)
      (t.answered (t.connection.answers ++ [(round, answer)]))
  /-- A request leaves the inbox. -/
  | takes {request : RelayRequest} {rest : List RelayRequest}
    (hinbox : t.connection.inbox = request :: rest) :
    Served t link .takeRequest
      ((t.update fun c => { c with inbox := rest }).carryOut link request)
  /-- A command was sent. -/
  | acknowledges : Served t link (.sent link.socket (.ok ())) (t.acknowledge link)
  /-- A frame passes. -/
  | tells {bytes : List UInt8} {frame : InboundFrame} (hparse : InboundFrame.parse bytes = .ok frame)
    (hpasses : frame.passes t.connection.state = true)
    (hheard : t.connection.listening = true) :
    Served t link (.received link.socket bytes) ((t.complete frame).tell (.frame frame))
  /-- A frame would pass, but nobody listens. -/
  | unheard {bytes : List UInt8} {frame : InboundFrame}
    (hparse : InboundFrame.parse bytes = .ok frame)
    (hpasses : frame.passes t.connection.state = true)
    (hdeaf : t.connection.listening = false) :
    Served t link (.received link.socket bytes) ((t.complete frame).endLink link .closed)
  /-- An answer is taken that does not matter. -/
  | ignores {first : Nat × LookupAnswer} {rest : List (Nat × LookupAnswer)}
    (hanswers : t.connection.answers = first :: rest)
    (hcurrent : t.connection.isStale = false) : Served t link .takeAnswer (t.answered rest)
  /-- An answer is stored, while others are in use that did not come from the cache. -/
  | learns {rest : List (Nat × LookupAnswer)} {fresh : Addresses} (hcached : link.cached = none)
    (hanswers : t.connection.answers = (t.connection.round, .ok fresh) :: rest)
    (hsome : fresh.isEmpty = false) :
    Served t link .takeAnswer ((t.answered rest).store fresh)
  /-- An answer replaces the socket. -/
  | replaces {known fresh : Addresses} {rest : List (Nat × LookupAnswer)}
    (h : Stale t.connection link known fresh rest) :
    Served t link .takeAnswer (((t.answered rest).store fresh).cleared link).attempt
  /-- The socket is gone. -/
  | loses {input : RelayInput} (hfails : t.connection.fails input = true) :
    Served t link input (t.endLink link .lost)
  /-- The owner has closed the connection. -/
  | hangsUp (hcancelled : t.connection.cancelled = true) :
    Served t link .noticeCancel (t.endLink link .closed)

theorem served_receive (t : Turn) (link : Link) (bytes : List UInt8) :
    Served t link (.received link.socket bytes) (t.receive link bytes) := by
  have hstays : Served t link (.received link.socket bytes) t := .stays ⟨rfl, rfl, rfl⟩ (by simp)
  rw [receive]
  split
  · exact hstays
  · rename_i frame hparse
    split
    · rename_i hpasses
      dsimp only
      rw [listening_complete]
      split
      · exact .tells hparse hpasses ‹_›
      · rename_i hdeaf
        exact .unheard hparse hpasses (by simpa using hdeaf)
    · exact hstays

/-- An answer does not matter, is one to store, or replaces the socket. -/
theorem served_takeAnswer (hphase : t.connection.phase = .serving link) :
    Served t link .takeAnswer (t.serve link .takeAnswer) := by
  rw [serve]
  cases hanswers : t.connection.answers with
  | nil =>
    exact .stays ⟨rfl, rfl, by simp [Connection.begins, Connection.isStale, hanswers]⟩ (by simp)
  | cons first rest =>
    obtain ⟨round, answer⟩ := first
    change Served t link .takeAnswer ((t.answered rest).refresh link round answer)
    by_cases hsame : round ≠ t.connection.round ∨ ∀ fresh, answer = .ok fresh →
        fresh.isEmpty = false → ∃ known, link.cached = some known ∧ known.Same fresh
    · rw [refresh_same (t := t.answered rest) hsame]
      refine .ignores hanswers (Bool.eq_false_iff.2 fun hstale => ?_)
      obtain ⟨link', known, fresh, rest', h⟩ := exists_stale hstale
      cases hphase.symm.trans h.phase
      cases hanswers.symm.trans h.answers
      rcases hsame with hround | hsame
      · exact hround rfl
      · obtain ⟨known', hcached, hsame⟩ := hsame fresh rfl h.some
        cases hcached.symm.trans h.cached
        exact h.other hsame
    · push Not at hsame
      obtain ⟨rfl, fresh, rfl, hsome, hother⟩ := hsame
      cases hcached : link.cached with
      | none =>
        have hstored : (t.answered rest).refresh link t.connection.round (.ok fresh) =
            (t.answered rest).store fresh := by
          simp [refresh, answered, update, hsome, hcached]
        rw [hstored]
        exact .learns hcached hanswers hsome
      | some known =>
        have hreplaced := refresh_other (t := t.answered rest) hcached hsome (hother known hcached)
        rw [show t.connection.round = (t.answered rest).connection.round from rfl, hreplaced]
        exact .replaces ⟨hphase, hcached, hanswers, hsome, hother known hcached⟩

theorem served_serve (hphase : t.connection.phase = .serving link) (input : RelayInput) :
    Served t link input (t.serve link input) := by
  have hlink := Connection.link?_of_phase hphase
  cases input with
  | takeAnswer => exact served_takeAnswer hphase
  | takeRequest =>
    rw [serve]
    cases hinbox : t.connection.inbox with
    | nil => exact .stays ⟨rfl, rfl, rfl⟩ fun _ => hinbox
    | cons request rest => exact .takes hinbox
  | sent socket result =>
    by_cases hsocket : socket = link.socket
    · subst hsocket
      cases result with
      | ok _ => simpa [serve] using Served.acknowledges
      | error reason =>
        simpa [serve] using Served.loses (by simp [Connection.fails, hlink])
    · simp only [serve, if_neg hsocket]
      refine .stays ⟨?_, rfl, rfl⟩ (by simp)
      cases result <;> simp [Connection.fails, hlink, Ne.symm hsocket]
  | received socket bytes =>
    rw [serve]
    split
    · rename_i hsocket
      subst hsocket
      exact served_receive t link bytes
    · exact .stays ⟨rfl, rfl, rfl⟩ (by simp)
  | socketLost socket =>
    by_cases hsocket : socket = link.socket
    · simpa [serve, hsocket] using Served.loses (by simp [Connection.fails, hlink])
    · simp only [serve, if_neg hsocket]
      exact .stays ⟨by simp [Connection.fails, hlink, Ne.symm hsocket], rfl, rfl⟩ (by simp)
  | noticeCancel =>
    rw [serve]
    split
    · exact .hangsUp ‹_›
    · exact .stays ⟨rfl, rfl, rfl⟩ (by simp)
  | dialed round result =>
    refine .stays ⟨?_, ?_, rfl⟩ (by simp) <;>
      cases result <;> simp [Connection.fails, Connection.links, Connection.isDialing, hphase]
  | _ =>
    -- what fits another phase does nothing here
    refine .stays ⟨?_, rfl, ?_⟩ (by simp) <;>
      simp [Connection.fails, Connection.begins, Connection.isDialing, hphase]

theorem served_step (hphase : t.connection.phase = .serving link) (input : RelayInput) :
    Served t link input (t.step input) := by
  unfold step
  split
  · exact .arrives _ _
  · rw [hphase]
    exact served_serve hphase input

/-! ## Every input -/

/-- What an input does. -/
inductive Move (t : Turn) : RelayInput → Turn → Prop
  /-- Nothing, where no socket is served. -/
  | stays {input : RelayInput} (hlink : t.connection.link? = none)
    (h : t.connection.Misfits input) : Move t input t
  /-- An answer arrives, and waits. -/
  | arrives (round : Nat) (answer : LookupAnswer) :
    Move t (.refreshed round answer) (t.answered (t.connection.answers ++ [(round, answer)]))
  /-- A socket is served. -/
  | serves {link : Link} {input : RelayInput} {t' : Turn}
    (hphase : t.connection.phase = .serving link) (h : Served t link input t') : Move t input t'
  /-- An attempt begins. -/
  | begins {input : RelayInput} (h : t.connection.phase = .idle ∧ input = .start ∨
      t.connection.phase = .waiting ∧ input = .retryDue) : Move t input t.attempt
  /-- The addresses that the attempt waited for are stored and dialed. -/
  | resolves {addresses : Addresses} (hphase : t.connection.phase = .resolving)
    (hsome : addresses.isEmpty = false) :
    Move t (.resolved t.connection.round (.ok addresses)) ((t.store addresses).dial addresses none)
  /-- A socket opens. -/
  | opens {cached : Option Addresses} (hphase : t.connection.phase = .dialing cached)
    (socket : Nat) :
    Move t (.dialed t.connection.round (.ok socket)) (t.establish ⟨socket, cached⟩)
  /-- The attempt fails. -/
  | fails {input : RelayInput} (hphase : t.connection.phase = .resolving ∨
      t.connection.phase = .dialing none) (hfails : t.connection.fails input = true) :
    Move t input t.fail
  /-- The attempt fails, and the addresses from the cache that it dialed are forgotten. -/
  | forgets {input : RelayInput} {addresses : Addresses}
    (hphase : t.connection.phase = .dialing (some addresses))
    (hfails : t.connection.fails input = true) :
    Move t input { t with cache := t.cache.remove t.connection.host }.fail
  /-- A request is dropped while there is no socket. -/
  | discards (hphase : t.connection.phase = .waiting) :
    Move t .takeRequest (t.update fun c => { c with inbox := c.inbox.tail })
  /-- The owner has closed the connection. -/
  | closes (hphase : t.connection.phase = .resolving ∨
      (∃ cached, t.connection.phase = .dialing cached) ∨ t.connection.phase = .waiting)
    (hcancelled : t.connection.cancelled = true) : Move t .noticeCancel t.finish
  /-- The owner has stopped further attempts. -/
  | surrenders (hphase : t.connection.phase = .waiting) (haborted : t.connection.aborted = true) :
    Move t .noticeAbort (t.giveUp .aborted)

theorem move_idle (hphase : t.connection.phase = .idle) (input : RelayInput) :
    Move t input (t.advance .idle input) := by
  have hlink : t.connection.link? = none := by rw [Connection.link?, hphase]
  have hdialing : t.connection.isDialing = false := by rw [Connection.isDialing, hphase]
  cases input with
  | start => exact .begins (Or.inl ⟨hphase, rfl⟩)
  | _ =>
    refine .stays hlink (Connection.misfits hlink ?_ ?_ ?_ ?_) <;>
      simp [Connection.begins, Connection.isStale, hphase, hlink, hdialing]

theorem move_resolving (hphase : t.connection.phase = .resolving) (input : RelayInput) :
    Move t input (t.advance .resolving input) := by
  have hlink : t.connection.link? = none := by rw [Connection.link?, hphase]
  have hdialing : t.connection.isDialing = false := by rw [Connection.isDialing, hphase]
  cases input with
  | resolved round answer =>
    by_cases hround : round = t.connection.round
    · subst hround
      rw [advance, if_pos rfl]
      cases answer with
      | error reason => exact .fails (Or.inl hphase) (by simp [Connection.fails, hphase])
      | ok addresses =>
        rw [resolve]
        split
        · rename_i hempty
          exact .fails (Or.inl hphase) (by simp [Connection.fails, hphase, hempty])
        · rename_i hsome
          exact .resolves hphase (by simpa using hsome)
    · rw [advance, if_neg hround]
      exact .stays hlink ⟨by simp [Connection.fails, hround], rfl, rfl⟩
  | noticeCancel =>
    rw [advance]
    split
    · exact .closes (Or.inl hphase) ‹_›
    · exact .stays hlink ⟨rfl, rfl, rfl⟩
  | _ =>
    refine .stays hlink (Connection.misfits hlink ?_ ?_ ?_ ?_) <;>
      simp [Connection.begins, Connection.isStale, hphase, hlink, hdialing]

/-- What follows an attempt on which no socket opened. -/
theorem move_failDial {cached : Option Addresses} (hphase : t.connection.phase = .dialing cached)
    (hfails : t.connection.fails input = true) : Move t input (t.failDial cached) := by
  cases cached with
  | none => exact .fails (Or.inr hphase) hfails
  | some addresses => exact .forgets hphase hfails

theorem move_dialing {cached : Option Addresses} (hphase : t.connection.phase = .dialing cached)
    (input : RelayInput) : Move t input (t.advance (.dialing cached) input) := by
  have hlink : t.connection.link? = none := by rw [Connection.link?, hphase]
  have hdialing := Connection.isDialing_of_phase hphase
  cases input with
  | dialed round result =>
    unfold advance
    dsimp only
    by_cases hround : round = t.connection.round
    · subst hround
      rw [if_pos rfl]
      cases result with
      | ok socket => exact .opens hphase socket
      | error reason => exact move_failDial hphase (by simp [Connection.fails, hdialing])
    · rw [if_neg hround]
      refine .stays hlink (Connection.misfits hlink rfl ?_ ?_ ?_) <;> simp [hround]
  | dialTimeout round =>
    by_cases hround : round = t.connection.round
    · subst hround
      rw [advance, if_pos rfl]
      exact move_failDial hphase (by simp [Connection.fails, hdialing])
    · rw [advance, if_neg hround]
      exact .stays hlink ⟨by simp [Connection.fails, hround], rfl, rfl⟩
  | noticeCancel =>
    rw [advance]
    split
    · exact .closes (Or.inr (Or.inl ⟨cached, hphase⟩)) ‹_›
    · exact .stays hlink ⟨rfl, rfl, rfl⟩
  | _ =>
    refine .stays hlink (Connection.misfits hlink ?_ ?_ ?_ ?_) <;>
      simp [Connection.begins, Connection.isStale, hphase, hlink]

theorem move_waiting (hphase : t.connection.phase = .waiting) (input : RelayInput) :
    Move t input (t.advance .waiting input) := by
  have hlink : t.connection.link? = none := by rw [Connection.link?, hphase]
  have hdialing : t.connection.isDialing = false := by rw [Connection.isDialing, hphase]
  cases input with
  | retryDue => exact .begins (Or.inr ⟨hphase, rfl⟩)
  | takeRequest => exact .discards hphase
  | noticeCancel =>
    rw [advance]
    split
    · exact .closes (Or.inr (Or.inr hphase)) ‹_›
    · exact .stays hlink ⟨rfl, rfl, rfl⟩
  | noticeAbort =>
    rw [advance]
    split
    · exact .surrenders hphase ‹_›
    · exact .stays hlink ⟨rfl, rfl, rfl⟩
  | _ =>
    refine .stays hlink (Connection.misfits hlink ?_ ?_ ?_ ?_) <;>
      simp [Connection.begins, Connection.isStale, hphase, hlink, hdialing]

theorem move_finished (hphase : t.connection.phase = .finished) (input : RelayInput) :
    Move t input (t.advance .finished input) := by
  have hlink : t.connection.link? = none := by rw [Connection.link?, hphase]
  have hdialing : t.connection.isDialing = false := by rw [Connection.isDialing, hphase]
  refine .stays hlink (Connection.misfits hlink ?_ ?_ ?_ ?_)
  · cases input <;> simp [Connection.begins, Connection.isStale, hphase, hlink]
  · simp [hphase]
  · simp [hdialing]
  · simp [hdialing]

/-- Every input does one of these things. -/
theorem move_step (t : Turn) (input : RelayInput) : Move t input (t.step input) := by
  unfold step
  split
  · exact .arrives _ _
  · cases hphase : t.connection.phase with
    | idle => exact move_idle hphase input
    | resolving => exact move_resolving hphase input
    | dialing cached => exact move_dialing hphase input
    | serving link => exact .serves hphase (served_serve hphase input)
    | waiting => exact move_waiting hphase input
    | finished => exact move_finished hphase input

end Turn
end GroupCall
