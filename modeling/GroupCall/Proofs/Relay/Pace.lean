/-
# What an input does to the schedule of attempts

A failure is an attempt on which no socket opens, or the loss of a socket.  An input is a
failure, which ends in `Turn.fail`; or it opens a socket, which forgets the failures so far; or
it leaves the failures, the version of addresses that is preferred and the delays alone.  In the
last case it may dial: one of the addresses that were looked up or are known, of the version that
is preferred.
-/
import GroupCall.Proofs.Relay.Delays
import GroupCall.Proofs.Relay.Order
import GroupCall.Proofs.Relay.Rounds

namespace GroupCall

/-! ## Failures and sockets -/

/-- The delay that is asked for in an action. -/
def RelayAction.delay? : RelayAction → Option Duration
  | .sleep delay => some delay
  | _ => none

/-- Whether an action is about neither a delay, a socket to open, nor exhaustion. -/
def RelayAction.isTimeless : RelayAction → Bool
  | .sleep _ => false
  | .dial _ _ => false
  | .tell ⟨_, .failed (.retriesExhausted _)⟩ => false
  | _ => true

namespace Turn

variable {t t' t'' : Turn} {link : Link}

/-- The delays that are asked for in a turn. -/
def delays (t : Turn) : List Duration := t.actions.filterMap RelayAction.delay?

@[simp] theorem delays_update (t : Turn) (f : Connection → Connection) :
    (t.update f).delays = t.delays := rfl

theorem delays_ask (t : Turn) (action : RelayAction) :
    (t.ask action).delays = t.delays ++ action.delay?.toList := by
  cases h : action.delay? <;> simp [delays, ask, h]

@[simp] theorem delays_tell (t : Turn) (news : RelayNews) : (t.tell news).delays = t.delays := by
  rw [tell]
  split
  · rw [delays_ask]
    exact List.append_nil _
  · rfl

@[simp] theorem delays_tryTell (t : Turn) (news : RelayNews) :
    (t.tryTell news).delays = t.delays := by
  rw [tryTell]
  split
  · exact delays_tell t news
  · rfl

@[simp] theorem delays_publish (t : Turn) (state : RelayState) :
    (t.publish state).delays = t.delays := by
  rw [publish]
  split
  · rfl
  · rw [delays_tell, delays_update]

@[simp] theorem cache_tell (t : Turn) (news : RelayNews) : (t.tell news).cache = t.cache := by
  rw [tell]
  split <;> rfl

@[simp] theorem cache_publish (t : Turn) (state : RelayState) :
    (t.publish state).cache = t.cache := by
  rw [publish]
  split
  · rfl
  · exact cache_tell _ _

/-! ### What leaves the schedule alone -/

/-- The schedule is as it was, and nothing was done that is about it. -/
structure Timeless (t t' : Turn) : Prop where
  /-- The failures in a row. -/
  backoff : t'.connection.backoff = t.connection.backoff
  /-- The version that is preferred. -/
  preferV6 : t'.connection.preferV6 = t.connection.preferV6
  /-- Whether further attempts are stopped. -/
  aborted : t'.connection.aborted = t.connection.aborted
  /-- The host. -/
  host : t'.connection.host = t.connection.host
  /-- What was done. -/
  actions : ∃ more, t'.actions = t.actions ++ more ∧ ∀ a ∈ more, a.isTimeless = true

namespace Timeless

theorem refl (t : Turn) : Timeless t t := ⟨rfl, rfl, rfl, rfl, [], by simp⟩

theorem trans (h : Timeless t t') (h' : Timeless t' t'') : Timeless t t'' := by
  obtain ⟨more, hmore, hall⟩ := h.actions
  obtain ⟨more', hmore', hall'⟩ := h'.actions
  exact ⟨h'.backoff.trans h.backoff, h'.preferV6.trans h.preferV6, h'.aborted.trans h.aborted,
    h'.host.trans h.host, more ++ more', by rw [hmore', hmore, List.append_assoc],
    List.forall_mem_append.2 ⟨hall, hall'⟩⟩

theorem update (h : Timeless t t') {f : Connection → Connection}
    (hbackoff : (f t'.connection).backoff = t'.connection.backoff)
    (hprefer : (f t'.connection).preferV6 = t'.connection.preferV6)
    (haborted : (f t'.connection).aborted = t'.connection.aborted)
    (hhost : (f t'.connection).host = t'.connection.host) : Timeless t (t'.update f) :=
  h.trans ⟨hbackoff, hprefer, haborted, hhost, [], by simp [Turn.update]⟩

theorem ask (h : Timeless t t') {action : RelayAction} (haction : action.isTimeless = true) :
    Timeless t (t'.ask action) :=
  h.trans ⟨rfl, rfl, rfl, rfl, [action], rfl, List.forall_mem_singleton.2 haction⟩

/-- The cache is of no concern. -/
theorem cached (h : Timeless t t') (cache : DnsCache) :
    Timeless t { t' with cache := cache } :=
  h.trans ⟨rfl, rfl, rfl, rfl, [], by simp⟩

theorem tell (h : Timeless t t') {news : RelayNews}
    (hnews : ∀ count, news ≠ .failed (.retriesExhausted count)) : Timeless t (t'.tell news) := by
  rw [Turn.tell]
  split
  · refine h.ask ?_
    cases news with
    | failed error =>
      cases error with
      | retriesExhausted count => exact absurd rfl (hnews count)
      | _ => rfl
    | _ => rfl
  · exact h

theorem tryTell (h : Timeless t t') {news : RelayNews}
    (hnews : ∀ count, news ≠ .failed (.retriesExhausted count)) :
    Timeless t (t'.tryTell news) := by
  rw [Turn.tryTell]
  split
  · exact h.tell hnews
  · exact h

theorem publish (h : Timeless t t') (state : RelayState) : Timeless t (t'.publish state) := by
  rw [Turn.publish]
  split
  · exact h
  · exact tell (h.update rfl rfl rfl rfl) (by simp)

theorem enter (h : Timeless t t') (phase : Phase) : Timeless t (t'.enter phase) :=
  h.update rfl rfl rfl rfl

theorem finish (h : Timeless t t') : Timeless t t'.finish :=
  tryTell ((h.update rfl rfl rfl rfl).enter .finished) (by simp)

theorem complete (h : Timeless t t') (frame : InboundFrame) : Timeless t (t'.complete frame) := by
  rw [Turn.complete]
  split
  · exact h.publish .joined
  · exact h

theorem enqueue (h : Timeless t t') (link : Link) (command : OutboundCommand) :
    Timeless t (t'.enqueue link command) := by
  rw [Turn.enqueue]
  split
  · exact (h.update rfl rfl rfl rfl).ask rfl
  · exact h.update rfl rfl rfl rfl
  · exact h

theorem carryOut (h : Timeless t t') (link : Link) (request : RelayRequest) :
    Timeless t (t'.carryOut link request) := by
  cases request with
  | send command => exact h.enqueue link command
  | join command =>
    rw [Turn.carryOut]
    split
    · exact (h.publish _).enqueue link command
    · exact h

theorem acknowledge (h : Timeless t t') (link : Link) : Timeless t (t'.acknowledge link) := by
  rw [Turn.acknowledge]
  dsimp only
  split
  · exact (h.update rfl rfl rfl rfl).ask rfl
  · exact h.update rfl rfl rfl rfl

theorem delays (h : Timeless t t') : t'.delays = t.delays := by
  obtain ⟨more, hmore, hall⟩ := h.actions
  have hnone : more.filterMap RelayAction.delay? = [] := by
    refine List.filterMap_eq_nil_iff.2 fun action haction => ?_
    have htimeless := hall action haction
    cases action with
    | sleep delay => cases htimeless
    | _ => rfl
  rw [Turn.delays, hmore, List.filterMap_append, hnone, List.append_nil, Turn.delays]

theorem not_exhausted (h : Timeless t t') {limit : Nat}
    (hnone : RelayNews.failed (.retriesExhausted limit) ∉ t.news) :
    RelayNews.failed (.retriesExhausted limit) ∉ t'.news := by
  obtain ⟨more, hmore, hall⟩ := h.actions
  intro hmem
  rw [Turn.news, hmore, List.filterMap_append, List.mem_append] at hmem
  rcases hmem with hmem | hmem
  · exact hnone hmem
  · obtain ⟨action, haction, hnews⟩ := List.mem_filterMap.1 hmem
    have htimeless := hall action haction
    cases action with
    | tell event =>
      cases event
      cases hnews
      cases htimeless
    | _ => cases hnews

theorem not_dial (h : Timeless t t') {round : Nat} {address : IpAddress}
    (hnone : .dial round address ∉ t.actions) : .dial round address ∉ t'.actions := by
  obtain ⟨more, hmore, hall⟩ := h.actions
  rw [hmore, List.mem_append]
  rintro (hmem | hmem)
  · exact hnone hmem
  · cases hall _ hmem

end Timeless

/-! ### Attempts -/

/-- An input leaves the schedule alone, and may dial: an address of the preferred version, if
there is one, of those that were looked up or are known. -/
inductive Proceeds (t : Turn) (input : RelayInput) : Turn → Prop
  /-- Nothing is dialed. -/
  | timeless {t' : Turn} (h : Timeless t t') : Proceeds t input t'
  /-- An address is dialed. -/
  | dials {t' : Turn} (h : Timeless t t') (addresses : Addresses)
    (hoffer : (∃ round, input = .resolved round (.ok addresses)) ∨
      t'.cache.get? t.connection.host = some addresses)
    (round : Nat) {address : IpAddress}
    (hpick : addresses.pick t.connection.preferV6 = some address) :
    Proceeds t input (t'.ask (.dial round address))

/-- Where there are addresses one is dialed. -/
theorem dial_of_nonempty (t : Turn) {addresses : Addresses} (h : addresses.isEmpty = false)
    (cached : Option Addresses) :
    ∃ address, addresses.pick t.connection.preferV6 = some address ∧
      t.dial addresses cached =
        ((t.publish .connecting).enter (.dialing cached)).ask
          (.dial t.connection.round address) := by
  have hsome := Addresses.pick_isSome addresses t.connection.preferV6
  rw [h, Bool.not_false, Option.isSome_iff_exists] at hsome
  obtain ⟨address, hpick⟩ := hsome
  refine ⟨address, hpick, ?_⟩
  rw [dial, hpick]

theorem Proceeds.dial (h : Timeless t t') {input : RelayInput} {addresses : Addresses}
    (hne : addresses.isEmpty = false)
    (hoffer : (∃ round, input = .resolved round (.ok addresses)) ∨
      t'.cache.get? t.connection.host = some addresses) (cached : Option Addresses) :
    Proceeds t input (t'.dial addresses cached) := by
  obtain ⟨address, hpick, hdial⟩ := dial_of_nonempty t' hne cached
  rw [hdial]
  rw [h.preferV6] at hpick
  have hcache : ((t'.publish .connecting).enter (.dialing cached)).cache = t'.cache :=
    cache_publish t' .connecting
  exact .dials ((h.publish .connecting).enter _) addresses (by rw [hcache]; exact hoffer) _ hpick

theorem Proceeds.attempt (h : Timeless t t') (input : RelayInput) :
    Proceeds t input t'.attempt := by
  rw [Turn.attempt]
  split
  · exact .timeless h.finish
  · have hbegun : Timeless t ((t'.publish .resolving).update fun c =>
        { c with round := c.round + 1 }) := (h.publish .resolving).update rfl rfl rfl rfl
    have hcache : ((t'.publish .resolving).update fun c =>
        { c with round := c.round + 1 }).cache = t'.cache := cache_publish t' .resolving
    dsimp only
    generalize (t'.publish .resolving).update (fun c => { c with round := c.round + 1 }) = d
      at hbegun hcache
    split
    · rename_i addresses hcached
      obtain ⟨hget, hne⟩ := Option.filter_eq_some_iff.1 hcached
      refine .dial (hbegun.ask rfl) (by simpa using hne) (Or.inr ?_) _
      rw [← hbegun.host]
      exact hget
    · exact .timeless ((hbegun.enter _).ask rfl)

namespace Proceeds

variable {input : RelayInput}

theorem endLink (h : Timeless t t') (link : Link) {why : LinkEnd} (hwhy : why ≠ .lost) :
    Proceeds t input (t'.endLink link why) := by
  have hdown : Timeless t ((t'.ask (.hangUp link.socket)).update fun c =>
      { c with queue := c.queue.clear }) := (h.ask rfl).update rfl rfl rfl rfl
  cases why with
  | closed => exact .timeless hdown.finish
  | lost => exact absurd rfl hwhy
  | staleAddress => exact attempt (hdown.publish .disconnected) input

end Proceeds

/-! ### Failures -/

/-- The connection is where it failed, but for its socket. -/
structure Stopped (t t' : Turn) : Prop where
  /-- Nothing but the queue may differ. -/
  connection : t'.connection = { t.connection with queue := t'.connection.queue }
  /-- A socket may have been closed. -/
  actions : ∃ sockets : List Nat, t'.actions = t.actions ++ sockets.map RelayAction.hangUp

theorem Stopped.refl (t : Turn) : Stopped t t := ⟨rfl, [], by simp⟩

/-- What an input does to the schedule. -/
inductive Pace (t : Turn) (input : RelayInput) : Turn → Prop
  /-- It is a failure. -/
  | failure (h : t.connection.fails input = true) {t' : Turn} (ht : Stopped t t') :
    Pace t input t'.fail
  /-- A socket opens. -/
  | opening (h : t.connection.links input = true) (link : Link) :
    Pace t input (t.establish link)
  /-- The schedule is left alone. -/
  | other (hfails : t.connection.fails input = false)
    (hlinks : t.connection.links input = false) {t' : Turn} (h : Proceeds t input t') :
    Pace t input t'

/-- While a socket is served, its loss is a failure. -/
theorem pace_served {input : RelayInput} (hserved : Served t link input t') :
    Pace t input t' := by
  have hsame := Timeless.refl t
  cases hserved with
  | stays h _ => exact .other h.fails h.links (.timeless hsame)
  | arrives => exact .other rfl rfl (.timeless (hsame.update rfl rfl rfl rfl))
  | takes =>
    exact .other rfl rfl (.timeless ((hsame.update rfl rfl rfl rfl).carryOut link _))
  | acknowledges => exact .other rfl rfl (.timeless (hsame.acknowledge link))
  | tells => exact .other rfl rfl (.timeless ((hsame.complete _).tell (by simp)))
  | unheard => exact .other rfl rfl (.endLink (hsame.complete _) link (by simp))
  | ignores => exact .other rfl rfl (.timeless (hsame.update rfl rfl rfl rfl))
  | learns => exact .other rfl rfl (.timeless ((hsame.update rfl rfl rfl rfl).cached _))
  | replaces =>
    exact .other rfl rfl
      (.endLink ((hsame.update rfl rfl rfl rfl).cached _) link
        (show LinkEnd.staleAddress ≠ .lost by simp))
  | loses hfails => exact .failure hfails ⟨rfl, [link.socket], rfl⟩
  | hangsUp => exact .other rfl rfl (.endLink hsame link (by simp))

/-- Every input is a failure, opens a socket or leaves the schedule alone. -/
theorem pace_step (t : Turn) (input : RelayInput) : Pace t input (t.step input) := by
  have hsame := Timeless.refl t
  have hmove := move_step t input
  generalize t.step input = t' at hmove
  cases hmove with
  | stays _ h => exact .other h.fails h.links (.timeless hsame)
  | arrives => exact .other rfl rfl (.timeless (hsame.update rfl rfl rfl rfl))
  | serves _ hserved => exact pace_served hserved
  | begins hbegins =>
    have hinput : t.connection.fails input = false ∧ t.connection.links input = false := by
      rcases hbegins with ⟨-, rfl⟩ | ⟨-, rfl⟩ <;> exact ⟨rfl, rfl⟩
    exact .other hinput.1 hinput.2 (.attempt hsame _)
  | resolves hphase hsome =>
    refine .other (by simp [Connection.fails, hsome]) rfl ?_
    exact .dial (hsame.cached _) hsome (Or.inl ⟨_, rfl⟩) none
  | opens hphase socket =>
    have hdialing := Connection.isDialing_of_phase hphase
    exact .opening (by simp [Connection.links, hdialing]) _
  | fails _ hfails => exact .failure hfails (.refl t)
  | forgets _ hfails => exact .failure hfails ⟨rfl, [], by simp⟩
  | discards => exact .other rfl rfl (.timeless (hsame.update rfl rfl rfl rfl))
  | closes => exact .other rfl rfl (.timeless hsame.finish)
  | surrenders => exact .other rfl rfl (.timeless (hsame.tell (by simp)).finish)

theorem step_of_fails {input : RelayInput} (h : t.connection.fails input = true) :
    ∃ t', Stopped t t' ∧ t.step input = t'.fail := by
  have hpace := pace_step t input
  generalize t.step input = after at hpace
  cases hpace with
  | failure _ ht => exact ⟨_, ht, rfl⟩
  | opening hlinks _ =>
    rw [Connection.fails_eq_false_of_links hlinks] at h
    cases h
  | other hfails _ _ =>
    rw [hfails] at h
    cases h

namespace Stopped

theorem delays (h : Stopped t t') : t'.delays = t.delays := by
  obtain ⟨sockets, hactions⟩ := h.actions
  simp [Turn.delays, hactions, Function.comp_def, RelayAction.delay?]

theorem sought (h : Stopped t t') : t'.sought = t.sought := by
  obtain ⟨sockets, hactions⟩ := h.actions
  simp [Turn.sought, hactions, Function.comp_def, RelayAction.round?]

theorem news (h : Stopped t t') : t'.news = t.news := by
  obtain ⟨sockets, hactions⟩ := h.actions
  simp [Turn.news, hactions, Function.comp_def, RelayAction.news?]

end Stopped

/-! ### What follows a failure -/

/-- After a failure the other version is preferred, and the state says that there is no socket. -/
def turned (t : Turn) : Turn :=
  (t.update fun c => { c with preferV6 := !c.preferV6 }).publish .disconnected

theorem connection_turned (t : Turn) : t.turned.connection =
    { t.connection with preferV6 := !t.connection.preferV6, state := .disconnected } :=
  connection_publish _ _

theorem fail_of_going (h : t.connection.aborted = false) :
    t.fail = match t.turned.connection.backoff.next with
      | (none, b) => t.turned.giveUp (.retriesExhausted b.attempts)
      | (some delay, b) =>
        ((t.turned.update fun c => { c with backoff := b }).enter .waiting).ask (.sleep delay) := by
  have hgoing : ¬ t.turned.connection.aborted = true := by simp [connection_turned, h]
  exact if_neg hgoing

/-- While there are delays, a failure is followed by the next one. -/
theorem fail_of_some (haborted : t.connection.aborted = false) {delay : Duration}
    (h : t.connection.backoff.next.1 = some delay) :
    t.fail.connection = { t.connection with
      preferV6 := !t.connection.preferV6
      state := .disconnected
      backoff := { t.connection.backoff with attempts := t.connection.backoff.attempts + 1 }
      phase := .waiting } ∧
    t.fail.delays = t.delays ++ [delay] ∧ t.fail.sought = t.sought := by
  have hnext : t.turned.connection.backoff.next = (some delay,
      { t.connection.backoff with attempts := t.connection.backoff.attempts + 1 }) := by
    rw [connection_turned]
    exact (Backoff.next_of_some h).1
  rw [fail_of_going haborted, hnext]
  refine ⟨?_, ?_, ?_⟩
  · simp [ask, enter, update, connection_turned]
  · rw [delays_ask]
    exact congrArg (· ++ [delay]) (delays_publish _ _)
  · rw [sought_ask]
    exact (List.append_nil _).trans (sought_publish _ _)

/-- When there is none, it is followed by the end. -/
theorem fail_of_none (haborted : t.connection.aborted = false)
    (h : t.connection.backoff.next.1 = none) :
    t.fail.connection = { t.connection with
      preferV6 := !t.connection.preferV6, state := .disconnected, phase := .finished } ∧
    t.fail.delays = t.delays ∧ t.fail.sought = t.sought ∧
    (t.connection.listening = true → t.connection.state ≠ .disconnected →
      t.fail.news = t.news ++ .stateChanged .disconnected ::
        .failed (.retriesExhausted t.connection.backoff.attempts) ::
          RelayNews.farewell t.connection.newsRoom) := by
  obtain ⟨limit, -, -, hsame⟩ := Backoff.limit_of_next h
  have hnext : t.turned.connection.backoff.next = (none, t.connection.backoff) := by
    rw [connection_turned]
    exact Prod.ext h hsame
  rw [fail_of_going haborted, hnext]
  refine ⟨?_, ?_, ?_, fun hlistening hstate => ?_⟩
  · simp [giveUp, finish, enter, update, connection_tell, connection_turned]
  · simp [giveUp, finish, enter, turned]
  · simp [giveUp, finish, enter, turned]
  · have hheard : t.turned.connection.listening = true := by
      rw [connection_turned]
      exact hlistening
    have hturned : t.turned.news = t.news ++ [.stateChanged .disconnected] :=
      news_publish (t := t.update fun c => { c with preferV6 := !c.preferV6 }) hlistening hstate
    have hroom : t.turned.connection.newsRoom = t.connection.newsRoom := by rw [connection_turned]
    rw [news_giveUp hheard, hturned, hroom, List.append_assoc]
    rfl

end Turn

end GroupCall
