/-
# Where the addresses of an attempt come from

An attempt dials addresses from the cache, or waits until the host was looked up.  An input that
touches the cache or the addresses in use does one of five things: the addresses that an attempt
waited for are stored and dialed; an answer behind its back is stored; addresses from the cache
are forgotten because no socket opened; another attempt begins; or it begins because an answer
named other addresses than those in use, which are stored before.
-/
import GroupCall.Proofs.Relay.Cache
import GroupCall.Proofs.Relay.Pace

namespace GroupCall

/-- The addresses of an attempt in progress: known ones from the cache, or what the look-up for
the attempt gives. -/
def Phase.source? : Phase → Option (Option Addresses)
  | .resolving => some none
  | .dialing cached => some cached
  | .serving link => some link.cached
  | _ => none

/-- The attempt for which the host is looked up behind its back. -/
def RelayAction.refresh? : RelayAction → Option Nat
  | .refresh round => some round
  | _ => none

/-- Whether an action uses addresses, or asks for them behind an attempt's back. -/
def RelayAction.isAddressed : RelayAction → Bool
  | .refresh _ => true
  | .dial _ _ => true
  | _ => false

namespace Turn

variable {t t' t'' : Turn} {link : Link} {input : RelayInput}

/-- The attempts for which the host is looked up behind their backs in a turn. -/
def refreshes (t : Turn) : List Nat := t.actions.filterMap RelayAction.refresh?

theorem refreshes_ask (t : Turn) (action : RelayAction) :
    (t.ask action).refreshes = t.refreshes ++ action.refresh?.toList := by
  cases h : action.refresh? <;> simp [refreshes, ask, h]

/-! ## What touches no addresses -/

/-- The cache and the number of the attempt are as they were, and nothing was done that is about
addresses. -/
structure Untouched (t t' : Turn) : Prop where
  /-- The host. -/
  host : t'.connection.host = t.connection.host
  /-- The number of the attempt. -/
  round : t'.connection.round = t.connection.round
  /-- The cache. -/
  cache : t'.cache = t.cache
  /-- No answer came. -/
  answers : ∀ a ∈ t'.connection.answers, a ∈ t.connection.answers
  /-- What was done. -/
  actions : ∃ more, t'.actions = t.actions ++ more ∧ ∀ a ∈ more, a.isAddressed = false

namespace Untouched

theorem refl (t : Turn) : Untouched t t := ⟨rfl, rfl, rfl, fun _ h => h, [], by simp⟩

theorem trans (h : Untouched t t') (h' : Untouched t' t'') : Untouched t t'' := by
  obtain ⟨more, hmore, hall⟩ := h.actions
  obtain ⟨more', hmore', hall'⟩ := h'.actions
  exact ⟨h'.host.trans h.host, h'.round.trans h.round, h'.cache.trans h.cache,
    fun a ha => h.answers a (h'.answers a ha), more ++ more',
    by rw [hmore', hmore, List.append_assoc], List.forall_mem_append.2 ⟨hall, hall'⟩⟩

theorem update (h : Untouched t t') {f : Connection → Connection}
    (hhost : (f t'.connection).host = t'.connection.host)
    (hround : (f t'.connection).round = t'.connection.round)
    (hanswers : ∀ a ∈ (f t'.connection).answers, a ∈ t'.connection.answers) :
    Untouched t (t'.update f) :=
  h.trans ⟨hhost, hround, rfl, hanswers, [], by simp [Turn.update]⟩

theorem ask (h : Untouched t t') {action : RelayAction} (haction : action.isAddressed = false) :
    Untouched t (t'.ask action) :=
  h.trans ⟨rfl, rfl, rfl, fun _ ha => ha, [action], rfl, List.forall_mem_singleton.2 haction⟩

/-- The attempt is counted in both turns. -/
theorem counted (h : Untouched t t') : Untouched (t.update fun c => { c with round := c.round + 1 })
    (t'.update fun c => { c with round := c.round + 1 }) :=
  ⟨h.host, congrArg (· + 1) h.round, h.cache, h.answers, h.actions⟩

theorem tell (h : Untouched t t') (news : RelayNews) : Untouched t (t'.tell news) := by
  rw [Turn.tell]
  split
  · exact h.ask rfl
  · exact h

theorem tryTell (h : Untouched t t') (news : RelayNews) : Untouched t (t'.tryTell news) := by
  rw [Turn.tryTell]
  split
  · exact h.tell news
  · exact h

theorem publish (h : Untouched t t') (state : RelayState) : Untouched t (t'.publish state) := by
  rw [Turn.publish]
  split
  · exact h
  · exact tell (h.update rfl rfl fun _ ha => ha) _

theorem enter (h : Untouched t t') (phase : Phase) : Untouched t (t'.enter phase) :=
  h.update rfl rfl fun _ ha => ha

theorem finish (h : Untouched t t') : Untouched t t'.finish :=
  tryTell ((h.update rfl rfl fun _ ha => ha).enter .finished) _

theorem complete (h : Untouched t t') (frame : InboundFrame) :
    Untouched t (t'.complete frame) := by
  rw [Turn.complete]
  split
  · exact h.publish .joined
  · exact h

theorem fail (h : Untouched t t') : Untouched t t'.fail := by
  have hturned : Untouched t ((t'.update fun c => { c with preferV6 := !c.preferV6 }).publish
      .disconnected) := publish (h.update rfl rfl fun _ ha => ha) _
  rw [Turn.fail]
  split
  · exact (hturned.tell _).finish
  · split
    · exact (hturned.tell _).finish
    · exact ((hturned.update rfl rfl fun _ ha => ha).enter _).ask rfl

theorem enqueue (h : Untouched t t') (link : Link) (command : OutboundCommand) :
    Untouched t (t'.enqueue link command) := by
  rw [Turn.enqueue]
  split
  · exact (h.update rfl rfl fun _ ha => ha).ask rfl
  · exact h.update rfl rfl fun _ ha => ha
  · exact h

theorem carryOut (h : Untouched t t') (link : Link) (request : RelayRequest) :
    Untouched t (t'.carryOut link request) := by
  cases request with
  | send command => exact h.enqueue link command
  | join command =>
    rw [Turn.carryOut]
    split
    · exact (h.publish _).enqueue link command
    · exact h

theorem acknowledge (h : Untouched t t') (link : Link) : Untouched t (t'.acknowledge link) := by
  rw [Turn.acknowledge]
  dsimp only
  split
  · exact (h.update rfl rfl fun _ ha => ha).ask rfl
  · exact h.update rfl rfl fun _ ha => ha

theorem down (h : Untouched t t') (link : Link) :
    Untouched t ((t'.ask (.hangUp link.socket)).update fun c =>
      { c with queue := c.queue.clear }) :=
  (h.ask rfl).update rfl rfl fun _ ha => ha

theorem establish (h : Untouched t t') (link : Link) : Untouched t (t'.establish link) := by
  have hcleared : Untouched t (t'.update fun c => { c with inbox := [], queue := c.queue.clear }) :=
    h.update rfl rfl fun _ ha => ha
  rw [Turn.establish]
  exact (hcleared.publish .connected).update rfl rfl fun _ ha => ha

theorem refreshes (h : Untouched t t') : t'.refreshes = t.refreshes := by
  obtain ⟨more, hmore, hall⟩ := h.actions
  have hnone : more.filterMap RelayAction.refresh? = [] := by
    refine List.filterMap_eq_nil_iff.2 fun action haction => ?_
    have := hall action haction
    cases action with
    | refresh round => cases this
    | _ => rfl
  rw [Turn.refreshes, hmore, List.filterMap_append, hnone, List.append_nil, Turn.refreshes]

theorem not_dial (h : Untouched t t') {round : Nat} {address : IpAddress}
    (hnone : .dial round address ∉ t.actions) : .dial round address ∉ t'.actions := by
  obtain ⟨more, hmore, hall⟩ := h.actions
  rw [hmore, List.mem_append]
  rintro (hmem | hmem)
  · exact hnone hmem
  · cases hall _ hmem

theorem mem_actions (h : Untouched t t') {action : RelayAction} (haction : action ∈ t.actions) :
    action ∈ t'.actions := by
  obtain ⟨more, hmore, -⟩ := h.actions
  rw [hmore]
  exact List.mem_append_left _ haction

end Untouched

@[simp] theorem phase_tell (t : Turn) (news : RelayNews) :
    (t.tell news).connection.phase = t.connection.phase := by rw [connection_tell]

theorem phase_complete (t : Turn) (frame : InboundFrame) :
    (t.complete frame).connection.phase = t.connection.phase := by
  rw [complete]
  split
  · exact phase_publish t _
  · rfl

theorem phase_finish (t : Turn) : t.finish.connection.phase = .finished := by
  rw [connection_finish]

theorem source?_finish (t : Turn) : t.finish.connection.phase.source? = none := by
  rw [phase_finish]
  rfl

theorem rests_fail (t : Turn) :
    t.fail.connection.phase = .waiting ∨ t.fail.connection.phase = .finished := by
  rw [fail]
  split
  · exact Or.inr (phase_finish _)
  · split
    · exact Or.inr (phase_finish _)
    · exact Or.inl rfl

theorem source?_fail (t : Turn) : t.fail.connection.phase.source? = none := by
  rcases rests_fail t with h | h <;> rw [h] <;> rfl

/-! ## Attempts -/

/-- An address of some addresses is dialed, one of the version that is preferred if there is one. -/
theorem untouched_dial (t : Turn) {addresses : Addresses} (hsome : addresses.isEmpty = false)
    (cached : Option Addresses) :
    ∃ d address, Untouched t d ∧ d.connection.phase = .dialing cached ∧
      addresses.pick t.connection.preferV6 = some address ∧
      t.dial addresses cached = d.ask (.dial t.connection.round address) := by
  obtain ⟨address, hpick, hdial⟩ := dial_of_nonempty t hsome cached
  exact ⟨_, address, ((Untouched.refl t).publish _).enter _, rfl, hpick, hdial⟩

/-- An attempt begins, unless the owner has closed the connection. -/
inductive Begun (t : Turn) : Turn → Prop
  /-- The connection is closed. -/
  | closed {t' : Turn} (hcancelled : t.connection.cancelled = true) (h : Untouched t t')
    (hphase : t'.connection.phase = .finished) : Begun t t'
  /-- Known addresses are dialed, and looked up again. -/
  | known {d d' : Turn} (hopen : t.connection.cancelled = false) {addresses : Addresses}
    (hget : t.cache.get? t.connection.host = some addresses)
    (hsome : addresses.isEmpty = false)
    (h : Untouched (t.update fun c => { c with round := c.round + 1 }) d)
    (h' : Untouched (d.ask (.refresh d.connection.round)) d')
    (hphase : d'.connection.phase = .dialing (some addresses)) {address : IpAddress}
    (hpick : addresses.pick t.connection.preferV6 = some address) :
    Begun t (d'.ask (.dial d.connection.round address))
  /-- None are known, and the host is looked up. -/
  | unknown {d : Turn} (hopen : t.connection.cancelled = false)
    (hnone : ∀ addresses, t.cache.get? t.connection.host = some addresses →
      addresses.isEmpty = true)
    (h : Untouched (t.update fun c => { c with round := c.round + 1 }) d)
    (hphase : d.connection.phase = .resolving) :
    Begun t (d.ask (.lookup d.connection.round))

theorem begun_attempt (t : Turn) : Begun t t.attempt := by
  rw [attempt]
  split
  · rename_i hcancelled
    exact .closed hcancelled (Untouched.refl t).finish (phase_finish t)
  · rename_i hopen
    have hopen' : t.connection.cancelled = false := by simpa using hopen
    have hbegun := ((Untouched.refl t).publish .resolving).counted
    have hprefer : ((t.publish .resolving).update fun c =>
        { c with round := c.round + 1 }).connection.preferV6 = t.connection.preferV6 := by
      rw [connection_update, connection_publish]
    dsimp only
    generalize (t.publish .resolving).update (fun c => { c with round := c.round + 1 }) = d
      at hbegun hprefer
    have hget : d.cache.get? d.connection.host = t.cache.get? t.connection.host := by
      rw [hbegun.cache, hbegun.host]
      rfl
    split
    · rename_i addresses hcached
      obtain ⟨hknown, hsome⟩ := Option.filter_eq_some_iff.1 hcached
      have hsome' : addresses.isEmpty = false := by simpa using hsome
      obtain ⟨d', address, hd', hphase, hpick, hdial⟩ :=
        untouched_dial (d.ask (.refresh d.connection.round)) hsome' (some addresses)
      rw [hdial]
      exact .known hopen' (hget ▸ hknown) hsome' hbegun hd' hphase (hprefer ▸ hpick)
    · rename_i hcached
      refine .unknown hopen' (fun addresses hknown => ?_) (hbegun.enter .resolving) rfl
      rw [← hget] at hknown
      simpa using Option.filter_eq_none_iff.1 hcached addresses hknown

end Turn

/-- The addresses that the connection learns from an input: what the look-up for the attempt
gives, or the one behind its back, when the connection takes the answer. -/
def Connection.learns (c : Connection) : RelayInput → Option Addresses
  | .resolved round (.ok addresses) =>
    if c.phase = .resolving ∧ round = c.round ∧ addresses.isEmpty = false then some addresses
    else none
  | .takeAnswer =>
    match c.link?, c.answers with
    | some _, (round, .ok fresh) :: _ =>
      if round = c.round ∧ fresh.isEmpty = false then some fresh else none
    | _, _ => none
  | _ => none

namespace Turn

variable {t t' t'' : Turn} {link : Link} {input : RelayInput}

/-! ## Answers that replace the socket -/

theorem untouched_cleared (h : Untouched t t') (link : Link) : Untouched t (t'.cleared link) :=
  (h.down link).publish .disconnected

theorem mem_cleared (t : Turn) (link : Link) : .hangUp link.socket ∈ (t.cleared link).actions :=
  ((Untouched.refl _).publish .disconnected).mem_actions
    (List.mem_append_right _ (List.mem_singleton_self _))

theorem Stale.learns {c : Connection} {known fresh : Addresses}
    {rest : List (Nat × LookupAnswer)} (h : Stale c link known fresh rest) :
    c.learns .takeAnswer = Option.some fresh := by
  simp [Connection.learns, Connection.link?_of_phase h.phase, h.answers, h.some]

/-! ## Every input -/

/-- What an input does to addresses. -/
inductive Course (t : Turn) : RelayInput → Turn → Prop
  /-- An answer arrives, and waits. -/
  | arrives (round : Nat) (answer : LookupAnswer) :
    Course t (.refreshed round answer) (t.answered (t.connection.answers ++ [(round, answer)]))
  /-- Nothing is touched. -/
  | keeps {input : RelayInput} {t' : Turn} (h : Untouched t t')
    (hsource : t'.connection.phase.source? = none ∨
      t'.connection.phase.source? = t.connection.phase.source?) : Course t input t'
  /-- The addresses that the attempt waited for are stored and dialed. -/
  | resolves {addresses : Addresses} (hphase : t.connection.phase = .resolving)
    (hsome : addresses.isEmpty = false) :
    Course t (.resolved t.connection.round (.ok addresses))
      ((t.store addresses).dial addresses none)
  /-- Addresses are stored while others are in use that did not come from the cache. -/
  | learns {link : Link} {rest : List (Nat × LookupAnswer)} {fresh : Addresses}
    (hphase : t.connection.phase = .serving link) (hcached : link.cached = none)
    (hanswers : t.connection.answers = (t.connection.round, .ok fresh) :: rest)
    (hsome : fresh.isEmpty = false) :
    Course t .takeAnswer ((t.answered rest).store fresh)
  /-- Addresses from the cache are forgotten: no socket opened. -/
  | forgets {input : RelayInput} {addresses : Addresses}
    (hphase : t.connection.phase = .dialing (some addresses))
    (hfails : t.connection.fails input = true) :
    Course t input { t with cache := t.cache.remove t.connection.host }.fail
  /-- Another attempt begins. -/
  | begins {input : RelayInput} (hbegins : t.connection.phase = .idle ∧ input = .start ∨
      t.connection.phase = .waiting ∧ input = .retryDue) : Course t input t.attempt
  /-- Another attempt begins with other addresses than those in use. -/
  | replaces {link : Link} {rest : List (Nat × LookupAnswer)} {known fresh : Addresses}
    (hstale : Stale t.connection link known fresh rest) :
    Course t .takeAnswer ((((t.answered rest).store fresh).cleared link).attempt)

theorem course_same (t : Turn) (input : RelayInput) : Course t input t :=
  .keeps (.refl t) (Or.inr rfl)

theorem course_finish (h : Untouched t t') : Course t input t'.finish :=
  .keeps h.finish (Or.inl (source?_finish t'))

theorem course_fail (h : Untouched t t') : Course t input t'.fail :=
  .keeps h.fail (Or.inl (source?_fail t'))

/-- What is done for a socket touches no addresses. -/
theorem course_of_phase (h : Untouched t t')
    (hphase : t'.connection.phase = t.connection.phase) : Course t input t' :=
  .keeps h (Or.inr (by rw [hphase]))

/-- A link that does not end for a stale answer takes no addresses along. -/
theorem course_endLink (h : Untouched t t') (link : Link) {why : LinkEnd}
    (hwhy : why ≠ .staleAddress) : Course t input (t'.endLink link why) := by
  cases why with
  | closed => exact course_finish (h.down link)
  | lost => exact course_fail (h.down link)
  | staleAddress => exact absurd rfl hwhy

/-- What an input does to addresses while a socket is served. -/
theorem course_served (hphase : t.connection.phase = .serving link)
    (hserved : Served t link input t') : Course t input t' := by
  have hsame := Untouched.refl t
  cases hserved with
  | stays => exact course_same t _
  | arrives => exact .arrives _ _
  | @takes request rest _ =>
    have htaken : Untouched t (t.update fun c => { c with inbox := rest }) :=
      hsame.update rfl rfl fun _ ha => ha
    obtain ⟨queue, state, hconnection⟩ :=
      connection_carryOut (t.update fun c => { c with inbox := rest }) link request
    exact course_of_phase (htaken.carryOut link request) (by rw [hconnection]; rfl)
  | acknowledges =>
    obtain ⟨queue, hconnection⟩ := connection_acknowledge t link
    exact course_of_phase (hsame.acknowledge link) (by rw [hconnection])
  | tells =>
    exact course_of_phase ((hsame.complete _).tell _) (by rw [phase_tell, phase_complete])
  | unheard => exact course_endLink (hsame.complete _) link (by simp)
  | @ignores first rest hanswers _ =>
    have htaken : Untouched t (t.answered rest) := hsame.update rfl rfl fun a ha => by
      rw [hanswers]
      exact List.mem_cons_of_mem _ ha
    exact course_of_phase htaken rfl
  | learns hcached hanswers hsome => exact .learns hphase hcached hanswers hsome
  | replaces hstale => exact .replaces hstale
  | loses => exact course_endLink hsame link (by simp)
  | hangsUp => exact course_endLink hsame link (by simp)

/-- What an input does to addresses. -/
theorem course_step (t : Turn) (input : RelayInput) : Course t input (t.step input) := by
  have hsame := Untouched.refl t
  have hmove := move_step t input
  generalize t.step input = t' at hmove
  cases hmove with
  | stays => exact course_same t _
  | arrives => exact .arrives _ _
  | serves hphase hserved => exact course_served hphase hserved
  | begins hbegins => exact .begins hbegins
  | resolves hphase hsome => exact .resolves hphase hsome
  | opens hphase _ => exact .keeps (hsame.establish _) (Or.inr (by rw [hphase]; rfl))
  | fails => exact course_fail hsame
  | forgets hphase hfails => exact .forgets hphase hfails
  | discards => exact course_of_phase (hsame.update rfl rfl fun _ ha => ha) rfl
  | closes => exact course_finish hsame
  | surrenders => exact course_finish (hsame.tell _)

/-! ### What every input keeps -/

/-- The host is the same, no earlier attempt is made, and no answer comes. -/
structure Onward (t t' : Turn) : Prop where
  /-- The host. -/
  host : t'.connection.host = t.connection.host
  /-- The number of the attempt. -/
  round : t.connection.round ≤ t'.connection.round
  /-- The answers that wait. -/
  answers : ∀ a ∈ t'.connection.answers, a ∈ t.connection.answers

theorem Onward.trans (h : Onward t t') (h' : Onward t' t'') : Onward t t'' :=
  ⟨h'.host.trans h.host, h.round.trans h'.round, fun a ha => h.answers a (h'.answers a ha)⟩

theorem Untouched.onward (h : Untouched t t') : Onward t t' :=
  ⟨h.host, le_of_eq h.round.symm, h.answers⟩

theorem onward_counted (t : Turn) : Onward t (t.update fun c => { c with round := c.round + 1 }) :=
  ⟨rfl, Nat.le_succ _, fun _ ha => ha⟩

theorem onward_answered {first : Nat × LookupAnswer} {rest : List (Nat × LookupAnswer)}
    (hanswers : t.connection.answers = first :: rest) (fresh : Addresses) :
    Onward t ((t.answered rest).store fresh) :=
  ⟨rfl, le_refl _, fun _ ha => hanswers ▸ List.mem_cons_of_mem _ ha⟩

/-- Asking does not change the connection. -/
theorem Onward.ask (h : Onward t t') (action : RelayAction) : Onward t (t'.ask action) :=
  ⟨h.host, h.round, h.answers⟩

namespace Begun

theorem onward (h : Begun t t') : Onward t t' := by
  cases h with
  | closed hcancelled h hphase => exact h.onward
  | known hopen hget hsome h h' hphase hpick =>
    exact ((((onward_counted t).trans h.onward).ask _).trans h'.onward).ask _
  | unknown hopen hnone h hphase => exact ((onward_counted t).trans h.onward).ask _

/-- An attempt that begins stores nothing. -/
theorem cache (h : Begun t t') : t'.cache = t.cache := by
  cases h with
  | closed hcancelled h hphase => exact h.cache
  | known hopen hget hsome h h' hphase hpick => exact h'.cache.trans h.cache
  | unknown hopen hnone h hphase => exact h.cache

theorem mem_actions (h : Begun t t') {action : RelayAction} (haction : action ∈ t.actions) :
    action ∈ t'.actions := by
  cases h with
  | closed hcancelled h hphase => exact h.mem_actions haction
  | known hopen hget hsome h h' hphase hpick =>
    exact List.mem_append_left _ (h'.mem_actions (List.mem_append_left _ (h.mem_actions haction)))
  | unknown hopen hnone h hphase => exact List.mem_append_left _ (h.mem_actions haction)

/-- Known addresses are dialed, unless the owner has closed the connection. -/
theorem dials (h : Begun t t') (hopen : t.connection.cancelled = false) {addresses : Addresses}
    (hget : t.cache.get? t.connection.host = some addresses)
    (hsome : addresses.isEmpty = false) :
    t'.connection.phase = .dialing (some addresses) ∧
      t'.connection.round = t.connection.round + 1 ∧
      ∃ address, addresses.pick t.connection.preferV6 = some address ∧
        .dial (t.connection.round + 1) address ∈ t'.actions := by
  cases h with
  | closed hcancelled h hphase =>
    rw [hopen] at hcancelled
    cases hcancelled
  | @known d d' _ addresses' hget' _ h h' hphase address hpick =>
    rw [hget'] at hget
    cases hget
    have hround : d.connection.round = t.connection.round + 1 := h.round
    rw [← hround]
    exact ⟨hphase, h'.round, address, hpick, List.mem_append_right _ (List.mem_singleton_self _)⟩
  | unknown _ hnone h hphase =>
    rw [hnone addresses hget] at hsome
    cases hsome

/-- Where nothing is known, the host is looked up before anything is dialed. -/
theorem resolves (h : Begun t t') (hopen : t.connection.cancelled = false)
    (hget : t.cache.get? t.connection.host = none) :
    t'.connection.phase = .resolving ∧ .lookup (t.connection.round + 1) ∈ t'.actions ∧
      ∀ round address, .dial round address ∈ t'.actions → .dial round address ∈ t.actions := by
  cases h with
  | closed hcancelled h hphase =>
    rw [hopen] at hcancelled
    cases hcancelled
  | known _ hget' _ h h' hphase hpick =>
    rw [hget'] at hget
    cases hget
  | @unknown d _ hnone h hphase =>
    have hround : d.connection.round = t.connection.round + 1 := h.round
    rw [← hround]
    refine ⟨hphase, List.mem_append_right _ (List.mem_singleton_self _),
      fun round address hmem => ?_⟩
    rcases List.mem_append.1 hmem with hmem | hmem
    · by_contra hnew
      exact h.not_dial (t := t.update fun c => { c with round := c.round + 1 }) hnew hmem
    · cases List.mem_singleton.1 hmem

end Begun

namespace Course

/-- Only an answer that arrives is new. -/
theorem onward (h : Course t input t') :
    Onward t t' ∨ ∃ round answer, input = .refreshed round answer ∧
      t' = t.answered (t.connection.answers ++ [(round, answer)]) := by
  cases h with
  | arrives round answer => exact Or.inr ⟨round, answer, rfl, rfl⟩
  | keeps h hsource => exact Or.inl h.onward
  | @resolves addresses hphase hsome =>
    obtain ⟨d, address, hd, -, -, hdial⟩ := untouched_dial (t.store addresses) hsome none
    rw [hdial]
    exact Or.inl (Onward.ask (t := t) ⟨hd.host, le_of_eq hd.round.symm, hd.answers⟩ _)
  | learns hphase hcached hanswers hsome => exact Or.inl (onward_answered hanswers _)
  | forgets hphase hfails =>
    have hfailed := (Untouched.refl { t with cache := t.cache.remove t.connection.host }).fail
    exact Or.inl ⟨hfailed.host, le_of_eq hfailed.round.symm, hfailed.answers⟩
  | begins hbegins => exact Or.inl (begun_attempt t).onward
  | @replaces link rest known fresh hstale =>
    have hcleared := untouched_cleared (.refl ((t.answered rest).store fresh)) link
    exact Or.inl (((onward_answered hstale.answers fresh).trans hcleared.onward).trans
      (begun_attempt _).onward)

/-- What is known of the host is as before, forgotten or learned; what is known of others is as
before. -/
theorem cache (h : Course t input t') :
    (∀ other, other ≠ t.connection.host → t'.cache.get? other = t.cache.get? other) ∧
      (t'.cache.get? t.connection.host = t.cache.get? t.connection.host ∨
        t'.cache.get? t.connection.host = none ∨
        ∃ a, t.connection.learns input = some a ∧ a.isEmpty = false ∧
          t'.cache.get? t.connection.host = some a) := by
  have hset : ∀ {a : Addresses} {cache : DnsCache},
      cache = (t.cache.set t.connection.host a).1 → t.connection.learns input = some a →
      a.isEmpty = false →
      (∀ other, other ≠ t.connection.host → cache.get? other = t.cache.get? other) ∧
      (cache.get? t.connection.host = t.cache.get? t.connection.host ∨
        cache.get? t.connection.host = none ∨
        ∃ a, t.connection.learns input = some a ∧ a.isEmpty = false ∧
          cache.get? t.connection.host = some a) := by
    rintro a cache rfl hlearns hsome
    refine ⟨fun other hother => ?_, ?_⟩
    · rw [DnsCache.get?_set, if_neg (fun h => hother h.1)]
    · rw [DnsCache.get?_set]
      split
      · exact Or.inr (Or.inr ⟨a, hlearns, hsome, rfl⟩)
      · exact Or.inl rfl
  cases h with
  | arrives round answer => exact ⟨fun _ _ => rfl, Or.inl rfl⟩
  | keeps h hsource =>
    rw [h.cache]
    exact ⟨fun _ _ => rfl, Or.inl rfl⟩
  | @resolves addresses hphase hsome =>
    obtain ⟨d, address, hd, -, -, hdial⟩ := untouched_dial (t.store addresses) hsome none
    rw [hdial]
    exact hset hd.cache (by simp [Connection.learns, hphase, hsome]) hsome
  | @learns link rest fresh hphase hcached hanswers hsome =>
    have hlink : t.connection.link? = some link := by rw [Connection.link?, hphase]
    exact hset rfl (by simp [Connection.learns, hlink, hanswers, hsome]) hsome
  | @forgets input addresses hphase hfails =>
    have hfailed := (Untouched.refl { t with cache := t.cache.remove t.connection.host }).fail
    rw [hfailed.cache]
    refine ⟨fun other hother => ?_, Or.inr (Or.inl ?_)⟩
    · rw [DnsCache.get?_remove, if_neg hother]
    · rw [DnsCache.get?_remove, if_pos rfl]
  | begins hbegins =>
    rw [(begun_attempt t).cache]
    exact ⟨fun _ _ => rfl, Or.inl rfl⟩
  | @replaces link rest known fresh hstale =>
    have hcleared := untouched_cleared (.refl ((t.answered rest).store fresh)) link
    exact hset ((begun_attempt _).cache.trans hcleared.cache) hstale.learns hstale.some

end Course
end Turn
end GroupCall
