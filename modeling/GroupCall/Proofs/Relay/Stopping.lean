/-
# Stopping further attempts

The owner may stop further attempts while one is in progress, or while the connection waits before
the next one.  The attempt that is in progress goes on; when it has failed, or its socket is lost,
the connection gives up.  But an answer with other addresses than those in use replaces the socket
without a look at the owner's wish, and the delay before the next attempt may be over before the
connection notices it: in these two cases, and in no other, a further attempt begins.
-/
import GroupCall.Proofs.Relay.Order
import GroupCall.Proofs.Relay.Rounds

namespace GroupCall

/-- Whether an attempt is in progress, or the first one is to come. -/
def Phase.isActive : Phase → Bool
  | .waiting => false
  | .finished => false
  | _ => true

/-- What is told when the connection gives up after it was stopped. -/
def RelayNews.surrender (room : Bool) : List RelayNews := .failed .aborted :: farewell room

namespace Connection

/-- Further attempts are stopped, and of the attempt in progress these news were told. -/
structure Bound (news : List RelayNews) (c : Connection) : Prop where
  /-- Somebody listens. -/
  listening : c.listening = true
  /-- The owner has stopped further attempts. -/
  aborted : c.aborted = true
  /-- The end of the attempt was not published. -/
  state : c.state ≠ .disconnected
  /-- The news leave the attempt where it is. -/
  ongoing : ∀ n ∈ news, n.isOngoing = true

/-- The attempt has ended, and the connection gave up, with or without room for the last news. -/
structure Over (news : List RelayNews) (room : Bool) (c : Connection) : Prop where
  /-- The connection is over. -/
  phase : c.phase = .finished
  /-- The end of the attempt was told, and then that there will be no other. -/
  news : ∃ current, (∀ n ∈ current, n.isOngoing = true) ∧
    news = current ++ .stateChanged .disconnected :: RelayNews.surrender room

/-- The attempt goes on, or has ended with the connection. -/
def Obeys (news : List RelayNews) (room : Bool) (c : Connection) : Prop :=
  c.phase.isActive = true ∧ c.Bound news ∨ c.Over news room

end Connection

namespace Turn

variable {t t' : Turn} {past : List RelayNews} {link : Link}

/-! ## The attempt in progress -/

/-- Further attempts are stopped, and the one in progress goes on. -/
def Bound (past : List RelayNews) (t : Turn) : Prop := t.connection.Bound (t.word past)

/-- The attempt goes on, or has ended with the connection. -/
def Obeys (past : List RelayNews) (t : Turn) : Prop :=
  t.connection.Obeys (t.word past) t.connection.newsRoom

theorem connection_giveUp (t : Turn) (error : RelayError) : (t.giveUp error).connection =
    { t.connection with state := .disconnected, phase := .finished } := by
  rw [giveUp, connection_finish, connection_tell]

namespace Bound

theorem update (h : t.Bound past) {f : Connection → Connection}
    (hlistening : (f t.connection).listening = t.connection.listening)
    (haborted : (f t.connection).aborted = t.connection.aborted)
    (hstate : (f t.connection).state = t.connection.state) : (t.update f).Bound past where
  listening := hlistening.trans h.listening
  aborted := haborted.trans h.aborted
  state := by
    change (f t.connection).state ≠ .disconnected
    rw [hstate]
    exact h.state
  ongoing := h.ongoing

theorem ask (h : t.Bound past) {action : RelayAction} (haction : action.news? = none) :
    (t.ask action).Bound past :=
  ⟨h.listening, h.aborted, h.state, by rw [word_ask haction]; exact h.ongoing⟩

/-- The cache is of no concern. -/
theorem cached (h : t.Bound past) (cache : DnsCache) : { t with cache := cache }.Bound past :=
  ⟨h.listening, h.aborted, h.state, h.ongoing⟩

theorem publish (h : t.Bound past) {state : RelayState} (hstate : state ≠ .disconnected) :
    (t.publish state).Bound past := by
  refine ⟨?_, ?_, ?_, ?_⟩
  · rw [connection_publish]
    exact h.listening
  · rw [connection_publish]
    exact h.aborted
  · rw [connection_publish]
    exact hstate
  · by_cases hsame : t.connection.state = state
    · rw [Turn.publish, if_pos hsame]
      exact h.ongoing
    · rw [word_publish h.listening hsame]
      refine List.forall_mem_append.2 ⟨h.ongoing, List.forall_mem_singleton.2 ?_⟩
      cases state with
      | disconnected => exact absurd rfl hstate
      | _ => rfl

/-- A failure is the end. -/
theorem fail (h : t.Bound past) : t.fail.Obeys past := by
  have hpublished : ((t.update fun c => { c with preferV6 := !c.preferV6 }).publish
      .disconnected).word past = t.word past ++ [.stateChanged .disconnected] :=
    word_publish (t := t.update fun c => { c with preferV6 := !c.preferV6 }) h.listening h.state
  have hconnection : ((t.update fun c => { c with preferV6 := !c.preferV6 }).publish
      .disconnected).connection =
        { t.connection with preferV6 := !t.connection.preferV6, state := .disconnected } :=
    connection_publish _ _
  rw [Turn.fail]
  generalize (t.update fun c => { c with preferV6 := !c.preferV6 }).publish .disconnected = d
    at hpublished hconnection
  have haborted : d.connection.aborted = true := by rw [hconnection]; exact h.aborted
  have hlistening : d.connection.listening = true := by rw [hconnection]; exact h.listening
  rw [if_pos haborted, Obeys, connection_giveUp]
  refine Or.inr ⟨rfl, t.word past, h.ongoing, ?_⟩
  rw [word_giveUp hlistening, hpublished, List.append_assoc]
  rfl

theorem dial (h : t.Bound past) (addresses : Addresses) (cached : Option Addresses) :
    (t.dial addresses cached).Obeys past := by
  rw [Turn.dial]
  split
  · exact h.fail
  · refine Or.inl ⟨rfl, ask (update (h.publish ?_) rfl rfl rfl) rfl⟩
    simp

theorem attempt (h : t.Bound past) (hopen : t.connection.cancelled = false) :
    t.attempt.Obeys past := by
  have hbegun : ((t.publish .resolving).update fun c =>
      { c with round := c.round + 1 }).Bound past := update (h.publish (by simp)) rfl rfl rfl
  rw [Turn.attempt, hopen]
  simp only [Bool.false_eq_true, if_false]
  split
  · exact (hbegun.ask rfl).dial _ _
  · exact Or.inl ⟨rfl, ask (hbegun.update rfl rfl rfl) rfl⟩

theorem establish (h : t.Bound past) (link : Link) : (t.establish link).Obeys past := by
  rw [Turn.establish]
  have hcleared : (t.update fun c => { c with inbox := [], queue := c.queue.clear }).Bound past :=
    h.update rfl rfl rfl
  exact Or.inl ⟨rfl, (hcleared.publish (by simp)).update rfl rfl rfl⟩

/-! ## While a socket is served -/

theorem passed (h : t.Bound past) (hpassed : Passed t t') : t'.Bound past := by
  obtain ⟨answers, hconnection⟩ := hpassed.connection
  obtain ⟨told, htold, hnews⟩ := hpassed.news
  refine ⟨?_, ?_, ?_, ?_⟩
  · rw [hconnection]
    exact h.listening
  · rw [hconnection]
    exact h.aborted
  · rcases hpassed.state with hsame | ⟨-, hjoined⟩
    · rw [hsame]
      exact h.state
    · rw [hjoined]
      simp
  · rw [word, hnews, ← List.append_assoc]
    exact List.forall_mem_append.2 ⟨h.ongoing, htold⟩

theorem enqueue (h : t.Bound past) (link : Link) (command : OutboundCommand) :
    (t.enqueue link command).Bound past := by
  rw [Turn.enqueue]
  split
  · exact (h.update rfl rfl rfl).ask rfl
  · exact h.update rfl rfl rfl
  · exact h

theorem carryOut (h : t.Bound past) (link : Link) (request : RelayRequest) :
    (t.carryOut link request).Bound past := by
  cases request with
  | send command => exact h.enqueue link command
  | join command =>
    rw [Turn.carryOut]
    split
    · exact (h.publish (by simp)).enqueue link command
    · exact h

theorem acknowledge (h : t.Bound past) (link : Link) : (t.acknowledge link).Bound past := by
  rw [Turn.acknowledge]
  dsimp only
  split
  · exact (h.update rfl rfl rfl).ask rfl
  · exact h.update rfl rfl rfl

/-- A link that ends without another attempt is lost. -/
theorem endLink (h : t.Bound past) (link : Link) : (t.endLink link .lost).Obeys past := by
  have hdown : ((t.ask (.hangUp link.socket)).update fun c =>
      { c with queue := c.queue.clear }).Bound past := (h.ask rfl).update rfl rfl rfl
  exact hdown.fail

theorem served (h : t.Bound past) (hphase : t.connection.phase = .serving link)
    (hopen : t.connection.cancelled = false) {input : RelayInput}
    (hbegins : t.connection.begins input = false) (houtcome : Outcome t link input t') :
    t'.Obeys past := by
  cases houtcome with
  | passes hpassed _ =>
    refine Or.inl ⟨?_, h.passed hpassed⟩
    rw [hpassed.phase, hphase]
    rfl
  | @takes request rest _ =>
    obtain ⟨queue, state, hconnection⟩ := connection_carryOut
      (t.update fun c => { c with inbox := rest }) link request
    refine Or.inl ⟨?_, (h.update rfl rfl rfl).carryOut link request⟩
    rw [hconnection, connection_update, hphase]
    rfl
  | acknowledges =>
    obtain ⟨queue, hconnection⟩ := connection_acknowledge t link
    refine Or.inl ⟨?_, h.acknowledge link⟩
    rw [hconnection, hphase]
    rfl
  | ends hpassed why _ hclosed hstale =>
    cases why with
    | lost => exact (h.passed hpassed).endLink link
    | closed =>
      rcases hclosed rfl with hcancelled | hdeaf
      · rw [hopen] at hcancelled
        cases hcancelled
      · rw [h.listening] at hdeaf
        cases hdeaf
    | staleAddress =>
      obtain ⟨rfl, houtdated⟩ := hstale.1 rfl
      simp [Connection.begins, hopen, houtdated] at hbegins

/-- No input makes the connection go beyond the attempt, unless it begins another one. -/
theorem step (h : t.Bound past) (hactive : t.connection.phase.isActive = true)
    (hopen : t.connection.cancelled = false) {input : RelayInput}
    (hbegins : t.connection.phase ≠ .idle → t.connection.begins input = false) :
    (t.step input).Obeys past := by
  have hmove := move_step t input
  generalize t.step input = t' at hmove
  cases hmove with
  | stays => exact Or.inl ⟨hactive, h⟩
  | arrives => exact Or.inl ⟨hactive, h.update rfl rfl rfl⟩
  | serves hphase hserved =>
    exact h.served hphase hopen (hbegins (by simp [hphase])) (outcome_served hserved)
  | begins => exact h.attempt hopen
  | resolves => exact (h.cached _).dial _ _
  | opens => exact h.establish _
  | fails => exact h.fail
  | forgets => exact (h.cached _).fail
  | closes _ hcancelled =>
    rw [hopen] at hcancelled
    cases hcancelled
  | discards hphase => simp [hphase, Phase.isActive] at hactive
  | surrenders hphase _ => simp [hphase, Phase.isActive] at hactive

end Bound

/-! ## Between attempts -/

/-- A connection that is over remains so. -/
theorem step_of_finished (h : t.connection.phase = .finished) (input : RelayInput) :
    (t.step input).connection.phase = .finished ∧ (t.step input).news = t.news := by
  unfold step
  split
  · exact ⟨h, rfl⟩
  · rw [h]
    exact ⟨h, rfl⟩

/-- Before the next attempt nothing is told, until the connection notices that it was stopped. -/
theorem step_of_waiting (h : t.connection.phase = .waiting)
    (hopen : t.connection.cancelled = false) {input : RelayInput}
    (hbegins : t.connection.begins input = false) (hnotice : input ≠ .noticeAbort) :
    (t.step input).connection.phase = .waiting ∧ (t.step input).news = t.news := by
  unfold step
  split
  · exact ⟨h, rfl⟩
  · rw [h]
    cases input with
    | retryDue => simp [Connection.begins, hopen, h] at hbegins
    | noticeCancel =>
      rw [advance, hopen]
      exact ⟨h, rfl⟩
    | noticeAbort => exact absurd rfl hnotice
    | _ => exact ⟨h, rfl⟩

theorem step_noticeAbort (h : t.connection.phase = .waiting)
    (haborted : t.connection.aborted = true) :
    t.step .noticeAbort = t.giveUp .aborted := by
  unfold step
  rw [h]
  exact if_pos haborted

end Turn

/-! ## Runs -/

/-- Whether the owner closes the connection, lets go of it, or no longer listens. -/
def RelayStep.leaves : RelayStep → Bool
  | .disconnect => true
  | .drop => true
  | .dropListener => true
  | _ => false

/-- Whether the connection notices that further attempts were stopped. -/
def RelayStep.noticesAbort : RelayStep → Bool
  | .input _ .noticeAbort => true
  | _ => false

namespace Connection

variable {c : Connection} {news : List RelayNews}

/-- The attempts for which something is looked up or dialed in a step. -/
def seeks (c : Connection) : RelayStep → List Nat
  | .input cache input => (Turn.step ⟨c, cache, []⟩ input).sought
  | _ => []

/-- The attempts for which something is looked up or dialed in a run. -/
def sought (c : Connection) : List RelayStep → List Nat
  | [] => []
  | step :: rest => c.seeks step ++ sought (c.take step).1 rest

/-- The number of the current attempt; before the connection starts it is the first one. -/
def latest (c : Connection) : Nat := if c.phase = .idle then c.round + 1 else c.round

/-- Whether a step begins an attempt after the current one. -/
def defies (c : Connection) : RelayStep → Bool
  | .input _ input => c.begins input && decide (c.phase ≠ .idle)
  | _ => false

/-- Whether there is room for the last news in the step of a run with which the connection
ends. -/
def roomAtEnd (c : Connection) : List RelayStep → Bool
  | [] => c.newsRoom
  | step :: rest =>
    if (c.take step).1.phase = .finished then c.newsRoom else roomAtEnd (c.take step).1 rest

/-- Whether a step of a run begins an attempt after the one that was current then. -/
def defied (c : Connection) : List RelayStep → Bool
  | [] => false
  | step :: rest => c.defies step || defied (c.take step).1 rest

/-! ## Which attempts are made -/

/-- After a step no attempt after the current one was made. -/
structure Keeps (c : Connection) (step : RelayStep) : Prop where
  /-- The current attempt is none after it. -/
  le : (c.take step).1.latest ≤ c.latest
  /-- It is the same, unless the owner has closed the connection. -/
  same : (c.take step).1.cancelled = false → (c.take step).1.latest = c.latest
  /-- No other was made. -/
  seeks : ∀ round ∈ c.seeks step, round ≤ c.latest

/-- What the owner does makes no attempt. -/
theorem keeps_owner {step : RelayStep} (h : ∀ cache input, step ≠ .input cache input) :
    c.Keeps step := by
  have hsame : (c.take step).1.phase = c.phase ∧ (c.take step).1.round = c.round := by
    cases step with
    | input cache input => exact absurd rfl (h cache input)
    | post request =>
      rw [Connection.take, post]
      cases request.check c.state <;> exact ⟨rfl, rfl⟩
    | _ => exact ⟨rfl, rfl⟩
  have hlatest : (c.take step).1.latest = c.latest := by rw [latest, latest, hsame.1, hsame.2]
  refine ⟨Nat.le_of_eq hlatest, fun _ => hlatest, ?_⟩
  cases step with
  | input cache input => exact absurd rfl (h cache input)
  | _ => exact List.forall_mem_nil _

/-- When a connection starts, the attempt that begins is the current one. -/
theorem keeps_start (cache : DnsCache) {input : RelayInput} (hbegins : c.begins input = true)
    (hidle : c.phase = .idle) : c.Keeps (.input cache input) := by
  have hlatest : c.latest = c.round + 1 := if_pos hidle
  have hafter := Turn.begins_step (t := ⟨c, cache, []⟩) rfl hbegins
  obtain ⟨more, hmore, hall⟩ := hafter.sought
  have hseeks : c.seeks (.input cache input) = (c.round + 1) :: more := hmore
  have hsame : (c.take (.input cache input)).1.latest = c.latest := by
    rw [hlatest, latest, Connection.take, if_neg hafter.started]
    exact hafter.round
  refine ⟨Nat.le_of_eq hsame, fun _ => hsame, ?_⟩
  rw [hseeks, hlatest]
  exact List.forall_mem_cons.2 ⟨Nat.le_refl _, fun round hround => Nat.le_of_eq (hall round hround)⟩

/-- Where none begins, the one in progress is the current one. -/
theorem keeps_input (cache : DnsCache) {input : RelayInput} (hbegins : c.begins input = false) :
    c.Keeps (.input cache input) := by
  have hafter := Turn.stays_step (t := ⟨c, cache, []⟩) rfl hbegins
  obtain ⟨more, hmore, hall⟩ := hafter.seeks.sought
  have hseeks : c.seeks (.input cache input) = more := hmore
  have hround : (Turn.step ⟨c, cache, []⟩ input).connection.round = c.round := hafter.seeks.round
  have hle : c.round ≤ c.latest := by
    rw [latest]
    split <;> omega
  constructor
  · rw [latest, Connection.take, hround]
    split
    · rename_i hidle
      exact Nat.le_of_eq (if_pos (show c.phase = .idle from hafter.started hidle)).symm
    · exact hle
  · intro hopen
    have hopen' : c.cancelled = false := by
      rw [← (steady_input c cache input).cancelled]
      exact hopen
    rw [latest, latest, Connection.take, hround]
    by_cases hidle : c.phase = .idle
    · rw [if_pos (hafter.idle hopen' hidle), if_pos hidle]
    · rw [if_neg fun hidle' => hidle (hafter.started hidle'), if_neg hidle]
  · rw [hseeks]
    intro round hmem
    rw [show round = c.round from hall round hmem]
    exact hle

/-- A step that begins no attempt after the current one makes none but that. -/
theorem keeps_take {step : RelayStep} (h : c.defies step = false) : c.Keeps step := by
  cases step with
  | input cache input =>
    cases hbegins : c.begins input with
    | true => exact keeps_start cache hbegins (by simpa [defies, hbegins] using h)
    | false => exact keeps_input cache hbegins
  | _ =>
    refine keeps_owner ?_
    simp

/-- If no step begins an attempt after the current one, none is made. -/
theorem sought_le (steps : List RelayStep) (h : c.defied steps = false) :
    ∀ round ∈ c.sought steps, round ≤ c.latest := by
  induction steps generalizing c with
  | nil => exact List.forall_mem_nil _
  | cons step rest ih =>
    rw [defied, Bool.or_eq_false_iff] at h
    have hkeeps := keeps_take h.1
    refine List.forall_mem_append.2 ⟨hkeeps.seeks, fun round hround => ?_⟩
    exact Nat.le_trans (ih h.2 round hround) hkeeps.le

theorem open_of_defied (steps : List RelayStep) (h : c.defied steps = true) :
    c.cancelled = false := by
  induction steps generalizing c with
  | nil => cases h
  | cons step rest ih =>
    rw [defied, Bool.or_eq_true] at h
    rcases h with hdefies | hrest
    · cases step with
      | input cache input =>
        rw [defies, Bool.and_eq_true] at hdefies
        exact open_of_begins hdefies.1
      | _ => cases hdefies
    · have hafter := ih hrest
      rw [cancelled_take, Bool.or_eq_false_iff] at hafter
      exact hafter.1

/-- If a step does, one is made. -/
theorem lt_sought (steps : List RelayStep) (h : c.defied steps = true) :
    ∃ round ∈ c.sought steps, c.latest < round := by
  induction steps generalizing c with
  | nil => cases h
  | cons step rest ih =>
    by_cases hdefies : c.defies step = true
    · cases step with
      | input cache input =>
        rw [defies, Bool.and_eq_true, decide_eq_true_eq] at hdefies
        obtain ⟨hbegins, hstarted⟩ := hdefies
        obtain ⟨more, hmore, -⟩ := (Turn.begins_step (t := ⟨c, cache, []⟩) rfl hbegins).sought
        have hseeks : c.seeks (.input cache input) = [c.round + 1] ++ more := hmore
        refine ⟨c.round + 1, ?_, ?_⟩
        · rw [sought, hseeks]
          simp
        · rw [latest, if_neg hstarted]
          exact Nat.lt_succ_self _
      | _ => cases hdefies
    · have hkept : c.defies step = false := by simpa using hdefies
      have hrest : (c.take step).1.defied rest = true := by simpa [defied, hkept] using h
      obtain ⟨round, hround, hlt⟩ := ih hrest
      refine ⟨round, List.mem_append_right _ hround, ?_⟩
      rw [← (keeps_take hkept).same (open_of_defied rest hrest)]
      exact hlt

/-! ## What is told -/

/-- While the owner stays, somebody listens and nobody closes the connection. -/
theorem stays_take {step : RelayStep} (h : step.leaves = false) :
    (c.take step).1.listening = c.listening ∧ (c.take step).1.cancelled = c.cancelled := by
  cases step with
  | input cache input =>
    exact ⟨(steady_input c cache input).listening, (steady_input c cache input).cancelled⟩
  | post request =>
    rw [Connection.take, post]
    cases request.check c.state <;> exact ⟨rfl, rfl⟩
  | abortRetries => exact ⟨rfl, rfl⟩
  | setNewsRoom room => exact ⟨rfl, rfl⟩
  | _ => cases h

/-- A connection that is over tells nothing more. -/
theorem told_of_finished (hphase : c.phase = .finished) (steps : List RelayStep) :
    (c.run steps).phase = .finished ∧ c.told steps = [] := by
  induction steps generalizing c with
  | nil => exact ⟨hphase, rfl⟩
  | cons step rest ih =>
    have hsame : (c.take step).1.phase = .finished ∧ (c.take step).2 = [] := by
      cases step with
      | input cache input => exact Turn.step_of_finished (t := ⟨c, cache, []⟩) hphase input
      | post request =>
        rw [Connection.take, post]
        cases request.check c.state <;> exact ⟨hphase, rfl⟩
      | _ => exact ⟨hphase, rfl⟩
    rw [told, hsame.2]
    exact ih hsame.1

/-- A connection that was stopped before the next attempt waits until it notices. -/
theorem told_of_waiting (hphase : c.phase = .waiting) (haborted : c.aborted = true)
    (hlistening : c.listening = true) (hopen : c.cancelled = false) (steps : List RelayStep)
    (hstays : ∀ step ∈ steps, step.leaves = false) (hdefied : c.defied steps = false) :
    if steps.any RelayStep.noticesAbort then
      (c.run steps).phase = .finished ∧ c.told steps = RelayNews.surrender (c.roomAtEnd steps)
    else (c.run steps).phase = .waiting ∧ c.told steps = [] := by
  induction steps generalizing c with
  | nil => exact ⟨hphase, rfl⟩
  | cons step rest ih =>
    obtain ⟨hstep, hrest⟩ := List.forall_mem_cons.1 hstays
    rw [defied, Bool.or_eq_false_iff] at hdefied
    obtain ⟨hheard, hkept⟩ := stays_take (c := c) hstep
    by_cases hnotices : step.noticesAbort = true
    · -- the connection gives up, and is over
      cases step with
      | input cache input =>
        cases input with
        | noticeAbort =>
          have hend : Turn.step ⟨c, cache, []⟩ .noticeAbort =
              Turn.giveUp ⟨c, cache, []⟩ .aborted := Turn.step_noticeAbort hphase haborted
          have hover : (c.take (.input cache .noticeAbort)).1.phase = .finished := by
            rw [Connection.take, hend, Turn.connection_giveUp]
          have htold : (c.take (.input cache .noticeAbort)).2 =
              RelayNews.surrender c.newsRoom := by
            rw [Connection.take, hend]
            exact Turn.news_giveUp (t := ⟨c, cache, []⟩) hlistening .aborted
          obtain ⟨hphase', hnone⟩ := told_of_finished hover rest
          rw [List.any_cons, hnotices, Bool.true_or, if_pos rfl, told, htold, hnone, roomAtEnd,
            if_pos hover, List.append_nil]
          exact ⟨hphase', rfl⟩
        | _ => cases hnotices
      | _ => cases hnotices
    · have hwaits : (c.take step).1.phase = .waiting ∧ (c.take step).2 = [] ∧
          (c.take step).1.aborted = true := by
        cases step with
        | input cache input =>
          have hbegins : c.begins input = false := by simpa [defies, hphase] using hdefied.1
          obtain ⟨hphase', hnone⟩ := Turn.step_of_waiting (t := ⟨c, cache, []⟩)
            hphase hopen hbegins (by rintro rfl; exact hnotices rfl)
          exact ⟨hphase', hnone, (steady_input c cache input).aborted.trans haborted⟩
        | post request =>
          rw [Connection.take, post]
          cases request.check c.state <;> exact ⟨hphase, rfl, haborted⟩
        | abortRetries => exact ⟨hphase, rfl, rfl⟩
        | setNewsRoom room => exact ⟨hphase, rfl, haborted⟩
        | _ => cases hstep
      obtain ⟨hphase', hnone, haborted'⟩ := hwaits
      have hgoing : (c.take step).1.phase ≠ .finished := by simp [hphase']
      rw [List.any_cons, show step.noticesAbort = false by simpa using hnotices, Bool.false_or,
        told, hnone, List.nil_append, roomAtEnd, if_neg hgoing]
      exact ih hphase' haborted' (hheard.trans hlistening) (hkept.trans hopen) hrest hdefied.2

/-- A step takes the attempt no further than its end. -/
theorem Bound.take (h : c.Bound news) (hactive : c.phase.isActive = true)
    (hopen : c.cancelled = false) {step : RelayStep} (hstays : step.leaves = false)
    (hdefies : c.defies step = false) :
    (c.take step).1.Obeys (news ++ (c.take step).2) c.newsRoom := by
  cases step with
  | input cache input =>
    have hbefore : Turn.Bound news ⟨c, cache, []⟩ := by
      simpa [Turn.Bound, Turn.word, Turn.news] using h
    have hafter := hbefore.step hactive hopen fun hstarted => by
      simpa [defies, show c.phase ≠ .idle from hstarted] using hdefies
    rwa [Turn.Obeys, (steady_input c cache input).newsRoom] at hafter
  | post request =>
    rw [Connection.take, post, List.append_nil]
    cases request.check c.state with
    | error _ => exact Or.inl ⟨hactive, h⟩
    | ok _ => exact Or.inl ⟨hactive, ⟨h.listening, h.aborted, h.state, h.ongoing⟩⟩
  | abortRetries =>
    rw [Connection.take, List.append_nil]
    exact Or.inl ⟨hactive, ⟨h.listening, rfl, h.state, h.ongoing⟩⟩
  | setNewsRoom room =>
    rw [Connection.take, List.append_nil]
    exact Or.inl ⟨hactive, ⟨h.listening, h.aborted, h.state, h.ongoing⟩⟩
  | _ => cases hstays

/-- A connection that was stopped in an attempt goes on with it, and gives up when it ends. -/
theorem Bound.run (h : c.Bound news) (hactive : c.phase.isActive = true)
    (hopen : c.cancelled = false) (steps : List RelayStep)
    (hstays : ∀ step ∈ steps, step.leaves = false) (hdefied : c.defied steps = false) :
    (c.run steps).Obeys (news ++ c.told steps) (c.roomAtEnd steps) := by
  induction steps generalizing c news with
  | nil => exact Or.inl ⟨hactive, by simpa [told, Connection.run] using h⟩
  | cons step rest ih =>
    obtain ⟨hstep, hrest⟩ := List.forall_mem_cons.1 hstays
    rw [defied, Bool.or_eq_false_iff] at hdefied
    rw [told, ← List.append_assoc, roomAtEnd]
    rcases h.take hactive hopen hstep hdefied.1 with ⟨hactive', hbound⟩ | hover
    · have hgoing : (c.take step).1.phase ≠ .finished := by
        intro hphase
        rw [hphase] at hactive'
        cases hactive'
      rw [if_neg hgoing]
      exact ih hbound hactive' ((stays_take hstep).2.trans hopen) hrest hdefied.2
    · obtain ⟨hphase, hnone⟩ := told_of_finished hover.phase rest
      rw [if_pos hover.phase, hnone, List.append_nil]
      exact Or.inr ⟨hphase, hover.news⟩

/-- What becomes of a connection on which further attempts were stopped: the attempt in progress
goes on, or has ended with the connection; a connection that waits for the next one gives up when
it notices; and one that was over remains so.  The last news is told if there is room for it. -/
def Surrenders (c : Connection) (steps : List RelayStep) : Prop :=
  match c.phase with
  | .finished => (c.run steps).phase = .finished ∧ c.told steps = []
  | .waiting =>
    if steps.any RelayStep.noticesAbort then
      (c.run steps).phase = .finished ∧ c.told steps = RelayNews.surrender (c.roomAtEnd steps)
    else (c.run steps).phase = .waiting ∧ c.told steps = []
  | _ => (c.run steps).Obeys (c.told steps) (c.roomAtEnd steps)

/-- A run in which the owner stays leaves the listener and the wish to go on as they are. -/
theorem stays_run (steps : List RelayStep) (h : ∀ step ∈ steps, step.leaves = false) :
    (c.run steps).listening = c.listening ∧ (c.run steps).cancelled = c.cancelled := by
  induction steps generalizing c with
  | nil => exact ⟨rfl, rfl⟩
  | cons step rest ih =>
    obtain ⟨hstep, hrest⟩ := List.forall_mem_cons.1 h
    obtain ⟨hheard, hkept⟩ := stays_take (c := c) hstep
    obtain ⟨hheard', hkept'⟩ := ih (c := (c.take step).1) hrest
    exact ⟨hheard'.trans hheard, hkept'.trans hkept⟩

/-- The published state is never that of an ended attempt while one is in progress. -/
theorem Follows.bound (h : c.Follows news) (hlistening : c.listening = true)
    (hactive : c.phase.isActive = true) : c.abortRetries.Bound [] := by
  refine ⟨hlistening, rfl, ?_, List.forall_mem_nil _⟩
  have hfits := h.fits hlistening
  change c.state ≠ .disconnected
  cases hphase : c.phase with
  | waiting => simp [hphase, Phase.isActive] at hactive
  | finished => simp [hphase, Phase.isActive] at hactive
  | serving link =>
    rw [hphase] at hfits
    exact hfits.2.ne_disconnected
  | _ =>
    rw [hphase] at hfits
    simp [hfits.1]

/-- After the owner has stopped further attempts, at any point of any run, one begins only by an
answer with other addresses than those in use, or by a delay that is over before the connection
notices.  Otherwise the connection gives up once the attempt that was in progress has ended, and
tells that it was stopped. -/
theorem abort_along_runs {id : Nat} {url : String} {config : RelayConfig}
    (h : ofUrl id url config = .ok c) (before after : List RelayStep) :
    ((∃ round ∈ (c.run before).abortRetries.sought after,
        (c.run before).abortRetries.latest < round) ↔
      (c.run before).abortRetries.defied after = true) ∧
    ((c.run before).abortRetries.defied after = false →
      (∀ step ∈ before ++ after, step.leaves = false) →
        (c.run before).abortRetries.Surrenders after) := by
  refine ⟨⟨?_, lt_sought after⟩, ?_⟩
  · rintro ⟨round, hround, hlt⟩
    cases hkept : (c.run before).abortRetries.defied after with
    | true => rfl
    | false =>
      have hle := sought_le after hkept round hround
      omega
  · intro hkept hstays
    obtain ⟨hbefore, hafter⟩ := List.forall_mem_append.1 hstays
    obtain ⟨hfollows, hopen⟩ := follows_ofUrl h
    obtain ⟨hheard, hopen'⟩ := stays_run (c := c) before hbefore
    have hlistening : (c.run before).listening = true := by
      obtain ⟨host, rfl⟩ := eq_of_ofUrl h
      exact hheard
    have hkept' : (c.run before).cancelled = false := hopen'.trans hopen
    have hbegun : (c.run before).phase.isActive = true →
        ((c.run before).abortRetries.run after).Obeys ((c.run before).abortRetries.told after)
          ((c.run before).abortRetries.roomAtEnd after) := fun hactive =>
      ((hfollows.run before).bound hlistening hactive).run hactive hkept' after hafter hkept
    unfold Surrenders
    split
    · rename_i hphase
      exact told_of_finished hphase after
    · rename_i hphase
      exact told_of_waiting hphase rfl hlistening hkept' after hafter hkept
    · rename_i hfinished hwaiting
      refine hbegun ?_
      cases hphase : (c.run before).phase with
      | finished => exact absurd hphase hfinished
      | waiting => exact absurd hphase hwaiting
      | _ => rfl

/-- A socket is served whose address came from the cache, and another one was looked up since. -/
def served : List RelayStep :=
  [.input (DnsCache.empty.set "10.0.0.1" ⟨[⟨0x0A000001⟩], []⟩).1 .start,
    .input .empty (.dialed 1 (.ok 0)), .input .empty (.refreshed 1 (.ok ⟨[⟨0x0A000002⟩], []⟩))]

/-- The socket is lost after the owner has stopped further attempts. -/
theorem abort_lost : ∃ c, ofUrl 1 "ws://10.0.0.1" .standard = .ok c ∧
    ((c.run served).abortRetries.told [.input .empty (.socketLost 0)],
      (c.run served).abortRetries.defied [.input .empty (.socketLost 0)]) =
        ([.stateChanged .disconnected, .failed .aborted, .closed], false) ∧
    ((∃ round ∈ (c.run served).abortRetries.sought [.input .empty (.socketLost 0)],
        (c.run served).abortRetries.latest < round) ↔
      (c.run served).abortRetries.defied [.input .empty (.socketLost 0)] = true) ∧
    (c.run served).abortRetries.Surrenders [.input .empty (.socketLost 0)] := by
  obtain ⟨c, h, htold⟩ : ∃ c, ofUrl 1 "ws://10.0.0.1" .standard = .ok c ∧
      ((c.run served).abortRetries.told [.input .empty (.socketLost 0)],
        (c.run served).abortRetries.defied [.input .empty (.socketLost 0)]) =
        ([.stateChanged .disconnected, .failed .aborted, .closed], false) :=
    exists_of_map_ofUrl (by decide +kernel)
  have hstays : ∀ step ∈ served ++ [.input .empty (.socketLost 0)], step.leaves = false := by
    simp [served, RelayStep.leaves]
  obtain ⟨hsought, hends⟩ := abort_along_runs h served [.input .empty (.socketLost 0)]
  exact ⟨c, h, htold, hsought, hends (congrArg Prod.snd htold) hstays⟩

/-- After the owner has stopped further attempts the connection takes the answer with the other
address: it looks up the host and dials once more, and tells nothing of having been stopped. -/
theorem abort_ignored : ∃ c, ofUrl 1 "ws://10.0.0.1" .standard = .ok c ∧
    (c.run served).abortRetries.latest = 1 ∧
    (c.run served).abortRetries.sought [.input .empty .takeAnswer] = [2, 2] ∧
    (c.run served).abortRetries.told [.input .empty .takeAnswer] =
      [.stateChanged .disconnected, .stateChanged .resolving, .stateChanged .connecting] := by
  obtain ⟨c, h, hafter⟩ : ∃ c, ofUrl 1 "ws://10.0.0.1" .standard = .ok c ∧
      ((c.run served).abortRetries.latest,
        (c.run served).abortRetries.sought [.input .empty .takeAnswer],
        (c.run served).abortRetries.told [.input .empty .takeAnswer]) =
        (1, [2, 2],
          [.stateChanged .disconnected, .stateChanged .resolving, .stateChanged .connecting]) :=
    exists_of_map_ofUrl (by decide +kernel)
  obtain ⟨hlatest, hrest⟩ := Prod.mk.inj hafter
  obtain ⟨hsought, htold⟩ := Prod.mk.inj hrest
  exact ⟨c, h, hlatest, hsought, htold⟩

end Connection
end GroupCall
