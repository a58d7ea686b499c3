/-
# Every run tells its news in order

The phase of a connection says where the last attempt stands: while the host is looked up, a
socket is opened or a socket is served, the attempt is in progress at the published state;
while the connection waits, every attempt is complete.  Whatever ends an attempt first
publishes that there is no socket, so the next one starts clean, and the connection gives up
only after that.
-/
import GroupCall.Proofs.Relay.Runs

namespace GroupCall

open RelayNews

/-- Where the news of a connection stand in a phase, at a published state.  `closed` says
whether the owner has closed it. -/
def Phase.Fits (closed : Prop) (state : RelayState) (news : List RelayNews) : Phase → Prop
  | .idle => state = .new ∧ news = []
  | .resolving => state = .resolving ∧ Underway .resolving news
  | .dialing _ => state = .connecting ∧ Underway .connecting news
  | .serving _ => state.isOnline = true ∧ Underway state news
  | .waiting =>
    state = .disconnected ∧ Attempts news ∧ news.getLast? = some (.stateChanged .disconnected)
  | .finished => Ordered closed news

theorem Phase.Fits.ordered {closed : Prop} {state : RelayState} {news : List RelayNews}
    {phase : Phase} (h : phase.Fits closed state news) : Ordered closed news := by
  cases phase with
  | idle =>
    obtain ⟨-, rfl⟩ := h
    exact Attempts.none.ordered closed
  | resolving => exact h.2.ordered closed
  | dialing _ => exact h.2.ordered closed
  | serving _ => exact h.2.ordered closed
  | waiting => exact h.2.1.ordered closed
  | finished => exact h

/-- The owner may close a connection that it did not close before. -/
theorem Phase.Fits.mono {closed closed' : Prop} {state : RelayState} {news : List RelayNews}
    {phase : Phase} (h : phase.Fits closed state news) (hmono : closed → closed') :
    phase.Fits closed' state news := by
  cases phase with
  | finished => exact Ordered.mono h hmono
  | _ => exact h

namespace Turn

variable {t : Turn} {past : List RelayNews}

/-- What was told before a turn and in it. -/
def word (past : List RelayNews) (t : Turn) : List RelayNews := past ++ t.news

/-- Somebody listens, and what was told is where the phase says. -/
structure Fits (past : List RelayNews) (t : Turn) : Prop where
  /-- Somebody listens. -/
  listening : t.connection.listening = true
  /-- What was told. -/
  word : t.connection.phase.Fits (t.connection.cancelled = true) t.connection.state (t.word past)

theorem word_tell (h : t.connection.listening = true) (n : RelayNews) :
    (t.tell n).word past = t.word past ++ [n] := by
  rw [word, news_tell h, word, List.append_assoc]

theorem word_publish {state : RelayState} (h : t.connection.listening = true)
    (hne : t.connection.state ≠ state) :
    (t.publish state).word past = t.word past ++ [.stateChanged state] := by
  rw [word, news_publish h hne, word, List.append_assoc]

/-- Anything but telling leaves what was told. -/
theorem word_ask {action : RelayAction} (ha : action.news? = none) :
    (t.ask action).word past = t.word past := by
  rw [word, news_ask, ha, word]
  simp

/-! ## Ends -/

theorem word_finish (h : t.connection.listening = true) :
    t.finish.word past = t.word past ++ farewell t.connection.newsRoom := by
  rw [word, news_finish h, word, List.append_assoc]

theorem word_giveUp (h : t.connection.listening = true) (error : RelayError) :
    (t.giveUp error).word past =
      t.word past ++ .failed error :: farewell t.connection.newsRoom := by
  rw [word, news_giveUp h, word, List.append_assoc]

/-- The end of a connection, in an order that `closed` allows. -/
theorem fits_finish (hl : t.connection.listening = true)
    (h : Ordered (t.connection.cancelled = true)
      (t.word past ++ farewell t.connection.newsRoom)) : t.finish.Fits past := by
  refine ⟨by rw [connection_finish]; exact hl, ?_⟩
  rw [word_finish hl, connection_finish]
  exact h

/-- The connection gives up after an attempt. -/
theorem fits_giveUp (hl : t.connection.listening = true) (h : Attempts (t.word past))
    (hlast : (t.word past).getLast? = some (.stateChanged .disconnected)) (error : RelayError) :
    (t.giveUp error).Fits past := by
  refine fits_finish ?_ ?_
  · rw [connection_tell]
    exact hl
  · rw [word_tell hl, connection_tell, List.append_assoc]
    exact h.giveUp hlast error _ _

/-- A failed attempt is told as the loss of the socket, before anything else happens. -/
theorem fits_fail (hl : t.connection.listening = true)
    (h : Underway t.connection.state (t.word past)) : t.fail.Fits past := by
  have hpublished : ((t.update fun c => { c with preferV6 := !c.preferV6 }).publish
      .disconnected).word past = t.word past ++ [.stateChanged .disconnected] :=
    word_publish (t := t.update fun c => { c with preferV6 := !c.preferV6 }) hl h.ne_disconnected
  have hconnection : ((t.update fun c => { c with preferV6 := !c.preferV6 }).publish
      .disconnected).connection =
        { t.connection with preferV6 := !t.connection.preferV6, state := .disconnected } :=
    connection_publish _ _
  rw [fail]
  generalize (t.update fun c => { c with preferV6 := !c.preferV6 }).publish .disconnected = d
    at hpublished hconnection
  have hlistening : d.connection.listening = true := by rw [hconnection]; exact hl
  have hdone : Attempts (d.word past) := hpublished ▸ h.disconnect
  have hlast : (d.word past).getLast? = some (.stateChanged .disconnected) := by simp [hpublished]
  split
  · exact fits_giveUp hlistening hdone hlast _
  · split
    · exact fits_giveUp hlistening hdone hlast _
    · refine ⟨hlistening, ?_, ?_⟩
      · change d.connection.state = .disconnected
        rw [hconnection]
      · rw [word_ask rfl]
        exact ⟨hdone, hlast⟩

/-! ## Attempts -/

theorem fits_dial (hl : t.connection.listening = true) (hs : t.connection.state = .resolving)
    (h : Underway .resolving (t.word past)) (addresses : Addresses) (cached : Option Addresses) :
    (t.dial addresses cached).Fits past := by
  rw [dial]
  split
  · exact fits_fail hl (hs.symm ▸ h)
  · have hpublished : (t.publish .connecting).word past =
        t.word past ++ [.stateChanged .connecting] := word_publish hl (by simp [hs])
    refine ⟨(listening_publish t _).trans hl, state_publish t _, ?_⟩
    rw [word_ask rfl]
    exact (hpublished ▸ h.dial : Underway .connecting ((t.publish .connecting).word past))

/-- An attempt starts where the last one is complete. -/
theorem fits_attempt (hl : t.connection.listening = true) (hs : t.connection.state ≠ .resolving)
    (h : Attempts (t.word past)) : t.attempt.Fits past := by
  rw [attempt]
  split
  · rename_i hcancelled
    exact fits_finish hl (h.close hcancelled _)
  · have hpublished : (t.publish .resolving).word past =
        t.word past ++ [.stateChanged .resolving] := word_publish hl hs
    have hbegun : Underway .resolving ((t.publish .resolving).word past) :=
      hpublished ▸ h.begin
    dsimp only
    split
    · -- addresses are known, and only refreshed behind the attempt
      refine fits_dial ?_ ?_ ?_ _ _
      · exact (listening_publish t _).trans hl
      · exact state_publish t _
      · rw [word_ask rfl]
        exact hbegun
    · refine ⟨(listening_publish t _).trans hl, state_publish t _, ?_⟩
      rw [word_ask rfl]
      exact hbegun

theorem fits_establish (hl : t.connection.listening = true) (hs : t.connection.state = .connecting)
    (h : Underway .connecting (t.word past)) (link : Link) : (t.establish link).Fits past := by
  have hne : t.connection.state ≠ .connected := by simp [hs]
  have hpublished : ((t.update fun c => { c with inbox := [], queue := c.queue.clear }).publish
      .connected).word past = t.word past ++ [.stateChanged .connected] :=
    word_publish (t := t.update fun c => { c with inbox := [], queue := c.queue.clear }) hl hne
  have hconnection := connection_publish
    (t.update fun c => { c with inbox := [], queue := c.queue.clear }) .connected
  rw [establish]
  generalize (t.update fun c => { c with inbox := [], queue := c.queue.clear }).publish
    .connected = d at hpublished hconnection
  have hstate : d.connection.state = .connected := by rw [hconnection]
  refine ⟨?_, ?_, ?_⟩
  · change d.connection.listening = true
    rw [hconnection]
    exact hl
  · change d.connection.state.isOnline = true
    rw [hstate]
    rfl
  · change Underway d.connection.state (d.word past)
    rw [hstate, hpublished]
    exact h.establish

/-! ## Serving a socket -/

/-- A socket is served, and somebody listens. -/
structure Serving (past : List RelayNews) (link : Link) (t : Turn) : Prop where
  /-- Somebody listens. -/
  listening : t.connection.listening = true
  /-- The socket is the one of the phase. -/
  phase : t.connection.phase = .serving link
  /-- A socket is open. -/
  online : t.connection.state.isOnline = true
  /-- What was told. -/
  word : Underway t.connection.state (t.word past)

namespace Serving

variable {link : Link}

theorem fits (h : t.Serving past link) : t.Fits past :=
  ⟨h.listening, by rw [h.phase]; exact ⟨h.online, h.word⟩⟩

/-- Nothing changes but what has nothing to do with news. -/
theorem update (h : t.Serving past link) {f : Connection → Connection}
    (hlistening : (f t.connection).listening = t.connection.listening)
    (hphase : (f t.connection).phase = t.connection.phase)
    (hstate : (f t.connection).state = t.connection.state) : (t.update f).Serving past link where
  listening := hlistening.trans h.listening
  phase := hphase.trans h.phase
  online := (congrArg RelayState.isOnline hstate).trans h.online
  word := by
    change Underway (f t.connection).state (t.word past)
    rw [hstate]
    exact h.word

theorem ask (h : t.Serving past link) {action : RelayAction} (ha : action.news? = none) :
    (t.ask action).Serving past link :=
  ⟨h.listening, h.phase, h.online, by rw [word_ask ha]; exact h.word⟩

theorem enqueue (h : t.Serving past link) (command : OutboundCommand) :
    (t.enqueue link command).Serving past link := by
  rw [Turn.enqueue]
  split
  · exact ask (h.update rfl rfl rfl) rfl
  · exact h.update rfl rfl rfl
  · exact h

theorem acknowledge (h : t.Serving past link) : (t.acknowledge link).Serving past link := by
  rw [Turn.acknowledge]
  dsimp only
  split
  · exact ask (h.update rfl rfl rfl) rfl
  · exact h.update rfl rfl rfl

/-- A request to join is told once for a socket. -/
theorem carryOut (h : t.Serving past link) (request : RelayRequest) :
    (t.carryOut link request).Serving past link := by
  cases request with
  | send command => exact h.enqueue command
  | join command =>
    rw [Turn.carryOut]
    split
    · rename_i hs
      refine enqueue ⟨(listening_publish t _).trans h.listening, (phase_publish t _).trans h.phase,
        ?_, ?_⟩ command
      · rw [state_publish]
        rfl
      · rw [state_publish, word_publish h.listening (by simp [hs])]
        exact (hs ▸ h.word : Underway .connected (t.word past)).join
    · exact h

/-- The end of a link, on the wish of the owner only if it closed the connection. -/
theorem endLink (h : t.Serving past link) {why : LinkEnd}
    (hwhy : why = .closed → t.connection.cancelled = true) : (t.endLink link why).Fits past := by
  have hdown : ((t.ask (.hangUp link.socket)).update fun c =>
      { c with queue := c.queue.clear }).Serving past link := (h.ask rfl).update rfl rfl rfl
  cases why with
  | closed => exact fits_finish hdown.listening (hdown.word.close (hwhy rfl) _)
  | lost => exact fits_fail hdown.listening hdown.word
  | staleAddress =>
    -- the loss is told before the next attempt, which so starts clean
    refine fits_attempt ((listening_publish _ _).trans hdown.listening) ?_ ?_
    · rw [state_publish]
      simp
    · rw [word_publish hdown.listening hdown.word.ne_disconnected]
      exact hdown.word.disconnect

/-- News that fit the state of the socket. -/
theorem tell (h : t.Serving past link) {n : RelayNews}
    (hword : Underway t.connection.state (t.word past ++ [n])) :
    (t.tell n).Serving past link := by
  refine ⟨?_, ?_, ?_, ?_⟩ <;> rw [connection_tell]
  · exact h.listening
  · exact h.phase
  · exact h.online
  · rw [word_tell h.listening]
    exact hword

/-- The answer completes the joining, and both are told. -/
theorem tellAnswer (h : t.Serving past link) (hs : t.connection.state = .joining)
    (answer : Answer) :
    ((t.publish .joined).tell (.frame (.command (.answer answer)))).Serving past link := by
  have hlistening : (t.publish .joined).connection.listening = true :=
    (listening_publish t _).trans h.listening
  refine ⟨?_, ?_, ?_, ?_⟩ <;> rw [connection_tell]
  · exact hlistening
  · exact (phase_publish t _).trans h.phase
  · rw [state_publish]
    rfl
  · rw [word_tell hlistening, word_publish h.listening (by simp [hs]), state_publish,
      List.append_assoc]
    exact (hs ▸ h.word : Underway .joining (t.word past)).answer answer

/-- A frame that passes is told. -/
theorem tellFrame (h : t.Serving past link) {frame : InboundFrame}
    (hpasses : frame.passes t.connection.state = true) :
    ((t.complete frame).tell (.frame frame)).Serving past link := by
  obtain ⟨code, text, rfl⟩ | ⟨answer, rfl, hs⟩ | ⟨hanswer, hs⟩ :=
    InboundFrame.passes_cases hpasses
  · exact h.tell (h.word.error h.online code text)
  · exact h.tellAnswer hs answer
  · rw [complete, hanswer]
    exact h.tell (hs ▸ (hs ▸ h.word : Underway .joined (t.word past)).command hanswer)

/-- What is stored is of no concern. -/
theorem stored (h : t.Serving past link) (rest : List (Nat × LookupAnswer)) (fresh : Addresses) :
    ((t.answered rest).store fresh).Serving past link :=
  ⟨h.listening, h.phase, h.online, h.word⟩

theorem served (h : t.Serving past link) {input : RelayInput} {t' : Turn}
    (hserved : Served t link input t') : t'.Fits past := by
  cases hserved with
  | stays => exact h.fits
  | arrives => exact (h.update rfl rfl rfl).fits
  | takes => exact (carryOut (h.update rfl rfl rfl) _).fits
  | acknowledges => exact h.acknowledge.fits
  | tells _ hpasses _ => exact (h.tellFrame hpasses).fits
  | unheard _ _ hdeaf =>
    rw [h.listening] at hdeaf
    cases hdeaf
  | ignores => exact (h.update rfl rfl rfl).fits
  | learns => exact (h.stored _ _).fits
  | replaces =>
    exact (h.stored _ _).endLink (show LinkEnd.staleAddress = .closed → _ from nofun)
  | loses => exact h.endLink (by simp)
  | hangsUp hcancelled => exact h.endLink fun _ => hcancelled

end Serving

/-! ## Steps and runs -/

theorem Fits.step (h : t.Fits past) (input : RelayInput) : (t.step input).Fits past := by
  have hl := h.listening
  have hword := h.word
  have hmove := move_step t input
  generalize t.step input = t' at hmove
  cases hmove with
  | stays => exact h
  | arrives => exact ⟨hl, hword⟩
  | serves hphase hserved =>
    rw [hphase] at hword
    exact Serving.served ⟨hl, hphase, hword.1, hword.2⟩ hserved
  | begins hbegins =>
    rcases hbegins with ⟨hphase, -⟩ | ⟨hphase, -⟩ <;> rw [hphase] at hword
    · obtain ⟨hs, hnone⟩ := hword
      exact fits_attempt hl (by simp [hs]) (hnone.symm ▸ .none)
    · obtain ⟨hs, hdone, -⟩ := hword
      exact fits_attempt hl (by simp [hs]) hdone
  | @resolves addresses hphase _ =>
    rw [hphase] at hword
    exact fits_dial (t := t.store addresses) hl hword.1 hword.2 addresses none
  | opens hphase socket =>
    rw [hphase] at hword
    exact fits_establish hl hword.1 hword.2 _
  | fails hphase _ =>
    rcases hphase with hphase | hphase <;> rw [hphase] at hword
    · exact fits_fail hl (hword.1.symm ▸ hword.2)
    · exact fits_fail hl (hword.1.symm ▸ hword.2)
  | forgets hphase _ =>
    rw [hphase] at hword
    exact fits_fail (t := { t with cache := t.cache.remove t.connection.host }) hl
      (hword.1.symm ▸ hword.2)
  | discards => exact ⟨hl, hword⟩
  | closes hphase hcancelled =>
    -- the owner may close the connection in an attempt and between attempts
    rcases hphase with hphase | ⟨cached, hphase⟩ | hphase <;> rw [hphase] at hword
    · exact fits_finish hl (hword.2.close hcancelled _)
    · exact fits_finish hl (hword.2.close hcancelled _)
    · exact fits_finish hl (hword.2.1.close hcancelled _)
  | surrenders hphase _ =>
    rw [hphase] at hword
    exact fits_giveUp hl hword.2.1 hword.2.2 _

end Turn

namespace Connection

variable {c : Connection} {news : List RelayNews}

/-- What was told so far is in order, and while somebody listens it is where the phase says. -/
structure Follows (c : Connection) (news : List RelayNews) : Prop where
  /-- It is in order. -/
  ordered : Ordered (c.cancelled = true) news
  /-- It is where the phase says. -/
  fits : c.listening = true → c.phase.Fits (c.cancelled = true) c.state news

/-- What the owner does has no news; that it closes the connection matters to those that
follow. -/
theorem Follows.congr (h : c.Follows news) {c' : Connection}
    (hlistening : c'.listening = true → c.listening = true) (hphase : c'.phase = c.phase)
    (hstate : c'.state = c.state) (hcancelled : c.cancelled = true → c'.cancelled = true) :
    c'.Follows news where
  ordered := h.ordered.mono hcancelled
  fits hl := by
    rw [hphase, hstate]
    exact (h.fits (hlistening hl)).mono hcancelled

theorem Follows.input (h : c.Follows news) (cache : DnsCache) (input : RelayInput) :
    (Turn.step ⟨c, cache, []⟩ input).connection.Follows
      (news ++ (Turn.step ⟨c, cache, []⟩ input).news) := by
  have hsteady := steady_input c cache input
  by_cases hl : c.listening = true
  · have hfits : Turn.Fits news ⟨c, cache, []⟩ :=
      ⟨hl, by simpa [Turn.word, Turn.news] using h.fits hl⟩
    have hafter := (hfits.step input).word
    exact ⟨hafter.ordered, fun _ => hafter⟩
  · rw [hsteady.news (by simpa using hl), List.append_nil]
    refine ⟨?_, fun hl' => absurd (hsteady.listening.symm.trans hl') hl⟩
    rw [hsteady.cancelled]
    exact h.ordered

theorem Follows.take (h : c.Follows news) (step : RelayStep) :
    (c.take step).1.Follows (news ++ (c.take step).2) := by
  cases step with
  | input cache input => exact h.input cache input
  | post request =>
    rw [Connection.take, List.append_nil, post]
    cases request.check c.state with
    | error e => exact h
    | ok _ => exact h.congr (fun hl => hl) rfl rfl fun hc => hc
  | abortRetries =>
    rw [Connection.take, List.append_nil]
    exact h.congr (fun hl => hl) rfl rfl fun hc => hc
  | disconnect =>
    rw [Connection.take, List.append_nil]
    exact h.congr (fun hl => hl) rfl rfl fun _ => rfl
  | drop =>
    rw [Connection.take, List.append_nil]
    exact h.congr (fun hl => hl) rfl rfl fun _ => rfl
  | dropListener =>
    rw [Connection.take, List.append_nil]
    exact h.congr (fun hl => by cases hl) rfl rfl fun hc => hc
  | setNewsRoom room =>
    rw [Connection.take, List.append_nil]
    exact h.congr (fun hl => hl) rfl rfl fun hc => hc

theorem Follows.run (h : c.Follows news) (steps : List RelayStep) :
    (c.run steps).Follows (news ++ c.told steps) := by
  induction steps generalizing c news with
  | nil => simpa [told, Connection.run] using h
  | cons step rest ih =>
    rw [told, ← List.append_assoc]
    exact ih (h.take step)

/-- Only the owner closes a connection. -/
theorem cancelled_take (c : Connection) (step : RelayStep) :
    (c.take step).1.cancelled = (c.cancelled || step.closes) := by
  cases step with
  | input cache input => exact (steady_input c cache input).cancelled.trans (Bool.or_false _).symm
  | post request =>
    rw [Connection.take, post]
    cases request.check c.state <;> simp [Except.map, Except.toOption, RelayStep.closes]
  | abortRetries => simp [Connection.take, abortRetries, RelayStep.closes]
  | disconnect => simp [Connection.take, disconnect, RelayStep.closes]
  | drop => simp [Connection.take, drop, RelayStep.closes]
  | dropListener => simp [Connection.take, dropListener, RelayStep.closes]
  | setNewsRoom room => simp [Connection.take, setNewsRoom, RelayStep.closes]

theorem cancelled_run (c : Connection) (steps : List RelayStep) :
    (c.run steps).cancelled = (c.cancelled || steps.any RelayStep.closes) := by
  induction steps generalizing c with
  | nil => simp [Connection.run]
  | cons step rest ih =>
    refine (ih _).trans ?_
    rw [cancelled_take, List.any_cons, Bool.or_assoc]

/-- A connection that was not started has told nothing. -/
theorem follows_ofUrl {id : Nat} {url : String} {config : RelayConfig}
    (h : ofUrl id url config = .ok c) : c.Follows [] ∧ c.cancelled = false := by
  obtain ⟨host, rfl⟩ := eq_of_ofUrl h
  exact ⟨⟨Attempts.none.ordered _, fun _ => ⟨rfl, rfl⟩⟩, rfl⟩

/-- What a connection tells from its start on is in order. -/
theorem ordered_told {id : Nat} {url : String} {config : RelayConfig}
    (h : ofUrl id url config = .ok c) (steps : List RelayStep) :
    Ordered (∃ step ∈ steps, step.closes = true) (c.told steps) := by
  obtain ⟨hfollows, hopen⟩ := follows_ofUrl h
  have hordered := (hfollows.run steps).ordered
  rwa [cancelled_run, hopen, Bool.false_or, List.any_eq_true, List.nil_append] at hordered

/-- The news of every run are in order, and no command is told before the answer.  They end
without a failure only if the owner closed the connection. -/
theorem news_along_runs {id : Nat} {url : String} {config : RelayConfig}
    (h : ofUrl id url config = .ok c) (steps : List RelayStep) :
    Ordered (∃ step ∈ steps, step.closes = true) (c.told steps) ∧ Gated .new (c.told steps) := by
  have hordered := ordered_told h steps
  exact ⟨hordered, hordered.gated .new⟩

/-- The owner closes a connection while its host is looked up. -/
def closedEarly : List RelayStep :=
  [.input .empty .start, .disconnect, .input .empty .noticeCancel]

/-- A run that is cut short. -/
theorem news_closedEarly : ∃ c, ofUrl 1 "ws://10.0.0.1" .standard = .ok c ∧
    c.told closedEarly = [.stateChanged .resolving, .closed] ∧
    Ordered (∃ step ∈ closedEarly, step.closes = true) (c.told closedEarly) ∧
    Gated .new (c.told closedEarly) := by
  have htold : ((ofUrl 1 "ws://10.0.0.1" .standard).toOption.map fun c => c.told closedEarly) =
      some [.stateChanged .resolving, .closed] := by decide +kernel
  cases h : ofUrl 1 "ws://10.0.0.1" .standard with
  | error e =>
    rw [h] at htold
    cases htold
  | ok c =>
    rw [h] at htold
    exact ⟨c, rfl, Option.some.inj htold, news_along_runs h closedEarly⟩

end Connection
end GroupCall
