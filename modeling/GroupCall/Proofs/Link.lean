/-
# What becomes of a participation when the link changes

The news of a connection wait for the call while the connection goes on, so the published
state that a request to join meets may be another one than the news tell.  Where the socket is
still open the request is accepted, unless the connection ends just then, and we wait to be let
in.  Where it was lost again the request is refused, and that alone ends the participation,
although the next socket is on its way.  No other news of a socket ends one: its loss takes us back to waiting.
-/
import GroupCall.Proofs.Lifecycle

namespace GroupCall

/-- Our connection takes a request to join: its socket is open and was not used for one, and it
does not end just then. -/
structure Surroundings.TakesJoin (w : Surroundings) : Prop where
  /-- The socket is open. -/
  connected : w.relay = .connected
  /-- The connection goes on. -/
  lasting : w.relayEnds = false

/-- Whether news end our participation for what they say. -/
def RelayNews.endsParticipation : RelayNews → Bool
  | .failed _ => true
  | .closed => true
  | .frame (.error _ _) => true
  | .frame (.command (.bye _)) => true
  | _ => false

namespace Call

variable {c c' : Call} {w : Surroundings} {relay count : Nat}

/-- Whether a step ends our participation for what it is: we leave, or our connection fails or is
over, or the relay says so. -/
def isDismissedBy (c : Call) : CallStep → Bool
  | .request .hangup => true
  | .request .destroy => true
  | .event event => decide (c.relay = some event.connection) && event.news.endsParticipation
  | _ => false

/-! ## Slots and offers -/

/-- Slots come with an offer. -/
def Offering (c : Call) : Prop := c.slots.isSome = true → c.offer.isSome = true

theorem Offering.stays (h : Offering c) (hstays : Stays c c') : Offering c' := by
  intro hslots
  rw [hstays.installed] at hslots
  rw [hstays.offer]
  exact h hslots

theorem offering_of_left (h : Left c c') : Offering c' := by
  intro hslots
  rw [h.rest] at hslots
  cases hslots

theorem Offering.entry (h : Offering c) (hentry : Entry c c') : Offering c' := by
  cases hentry with
  | seeking av => exact h
  | linked av url relay => exact h
  | refused av hsought hleft => exact offering_of_left hleft

theorem Offering.change (h : Offering c) {step : CallStep} (hchange : Change c w step c') :
    Offering c' := by
  cases hchange with
  | aside haside => exact h.stays haside.stays
  | routine _ hroutine => exact h.stays hroutine.toWithin.stays
  | up _ hup => exact fun _ => hup.offered
  | lost _ hlost =>
    intro hslots
    rw [hlost.installed] at hslots
    rw [hlost.rest]
    exact h hslots
  | @answered e _ _ hwithin =>
    have hin : Offering e := h.stays hwithin.stays
    have hlet : Offering e.letIn := hin
    exact hlet.stays (stays_rotateOrReport _ w)
  | came _ _ hcame => exact h.stays (hcame.toWithin.stays.trans (stays_greetOrReport _ w _))
  | went cid _ _ =>
    have hthinned := (Thinned.removeSession c cid).within.stays
    exact h.stays (hthinned.trans (stays_rotateOrReport _ w))
  | rotated _ => exact h.stays (stays_rotateKey c w)
  | left _ hleft => exact offering_of_left hleft
  | destroyed _ _ => exact h
  | @leftDestroyed d _ hleft =>
    have hd : Offering d := offering_of_left hleft
    exact hd
  | cancelled => exact h

theorem Offering.take (h : Offering c) (hsettled : c.state ≠ .terminatingParticipation)
    (w : Surroundings) (step : CallStep) : Offering (c.take w step) := by
  by_cases haccepts : c.accepts step = true
  · exact h.entry (entry_take haccepts w).2
  · exact h.change (change_take hsettled (by simpa using haccepts) w)

theorem Offering.run (h : Offering c) (hlife : Lifecycle c count)
    (steps : List (Surroundings × CallStep)) : Offering (c.run steps) := by
  induction steps generalizing c count with
  | nil => exact h
  | cons step rest ih =>
    exact ih (h.take hlife.settled step.1 step.2) (hlife.take step.1 step.2)

/-- Media that are set up are offered. -/
theorem Offering.ensureMedia (h : Offering c) (hmedia : (c.ensureMedia w).2 = .ok ()) :
    ∃ slots offer engine, (c.ensureMedia w).1 =
      { c with slots := some slots, offer := some offer, engine := engine } := by
  obtain ⟨engine, heq, hinstalled, -⟩ | ⟨slots, offer, engine, -, heq⟩ := ensureMedia_cases c w
  · obtain ⟨slots, hslots⟩ := Option.isSome_iff_exists.1 (hinstalled hmedia)
    obtain ⟨offer, hoffer⟩ := Option.isSome_iff_exists.1 (h (hinstalled hmedia))
    refine ⟨slots, offer, engine, ?_⟩
    rw [heq, ← hslots, ← hoffer]
  · exact ⟨slots, offer, engine, heq⟩

/-! ## A socket opens -/

/-- A request to join is accepted on a socket that we have not used for one. -/
theorem check_join_eq_ok_iff {state : RelayState} {command : OutboundCommand} :
    (RelayRequest.join command).check state = .ok () ↔ state = .connected := by
  cases state <;> simp [RelayRequest.check]

theorem answer_join_eq_ok_iff {command : OutboundCommand} :
    w.answer (.join command) = .ok () ↔ w.TakesJoin := by
  rw [Surroundings.answer_eq_ok_iff, check_join_eq_ok_iff]
  exact ⟨fun h => ⟨h.1, h.2⟩, fun h => ⟨h.connected, h.lasting⟩⟩

theorem sendJoin_of_takesJoin (hs : c.state = .connecting) (hrelay : c.relay = some relay)
    {sdp : Sdp} {ivs : SendIvs} (hoffer : c.offer = some (sdp, ivs)) (htakes : w.TakesJoin) :
    c.sendJoin w = ({ c.post relay (c.joinRequest sdp ivs) with state := .joining }.tell
      (.stateChanged .joining), .ok ()) := by
  have haccepted : w.answer (c.joinRequest sdp ivs) = .ok () := answer_join_eq_ok_iff.2 htakes
  rw [sendJoin_of_offer hoffer hrelay, haccepted]
  exact setState_joining hs relay _

theorem sendJoin_of_not_takesJoin (hrelay : c.relay = some relay) {sdp : Sdp} {ivs : SendIvs}
    (hoffer : c.offer = some (sdp, ivs)) (htakes : ¬ w.TakesJoin) :
    ∃ e, c.sendJoin w = (c, .error (.connection e)) := by
  rw [sendJoin_of_offer hoffer hrelay]
  cases hanswer : w.answer (c.joinRequest sdp ivs) with
  | ok _ => exact absurd (answer_join_eq_ok_iff.1 hanswer) htakes
  | error e => exact ⟨e, rfl⟩

theorem linkUp_of_ensureMedia (hs : c.state = .connecting)
    (hmedia : (c.ensureMedia w).2 = .ok ()) : c.linkUp w = (c.ensureMedia w).1.sendJoin w := by
  rw [linkUp, if_pos hs]
  generalize c.ensureMedia w = outcome at hmedia
  obtain ⟨d, result⟩ := outcome
  subst hmedia
  rfl

theorem linkUp_of_not_ensureMedia (hs : c.state = .connecting) {e : CallError}
    (hmedia : (c.ensureMedia w).2 = .error e) : (c.linkUp w).2 = .error e := by
  rw [linkUp, if_pos hs]
  generalize c.ensureMedia w = outcome at hmedia
  obtain ⟨d, result⟩ := outcome
  subst hmedia
  rfl

/-- The last thing that is told of a participation is why it ended. -/
theorem getLast?_journal_leave (hs : c.state.isParticipating = true) (code : TermCode) :
    (c.leave code).journal.getLast? = some (.told (.terminated code)) := by
  have hmove : c.state.canTransition .terminatingParticipation = true := by
    cases hstate : c.state <;> simp_all [CallState.isParticipating, CallState.canTransition]
  have hleaving : c.leaving.state = .terminatingParticipation := by
    rw [leaving, if_pos hs, moveTo_eq hmove]
    rfl
  rw [leave_eq, if_pos hleaving, quit]
  simp [tell, record]

/-- The connection takes the request: we have asked to be let in, and did nothing else. -/
theorem linkUp_accepted (h : Offering c) (hs : c.state = .connecting)
    (hrelay : c.relay = some relay) (hmedia : (c.ensureMedia w).2 = .ok ())
    (htakes : w.TakesJoin) :
    Up c (c.onNews w (.stateChanged .connected)) ∧
      ∃ sdp ivs, (c.onNews w (.stateChanged .connected)).journal = c.journal ++
        [.posted relay (c.joinRequest sdp ivs), .told (.stateChanged .joining)] := by
  obtain ⟨slots, ⟨sdp, ivs⟩, engine, hensured⟩ := h.ensureMedia hmedia
  have hsent := sendJoin_of_takesJoin (c := { c with
    slots := some slots, offer := some (sdp, ivs), engine := engine }) hs hrelay rfl htakes
  have hlink := linkUp_of_ensureMedia hs hmedia
  rw [hensured, hsent] at hlink
  rw [onNews, hlink]
  have hjournal : c.journal ++ [.posted relay (c.joinRequest sdp ivs)] ++
      [.told (.stateChanged .joining)] = c.journal ++
        [.posted relay (c.joinRequest sdp ivs), .told (.stateChanged .joining)] := by simp
  have hposted : Plain c (c.post relay (c.joinRequest sdp ivs)) := Plain.of_deed rfl rfl
  refine ⟨⟨rfl, ?_, rfl, rfl, ?_⟩, sdp, ivs, hjournal⟩
  · rw [hrelay]
    rfl
  · exact hposted.trans (Plain.of_deed (d := .told (.stateChanged .joining)) rfl rfl)

/-- The connection does not take it: the refused request is reported and ends the participation. -/
theorem linkUp_refused (h : Offering c) (hs : c.state = .connecting)
    (hrelay : c.relay = some relay) (hmedia : (c.ensureMedia w).2 = .ok ())
    (htakes : ¬ w.TakesJoin) :
    Left c (c.onNews w (.stateChanged .connected)) ∧
      (c.onNews w (.stateChanged .connected)).journal.getLast? =
        some (.told (.terminated .signalingFailure)) ∧
      ∃ e, (c.onNews w (.stateChanged .connected)) =
        ((c.ensureMedia w).1.report (.connection e)).leave .signalingFailure := by
  obtain ⟨slots, ⟨sdp, ivs⟩, engine, hensured⟩ := h.ensureMedia hmedia
  obtain ⟨e, hrefused⟩ := sendJoin_of_not_takesJoin (c := { c with
    slots := some slots, offer := some (sdp, ivs), engine := engine }) hrelay rfl htakes
  have hlink := linkUp_of_ensureMedia hs hmedia
  rw [hensured, hrefused] at hlink
  rw [onNews, hlink, hensured]
  have hin : ({ c with slots := some slots, offer := some (sdp, ivs), engine := engine }.report
      (.connection e)).state.isParticipating = true :=
    (congrArg CallState.isParticipating hs).trans rfl
  have hplain : Plain c ({ c with
      slots := some slots, offer := some (sdp, ivs), engine := engine }.report (.connection e)) :=
    Plain.of_deed (d := .told (.failed (.connection e))) rfl rfl
  refine ⟨Left.before rfl hplain (left_leave hin _), getLast?_journal_leave hin _, e, rfl⟩

/-! ## Whether a participation ends -/

theorem isParticipating_leave (hs : c.state.isParticipating = true) (code : TermCode) :
    (c.leave code).state.isParticipating = false := by
  rw [(left_leave hs code).rest]
  rfl

theorem isParticipating_destroy (hs : c.state.isParticipating = true) :
    c.destroy.state.isParticipating = false := by
  have hleft := left_leave hs .userHangup
  have hmove : (c.leave .userHangup).state.canTransition .destroyed = true := by
    rw [hleft.rest]
    rfl
  have halive : ¬ c.state.isDestroyed = true := by
    cases hstate : c.state <;> simp_all [CallState.isParticipating, CallState.isDestroyed]
  rw [destroy_eq, if_neg halive, departed, if_pos hs, setState_of_canTransition hmove]
  rfl

/-- Whatever dismisses us ends our participation. -/
theorem isParticipating_of_isDismissedBy (hs : c.state.isParticipating = true) {step : CallStep}
    (h : c.isDismissedBy step = true) (w : Surroundings) :
    (c.take w step).state.isParticipating = false := by
  cases step with
  | request request =>
    cases request with
    | hangup =>
      have hhangup : (c.perform w .hangup).1 = c.leave .userHangup := by
        rw [perform, hangup, if_pos hs]
        rfl
      rw [Call.take, hhangup]
      exact isParticipating_leave hs _
    | destroy => exact isParticipating_destroy hs
    | _ => cases h
  | event event =>
    obtain ⟨connection, news⟩ := event
    rw [isDismissedBy, Bool.and_eq_true, decide_eq_true_eq] at h
    obtain ⟨hrelay, hnews⟩ := h
    rw [Call.take, onRelayEvent, if_pos hrelay]
    dsimp only at hnews ⊢
    cases news with
    | stateChanged state => cases hnews
    | failed error => exact isParticipating_leave (c := c.report (.connection error)) hs _
    | closed => exact isParticipating_leave hs _
    | frame frame =>
      cases frame with
      | error code text =>
        exact isParticipating_leave (c := (c.tell (.relayError code (text.getD ""))).report
          (.relay code (text.getD ""))) hs _
      | command command =>
        cases command with
        | bye reason => exact isParticipating_leave hs _
        | _ => cases hnews
  | cancel => cases h
  | frame place bytes => cases h

/-- No other request ends it. -/
theorem state_perform (hs : c.state.isParticipating = true) {request : CallRequest}
    (h : c.isDismissedBy (.request request) = false) (w : Surroundings) :
    (c.perform w request).1.state = c.state := by
  by_cases hrelay : request.isForRelay = true
  · rcases asked_perform c w hrelay with heq | ⟨-, hroutine⟩
    · rw [heq]
    · exact hroutine.toWithin.stays.state
  · cases request with
    | join av =>
      have hrefused : ¬ c.state.canJoin = true := by
        cases hstate : c.state <;> simp_all [CallState.isParticipating, CallState.canJoin]
      rw [perform, join_of_not_canJoin hrefused]
      rfl
    | abortReconnect => exact (aside_abortReconnect c).stays.state
    | updateAv av => exact (aside_updateAv c w av).stays.state
    | rotateKey => exact (stays_rotateKey c w).state
    | addParticipant user => exact (aside_addParticipant c user).stays.state
    | removeParticipant user => exact (aside_removeParticipant c user).stays.state
    | snapshot => rfl
    | hangup => cases h
    | destroy => cases h
    | _ => exact absurd rfl hrelay

/-- An answer lets us in or leaves us where we are. -/
theorem isParticipating_onAnswer (hs : c.state.isParticipating = true) (w : Surroundings)
    (answer : Answer) : (c.onAnswer w answer).1.state.isParticipating = true := by
  by_cases hjoining : c.state = .joining
  · have hremote := (Routine.setRemote c w answer.sdp).toWithin.stays.state
    obtain ⟨e, -, heq⟩ | ⟨-, heq⟩ := onAnswer_fst hjoining w answer
    · rw [heq]
      exact (congrArg CallState.isParticipating hremote).trans hs
    · obtain ⟨d, -, hseated⟩ := within_seated (c.setRemote w answer.sdp).1 answer
      rw [heq, hseated, (stays_rotateOrReport d.letIn w).state]
      rfl
  · rw [onAnswer, if_neg hjoining]
    exact hs

theorem state_onPeerJoin (c : Call) (w : Surroundings) (peer : PeerInfo) :
    (c.onPeerJoin w peer).1.state = c.state := by
  have hadded := (within_addSession c peer).stays.state
  rw [onPeerJoin, inCall]
  split
  · split <;> rename_i heq <;> rw [heq] at hadded
    · exact hadded
    · rename_i d
      have hgreeted := (stays_greetOrReport d w peer.cid).state
      rw [greetOrReport] at hgreeted
      generalize d.sendKeyTo w peer.cid = outcome at hgreeted ⊢
      obtain ⟨d', result⟩ := outcome
      cases result with
      | ok _ => exact hgreeted.trans hadded
      | error e => exact hgreeted.trans hadded
  · rfl

theorem state_onPeerLeft (c : Call) (w : Surroundings) (cid : Cid) :
    (c.onPeerLeft w cid).1.state = c.state := by
  rw [onPeerLeft, inCall]
  split
  · split
    · have hremoved := (Thinned.removeSession c cid).within.stays
      exact (hremoved.trans (stays_rotateOrReport _ w)).state
    · rfl
  · rfl

/-- No other command ends it. -/
theorem isParticipating_deliverCommand (hs : c.state.isParticipating = true) {command : Command}
    (h : RelayNews.endsParticipation (.frame (.command command)) = false) (w : Surroundings) :
    ((receiver w).deliverCommand command c).1.state.isParticipating = true := by
  by_cases hroutine : command.isRoutine = true
  · rw [(Routine.deliverCommand c w hroutine).toWithin.stays.state]
    exact hs
  · cases command with
    | answer answer => exact isParticipating_onAnswer hs w answer
    | peerJoin peer => exact (congrArg CallState.isParticipating (state_onPeerJoin c w peer)).trans hs
    | peerLeft cid => exact (congrArg CallState.isParticipating (state_onPeerLeft c w cid)).trans hs
    | bye reason => cases h
    | _ => exact absurd rfl hroutine

/-- The loss of the socket takes us back to waiting for the next one. -/
theorem state_linkLost (c : Call) : c.linkLost.state =
    if c.state = .joining ∨ c.state = .inProgress then .connecting else c.state := by
  by_cases hs : c.state = .joining ∨ c.state = .inProgress
  · rw [if_pos hs, (lost_linkLost hs).rest]
  · rw [if_neg hs, linkLost, if_neg hs]

theorem isParticipating_linkLost (hs : c.state.isParticipating = true) :
    c.linkLost.state.isParticipating = true := by
  rw [state_linkLost]
  split
  · rfl
  · exact hs

/-- A request to join fails as the socket opens, for our media or because the connection does not
take it. -/
structure FailsToJoin (c : Call) (w : Surroundings) : Prop where
  /-- We wait for the socket. -/
  waiting : c.state = .connecting
  /-- Something is missing. -/
  missing : (c.ensureMedia w).2 ≠ .ok () ∨ ¬ w.TakesJoin

/-- A socket that opens ends a participation only if a request to join fails. -/
theorem isParticipating_linkUp_iff (h : Offering c) (hs : c.state.isParticipating = true)
    (hrelay : c.relay = some relay) (w : Surroundings) :
    (c.onNews w (.stateChanged .connected)).state.isParticipating = false ↔ c.FailsToJoin w := by
  by_cases hwaiting : c.state = .connecting
  · cases hmedia : (c.ensureMedia w).2 with
    | error e =>
      have hfails : c.FailsToJoin w := ⟨hwaiting, Or.inl (by simp [hmedia])⟩
      refine iff_of_true ?_ hfails
      obtain heq | ⟨-, ⟨hok, -⟩ | ⟨e', slots, offer, engine, heq⟩⟩ := linkUp_cases c w
      · have herror := linkUp_of_not_ensureMedia hwaiting hmedia
        rw [heq] at herror
        cases herror
      · have herror := linkUp_of_not_ensureMedia hwaiting hmedia
        rw [hok] at herror
        cases herror
      · rw [onNews, heq]
        exact isParticipating_leave (c := { c with
          slots := slots, offer := offer, engine := engine }.report e') hs _
    | ok _ =>
      by_cases htakes : w.TakesJoin
      · have hup := (linkUp_accepted h hwaiting hrelay hmedia htakes).1
        refine iff_of_false ?_ fun hfails => ?_
        · rw [hup.rest]
          simp [CallState.isParticipating]
        · rcases hfails.missing with hfailed | hclosed
          · exact hfailed hmedia
          · exact hclosed htakes
      · have hleft := (linkUp_refused h hwaiting hrelay hmedia htakes).1
        refine iff_of_true ?_ ⟨hwaiting, Or.inr htakes⟩
        rw [hleft.rest]
        rfl
  · refine iff_of_false ?_ fun hfails => hwaiting hfails.waiting
    rw [onNews, linkUp, if_neg hwaiting]
    simp [hs]

/-- A participation ends only if we are dismissed, or if a request to join fails. -/
theorem isParticipating_take_iff (h : Offering c) (hs : c.state.isParticipating = true)
    (w : Surroundings) (step : CallStep) :
    (c.take w step).state.isParticipating = false ↔
      c.isDismissedBy step = true ∨ c.FailsToJoin w ∧
        ∃ relay, c.relay = some relay ∧ step = .event ⟨relay, .stateChanged .connected⟩ := by
  by_cases hdismissed : c.isDismissedBy step = true
  · exact iff_of_true (isParticipating_of_isDismissedBy hs hdismissed w) (Or.inl hdismissed)
  · simp only [hdismissed, Bool.false_eq_true, false_or]
    -- nothing but the news that a socket is open can end it now
    have hgoesOn : ∀ c' : Call, c'.state.isParticipating = true → (∀ relay,
        step ≠ .event ⟨relay, .stateChanged .connected⟩) →
        (c'.state.isParticipating = false ↔ c.FailsToJoin w ∧
          ∃ relay, c.relay = some relay ∧ step = .event ⟨relay, .stateChanged .connected⟩) := by
      intro c' hs' hother
      refine iff_of_false (by simp [hs']) ?_
      rintro ⟨-, relay, -, hstep⟩
      exact hother relay hstep
    cases step with
    | request request =>
      have hstate := state_perform hs (by simpa using hdismissed) w
      exact hgoesOn _ ((congrArg CallState.isParticipating hstate).trans hs) (by simp)
    | cancel => exact hgoesOn c.cancel hs (by simp)
    | frame place bytes =>
      have hstate := (aside_handleFrame c place bytes).stays.state
      exact hgoesOn _ ((congrArg CallState.isParticipating hstate).trans hs) (by simp)
    | event event =>
      obtain ⟨connection, news⟩ := event
      rw [Call.take, onRelayEvent]
      by_cases hrelay : c.relay = some connection
      · rw [if_pos hrelay]
        have hnews : news.endsParticipation = false := by
          simpa [isDismissedBy, hrelay] using hdismissed
        cases news with
        | failed error => cases hnews
        | closed => cases hnews
        | frame frame =>
          cases frame with
          | error code text => cases hnews
          | command command =>
            exact hgoesOn _ (isParticipating_deliverCommand hs hnews w) (by simp)
        | stateChanged state =>
          cases state with
          | connected =>
            rw [isParticipating_linkUp_iff h hs hrelay w]
            constructor
            · exact fun hfails => ⟨hfails, connection, hrelay, rfl⟩
            · exact fun hfails => hfails.1
          | disconnected => exact hgoesOn _ (isParticipating_linkLost hs) (by simp)
          | _ => exact hgoesOn c hs (by simp)
      · rw [if_neg hrelay]
        refine iff_of_false (by simp [hs]) ?_
        rintro ⟨-, relay, hsome, hstep⟩
        cases hstep
        exact hrelay hsome

/-- In every run, a call that waits for a socket and has its media asks to be let in as one
opens, if the socket is still open by then and the connection goes on, and only then.  The loss of a socket takes it back
to waiting.  A participation ends in no other way than by being dismissed, or by a request to
join that fails. -/
theorem link_along_runs (id : CallId) (chat : ChatId) (us : UserId) (config : CallConfig)
    (secret : IdentitySecret) (callKey : Option MediaKey)
    (steps : List (Surroundings × CallStep)) :
    let c := (new id chat us config secret callKey).run steps
    (∀ w relay, c.state = .connecting → c.relay = some relay → (c.ensureMedia w).2 = .ok () →
      (w.TakesJoin →
        Up c (c.take w (.event ⟨relay, .stateChanged .connected⟩)) ∧
        ∃ sdp ivs, (c.take w (.event ⟨relay, .stateChanged .connected⟩)).journal =
          c.journal ++ [.posted relay (c.joinRequest sdp ivs), .told (.stateChanged .joining)]) ∧
      (¬ w.TakesJoin →
        Left c (c.take w (.event ⟨relay, .stateChanged .connected⟩)) ∧
        (c.take w (.event ⟨relay, .stateChanged .connected⟩)).journal.getLast? =
          some (.told (.terminated .signalingFailure)))) ∧
    (∀ w relay, c.relay = some relay → c.state = .joining ∨ c.state = .inProgress →
      Lost c (c.take w (.event ⟨relay, .stateChanged .disconnected⟩))) ∧
    ∀ w step, c.state.isParticipating = true →
      ((c.take w step).state.isParticipating = false ↔
        c.isDismissedBy step = true ∨ c.FailsToJoin w ∧
          ∃ relay, c.relay = some relay ∧ step = .event ⟨relay, .stateChanged .connected⟩) := by
  intro c
  have hnew : Offering (new id chat us config secret callKey) := fun hslots => by cases hslots
  have hoffering : Offering c :=
    hnew.run (lifecycle_new id chat us config secret callKey) steps
  refine ⟨fun w relay hs hrelay hmedia => ?_, fun w relay hrelay hs => ?_,
    fun w step hs => isParticipating_take_iff hoffering hs w step⟩
  · rw [Call.take, onRelayEvent, if_pos hrelay]
    constructor
    · exact fun htakes => linkUp_accepted hoffering hs hrelay hmedia htakes
    · intro htakes
      obtain ⟨hleft, hlast, -⟩ := linkUp_refused hoffering hs hrelay hmedia htakes
      exact ⟨hleft, hlast⟩
  · rw [Call.take, onRelayEvent, if_pos hrelay]
    exact lost_linkLost hs

/-- The socket that opened is lost again before the call learns of it: the participation ends,
though our media are set up and the connection goes on to the next socket. -/
theorem link_lost_again :
    let c := (new ⟨"call"⟩ ⟨"chat"⟩ ⟨"U0"⟩ ⟨1, 16, 1, 1, none⟩ (Vector.replicate 32 1) none).run
      [(calm .new, .request (.join ⟨1⟩))]
    c.state = .connecting ∧ c.relay = some 1 ∧
      (c.ensureMedia (calm .disconnected)).2.toOption = some () ∧
      (c.take (calm .disconnected) (.event ⟨1, .stateChanged .connected⟩)).state =
        .clientNotParticipating := by
  decide +kernel

end Call
end GroupCall
