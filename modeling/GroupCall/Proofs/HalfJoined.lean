/-
# A call that cannot use the answer

The answer of the relay ends the joining of a connection, whatever the call makes of it.  A call
that has no use for the description in the answer reports that and waits on, but its connection
passes no other answer until the socket is lost.  So the call stays where it is, neither let in
nor away, until the socket is lost or its participation ends for another reason.
-/
import GroupCall.Proofs.Link
import GroupCall.Proofs.Relay.Order
import GroupCall.Proofs.Relay.Sockets

namespace GroupCall

namespace RelayNews

/-! ## One answer for a socket -/

/-- Whether the answer is told. -/
def isAnswer : RelayNews → Bool
  | .frame f => f.isAnswer
  | _ => false

/-- Whether the answer was told for the present socket, if `n` is told next. -/
def answered (before : Bool) (n : RelayNews) : Bool :=
  !decide (n = .stateChanged .disconnected) && (before || n.isAnswer)

/-- The answer is told at most once until the socket is lost. -/
def Once : Bool → List RelayNews → Prop
  | _, [] => True
  | before, n :: rest => (n.isAnswer = true → before = false) ∧ Once (answered before n) rest

theorem once_append (before : Bool) (first second : List RelayNews) :
    Once before (first ++ second) ↔
      Once before first ∧ Once (first.foldl answered before) second := by
  induction first generalizing before with
  | nil => simp [Once]
  | cons n rest ih => simp [Once, ih, and_assoc]

/-- What is ordinary is not the answer, and loses no socket. -/
theorem once_of_isOrdinary {news : List RelayNews} (h : ∀ n ∈ news, n.isOrdinary = true)
    (before : Bool) : Once before news ∧ news.foldl answered before = before := by
  induction news with
  | nil => exact ⟨trivial, rfl⟩
  | cons n rest ih =>
    obtain ⟨hn, hrest⟩ := List.forall_mem_cons.1 h
    cases n with
    | frame f =>
      have hanswer : f.isAnswer = false := by simpa [isOrdinary] using hn
      have hsame : answered before (.frame f) = before := by simp [answered, isAnswer, hanswer]
      rw [Once, List.foldl_cons, hsame]
      exact ⟨⟨by simp [isAnswer, hanswer], (ih hrest).1⟩, (ih hrest).2⟩
    | _ => cases hn

theorem once_of_isError {news : List RelayNews} (h : ∀ n ∈ news, n.isError = true)
    (before : Bool) : Once before news ∧ news.foldl answered before = before :=
  once_of_isOrdinary (fun n hn => isOrdinary_of_isError (h n hn)) before

/-- An exchange has no answer before its state says so. -/
theorem Exchange.once {state : RelayState} {exchange : List RelayNews}
    (h : Exchange state exchange) :
    Once false exchange ∧ (state ≠ .joined → exchange.foldl answered false = false) := by
  induction h with
  | connected herrors =>
    obtain ⟨honce, hsame⟩ := once_of_isError herrors false
    exact ⟨honce, fun _ => hsame⟩
  | @joining before errors _ herrors ih =>
    have hbefore := ih.2 (by simp)
    obtain ⟨honce, hsame⟩ := once_of_isError herrors false
    have hjoining : answered false (.stateChanged .joining) = false := rfl
    rw [once_append, List.foldl_append, List.foldl_cons, hbefore, Once, hjoining]
    exact ⟨⟨ih.1, by simp, honce⟩, fun _ => hsame⟩
  | @joined before after _ answer hafter ih =>
    have hbefore := ih.2 (by simp)
    obtain ⟨honce, -⟩ := once_of_isOrdinary hafter true
    rw [once_append, hbefore]
    exact ⟨⟨ih.1, by simp [isAnswer], fun _ => rfl, honce⟩, fun hne => absurd rfl hne⟩

theorem Attempt.once {attempt : List RelayNews} (h : Attempt attempt) :
    Once false attempt ∧ attempt.foldl answered false = false := by
  cases h with
  | unresolved => exact ⟨by simp [Once, isAnswer], rfl⟩
  | unopened => exact ⟨by simp [Once, isAnswer], rfl⟩
  | served h =>
    have hopened : [stateChanged .resolving, stateChanged .connecting,
        stateChanged .connected].foldl answered false = false := rfl
    rw [once_append, once_append, List.foldl_append, hopened]
    refine ⟨⟨⟨by simp [Once, isAnswer], h.once.1⟩, by simp [Once, isAnswer]⟩, ?_⟩
    simp [answered]

theorem Attempts.once {news : List RelayNews} (h : Attempts news) :
    Once false news ∧ news.foldl answered false = false := by
  induction h with
  | none => exact ⟨trivial, rfl⟩
  | more _ hlast ih =>
    rw [once_append, List.foldl_append, ih.2]
    exact ⟨⟨ih.1, hlast.once.1⟩, hlast.once.2⟩

/-- In every order of news the answer is told once for a socket. -/
theorem Ordered.once {closed : Prop} {news : List RelayNews} (h : Ordered closed news) :
    Once false news := by
  obtain ⟨begun, whole, ending, rfl, hwhole, ⟨rest, rfl⟩, hending⟩ := h
  refine (once_append _ _ _).2 ⟨((once_append _ _ _).1 hwhole.once.1).1, ?_⟩
  cases hending with
  | none => trivial
  | failed error room _ _ => cases room <;> simp [farewell, Once, isAnswer]
  | closed _ => simp [Once, isAnswer]

/-- After the answer there is no other one before the loss of the socket. -/
theorem Once.not_isAnswer {news : List RelayNews} (h : Once true news)
    (hkept : ∀ n ∈ news, n ≠ .stateChanged .disconnected) : ∀ n ∈ news, n.isAnswer = false := by
  induction news with
  | nil => exact List.forall_mem_nil _
  | cons n rest ih =>
    obtain ⟨hn, hrest⟩ := List.forall_mem_cons.1 hkept
    obtain ⟨hanswer, honce⟩ := h
    have hsame : answered true n = true := by simp [answered, hn]
    refine List.forall_mem_cons.2 ⟨?_, ih (hsame ▸ honce) hrest⟩
    by_contra hne
    cases hanswer (by simpa using hne)

end RelayNews

/-- The news that a step brings from a connection. -/
def CallStep.news? (relay : Nat) : CallStep → Option RelayNews
  | .event e => if e.connection = relay then some e.news else none
  | _ => none

/-- Whether a step ends a participation on a connection, or takes its socket away. -/
def CallStep.frees (relay : Nat) : CallStep → Bool
  | .request .hangup => true
  | .request .destroy => true
  | .event e => decide (e.connection = relay) &&
      (e.news.endsParticipation || decide (e.news = .stateChanged .disconnected))
  | _ => false

/-- The media engine takes the description in an answer. -/
structure Surroundings.CanUse (w : Surroundings) (answer : Answer) : Prop where
  /-- It can be written out. -/
  text : ∃ text, answer.sdp.decompress = .ok text
  /-- The engine does not refuse it. -/
  remote : w.faults.remote = none

namespace Call

variable {c : Call} {w : Surroundings} {relay : Nat}

/-- The news that are taken from a connection in a run. -/
def heard (relay : Nat) (steps : List (Surroundings × CallStep)) : List RelayNews :=
  steps.filterMap fun step => step.2.news? relay

/-! ## The answer -/

theorem setRemote_eq_ok {answer : Answer} (h : w.CanUse answer) :
    (c.setRemote w answer.sdp).2 = .ok () := by
  obtain ⟨text, htext⟩ := h.text
  simp only [setRemote, htext, MediaEngine.setRemote, h.remote]

/-- A description that is of no use changes nothing. -/
theorem setRemote_eq_error {answer : Answer} (h : ¬ w.CanUse answer) :
    ∃ e, c.setRemote w answer.sdp = (c, .error e) := by
  cases htext : answer.sdp.decompress with
  | error e =>
    refine ⟨.sdp e, ?_⟩
    simp only [setRemote, htext]
  | ok text =>
    cases hremote : w.faults.remote with
    | some reason =>
      refine ⟨.media reason, ?_⟩
      simp only [setRemote, htext, MediaEngine.setRemote, hremote]
    | none => exact absurd ⟨⟨text, htext⟩, hremote⟩ h

/-- The call takes the answer of its connection while it is joining. -/
theorem take_answer (hrelay : c.relay = some relay) (w : Surroundings) (answer : Answer) :
    c.take w (.event ⟨relay, .frame (.command (.answer answer))⟩) = (c.onAnswer w answer).1 := by
  rw [Call.take, onRelayEvent, if_pos hrelay]
  rfl

theorem state_onAnswer_of_canUse (hs : c.state = .joining) {answer : Answer}
    (h : w.CanUse answer) : (c.onAnswer w answer).1.state = .inProgress := by
  obtain ⟨e, herror, -⟩ | ⟨-, heq⟩ := onAnswer_fst hs w answer
  · rw [setRemote_eq_ok h] at herror
    cases herror
  · obtain ⟨d, -, hseated⟩ := within_seated (c.setRemote w answer.sdp).1 answer
    rw [heq, hseated, (stays_rotateOrReport d.letIn w).state]
    rfl

/-- An answer that is of no use is reported, and nothing else happens. -/
theorem onAnswer_of_not_canUse (hs : c.state = .joining) {answer : Answer}
    (h : ¬ w.CanUse answer) : ∃ e, (c.onAnswer w answer).1 = c.report e := by
  obtain ⟨e, herror⟩ := setRemote_eq_error (c := c) h
  obtain ⟨e', -, heq⟩ | ⟨hok, -⟩ := onAnswer_fst hs w answer
  · refine ⟨e', ?_⟩
    rw [heq, herror]
  · rw [herror] at hok
    cases hok

/-! ## Waiting on -/

/-- Of the commands only the answer and the end of the call are of concern. -/
theorem state_deliverCommand {command : Command}
    (hanswer : RelayNews.isAnswer (.frame (.command command)) = false)
    (hends : RelayNews.endsParticipation (.frame (.command command)) = false) (w : Surroundings) :
    ((receiver w).deliverCommand command c).1.state = c.state := by
  by_cases hroutine : command.isRoutine = true
  · exact (Routine.deliverCommand c w hroutine).toWithin.stays.state
  · cases command with
    | answer answer => cases hanswer
    | peerJoin peer => exact state_onPeerJoin c w peer
    | peerLeft cid => exact state_onPeerLeft c w cid
    | bye reason => cases hends
    | _ => exact absurd rfl hroutine

/-- Whoever is joining stays so, if the participation goes on, the socket is not lost and no
answer comes. -/
theorem state_take_of_joining (hs : c.state = .joining) (hrelay : c.relay = some relay)
    {step : CallStep} (hfrees : step.frees relay = false)
    (hanswer : ∀ n ∈ step.news? relay, n.isAnswer = false) (w : Surroundings) :
    (c.take w step).state = .joining := by
  have hin : c.state.isParticipating = true := by rw [hs]; rfl
  cases step with
  | request request =>
    have hkept : c.isDismissedBy (.request request) = false := by
      cases request <;> first | rfl | cases hfrees
    exact (state_perform hin hkept w).trans hs
  | cancel => exact hs
  | frame place bytes => exact (aside_handleFrame c place bytes).stays.state.trans hs
  | event event =>
    obtain ⟨connection, news⟩ := event
    rw [Call.take, onRelayEvent]
    by_cases hours : c.relay = some connection
    · obtain rfl : relay = connection := Option.some.inj (hrelay.symm.trans hours)
      have hnone : news.isAnswer = false := hanswer news (by simp [CallStep.news?])
      simp only [CallStep.frees, decide_true, Bool.true_and, Bool.or_eq_false_iff,
        decide_eq_false_iff_not] at hfrees
      obtain ⟨hgoesOn, hkept⟩ := hfrees
      rw [if_pos hours]
      cases news with
      | failed error => cases hgoesOn
      | closed => cases hgoesOn
      | stateChanged state =>
        cases state with
        | connected =>
          have hup : c.linkUp w = (c, .ok ()) := by rw [linkUp, if_neg (by simp [hs])]
          rw [onNews, hup]
          exact hs
        | disconnected => exact absurd rfl hkept
        | _ => exact hs
      | frame frame =>
        cases frame with
        | error code text => cases hgoesOn
        | command command => exact (state_deliverCommand hnone hgoesOn w).trans hs
    · rw [if_neg hours]
      exact hs

/-- It also keeps its connection. -/
theorem relay_take_of_joining (hs : c.state = .joining) {step : CallStep}
    (hs' : (c.take w step).state = .joining) : (c.take w step).relay = c.relay := by
  have haccepts : c.accepts step = false := by
    cases step with
    | request request =>
      cases request with
      | join av => simp [accepts, hs, CallState.canJoin]
      | _ => rfl
    | _ => rfl
  have hchange := change_take (by simp [hs]) haccepts w
  generalize c.take w step = c' at hs' hchange
  cases hchange with
  | aside haside => exact haside.stays.relay
  | routine _ hroutine => exact hroutine.toWithin.stays.relay
  | up hconnecting _ => simp [hs] at hconnecting
  | lost _ hlost =>
    rw [hlost.rest] at hs'
    cases hs'
  | @answered e _ _ _ =>
    rw [(stays_rotateOrReport e.letIn w).state] at hs'
    cases hs'
  | came hin _ _ => simp [hs] at hin
  | went cid hin _ => simp [hs] at hin
  | rotated _ => exact (stays_rotateKey c w).relay
  | left _ hleft =>
    rw [hleft.rest] at hs'
    cases hs'
  | destroyed hout _ => simp [hs, CallState.isParticipating] at hout
  | leftDestroyed _ _ => cases hs'
  | cancelled => rfl

theorem run_of_joining (hs : c.state = .joining) (hrelay : c.relay = some relay)
    (steps : List (Surroundings × CallStep)) (hfrees : ∀ step ∈ steps, step.2.frees relay = false)
    (hanswer : ∀ n ∈ heard relay steps, n.isAnswer = false) : (c.run steps).state = .joining := by
  induction steps generalizing c with
  | nil => exact hs
  | cons step rest ih =>
    obtain ⟨w, step⟩ := step
    obtain ⟨hstep, hrest⟩ := List.forall_mem_cons.1 hfrees
    have hfirst : ∀ n ∈ step.news? relay, n.isAnswer = false := fun n hn =>
      hanswer n (List.mem_filterMap.2 ⟨(w, step), List.mem_cons_self, hn⟩)
    have hs' := state_take_of_joining hs hrelay hstep hfirst w
    have hrelay' := (relay_take_of_joining hs hs').trans hrelay
    refine ih hs' hrelay' hrest fun n hn => hanswer n ?_
    obtain ⟨later, hlater, hn⟩ := List.mem_filterMap.1 hn
    exact List.mem_filterMap.2 ⟨later, List.mem_cons_of_mem _ hlater, hn⟩

/-- A step that frees nobody does not take the socket away. -/
theorem ne_disconnected_of_frees {step : CallStep} (h : step.frees relay = false) :
    ∀ n ∈ step.news? relay, n ≠ .stateChanged .disconnected := by
  cases step with
  | event event =>
    intro n hn
    rw [CallStep.news?] at hn
    split at hn
    · rename_i hours
      cases hn
      simp only [CallStep.frees, hours, decide_true, Bool.true_and, Bool.or_eq_false_iff,
        decide_eq_false_iff_not] at h
      exact h.2
    · cases hn
  | _ => simp [CallStep.news?]

/-- In every run, an answer lets a call in that is joining and can use it.  Any other answer is
reported, and the call is joining as before: whatever happens then, as long as its participation
is not ended and its connection tells no loss of the socket, it remains so, for the connection
passes no other answer. -/
theorem answer_along_runs (id : CallId) (chat : ChatId) (us : UserId) (config : CallConfig)
    (secret : IdentitySecret) (callKey : Option MediaKey)
    (steps : List (Surroundings × CallStep)) (w : Surroundings) (answer : Answer) (relay : Nat)
    (hs : ((new id chat us config secret callKey).run steps).state = .joining)
    (hrelay : ((new id chat us config secret callKey).run steps).relay = some relay) :
    let c := (new id chat us config secret callKey).run steps
    let step := CallStep.event ⟨relay, .frame (.command (.answer answer))⟩
    (w.CanUse answer → (c.take w step).state = .inProgress) ∧
    (¬ w.CanUse answer → (c.take w step).state = .joining ∧ (∃ e, c.take w step = c.report e) ∧
      ∀ (url : String) (settings : RelayConfig) (k : Connection) (inputs : List RelayStep)
        (more : List (Surroundings × CallStep)), Connection.ofUrl relay url settings = .ok k →
        heard relay (steps ++ (w, step) :: more) <+: k.told inputs →
        (∀ later ∈ more, later.2.frees relay = false) →
          ((c.take w step).run more).state = .joining) := by
  intro c step
  have htake : c.take w step = (c.onAnswer w answer).1 := take_answer hrelay w answer
  refine ⟨fun huse => ?_, fun huse => ?_⟩
  · rw [htake]
    exact state_onAnswer_of_canUse hs huse
  · obtain ⟨e, hreport⟩ := onAnswer_of_not_canUse hs huse
    have hs' : (c.take w step).state = .joining := by
      rw [htake, hreport]
      exact hs
    refine ⟨hs', ⟨e, htake.trans hreport⟩, ?_⟩
    rintro url settings k inputs more hk ⟨unheard, hheard⟩ hfrees
    -- the answer is told once for a socket, so none follows
    have honce := (Connection.ordered_told hk inputs).once
    have hsplit : heard relay (steps ++ (w, step) :: more) =
        heard relay steps ++ (.frame (.command (.answer answer)) :: heard relay more) := by
      simp [heard, CallStep.news?, step]
    rw [← hheard, RelayNews.once_append, hsplit, RelayNews.once_append] at honce
    have hafter : RelayNews.Once true (heard relay more) := by
      obtain ⟨⟨-, hanswer⟩, -⟩ := honce
      simpa [RelayNews.Once, RelayNews.answered, RelayNews.isAnswer, InboundFrame.isAnswer]
        using hanswer.2
    have hrelay' := (relay_take_of_joining hs hs').trans hrelay
    refine run_of_joining hs' hrelay' more hfrees (hafter.not_isAnswer fun n hn => ?_)
    obtain ⟨later, hlater, hn⟩ := List.mem_filterMap.1 hn
    exact ne_disconnected_of_frees (hfrees later hlater) n hn

/-- An answer that names a video track, and has no template for one. -/
def mute : Answer :=
  ⟨1, ⟨"v=0\r\n", none, none, [⟨.video, 0, .sendRecv, none, none, [], []⟩]⟩, 0, [], .empty,
    .empty, []⟩

/-- The same answer as the relay sends it. -/
def muteText : String :=
  "\x7b\"a\":\"ANSWER\",\"cid\":1,\"t\":0,\"sdp\":\x7b\"cmn\":\"v=0\\r\\n\",\"tracks\":[\x7b" ++
    "\"t\":\"v\",\"mid\":0\x7d]\x7d,\"peers\":[],\"speakers\":\x7b\x7d,\"vthumbs\":\x7b\x7d,\"mods\":[]\x7d"

/-- The connection is answered, and answered once more. -/
def answeredTwice : List RelayStep :=
  [.input .empty .start, .input .empty (.resolved 1 (.ok ⟨[⟨0x0A000001⟩], []⟩)),
    .input .empty (.dialed 1 (.ok 0)), .post Connection.joinRequest, .input .empty .takeRequest,
    .input .empty (.received 0 muteText.toUTF8.toList),
    .input .empty (.received 0 muteText.toUTF8.toList)]

/-- A call learns of its connection as far as the answer. -/
def askedIn : List (Surroundings × CallStep) :=
  [(calm .new, .request (.join ⟨1⟩)), (calm .resolving, .event ⟨1, .stateChanged .resolving⟩),
    (calm .connecting, .event ⟨1, .stateChanged .connecting⟩),
    (calm .connected, .event ⟨1, .stateChanged .connected⟩),
    (calm .joining, .event ⟨1, .stateChanged .joining⟩),
    (calm .joined, .event ⟨1, .stateChanged .joined⟩)]

theorem told_answeredTwice : ∃ k, Connection.ofUrl 1 "ws://10.0.0.1" .standard = .ok k ∧
    k.told answeredTwice = heard 1 askedIn ++ [.frame (.command (.answer mute))] ∧
    (k.run answeredTwice).state = .joined := by
  obtain ⟨k, hk, htold⟩ : ∃ k, Connection.ofUrl 1 "ws://10.0.0.1" .standard = .ok k ∧
      (k.told answeredTwice, (k.run answeredTwice).state) =
        (heard 1 askedIn ++ [.frame (.command (.answer mute))], .joined) :=
    Connection.exists_of_map_ofUrl (by decide +kernel)
  obtain ⟨hnews, hstate⟩ := Prod.mk.inj htold
  exact ⟨k, hk, hnews, hstate⟩

theorem not_canUse_mute : ¬ (calm .joined).CanUse mute := by
  have hnone : mute.sdp.decompress.toOption = none := by decide +kernel
  intro huse
  obtain ⟨text, htext⟩ := huse.text
  rw [htext] at hnone
  cases hnone

/-- The call is joining, its connection has joined, and neither leads anywhere. -/
theorem answer_mute :
    let c := (new ⟨"call"⟩ ⟨"chat"⟩ ⟨"U0"⟩ ⟨1, 16, 1, 1, none⟩ (Vector.replicate 32 1) none).run
      askedIn
    let step := CallStep.event ⟨1, .frame (.command (.answer mute))⟩
    let more := [(calm .joined, CallStep.request (.updateAv ⟨0⟩))]
    c.state = .joining ∧ c.relay = some 1 ∧ ¬ (calm .joined).CanUse mute ∧
      (∃ k, Connection.ofUrl 1 "ws://10.0.0.1" .standard = .ok k ∧
        heard 1 (askedIn ++ (calm .joined, step) :: more) <+: k.told answeredTwice) ∧
      (∀ later ∈ more, later.2.frees 1 = false) ∧
      ((c.take (calm .joined) step).run more).state = .joining := by
  intro c step more
  have hs : c.state = .joining := by decide +kernel
  have hrelay : c.relay = some 1 := by decide +kernel
  obtain ⟨k, hk, htold, -⟩ := told_answeredTwice
  have hheard : heard 1 (askedIn ++ (calm .joined, step) :: more) <+: k.told answeredTwice := by
    rw [htold]
    exact List.prefix_refl _
  have hfrees : ∀ later ∈ more, later.2.frees 1 = false := by simp [more, CallStep.frees]
  obtain ⟨-, -, hwaits⟩ := (answer_along_runs ⟨"call"⟩ ⟨"chat"⟩ ⟨"U0"⟩ ⟨1, 16, 1, 1, none⟩
    (Vector.replicate 32 1) none askedIn (calm .joined) mute 1 hs hrelay).2 not_canUse_mute
  exact ⟨hs, hrelay, not_canUse_mute, ⟨k, hk, hheard⟩, hfrees,
    hwaits "ws://10.0.0.1" .standard k answeredTwice more hk hheard hfrees⟩

/-- The answer leaves the call joining, though the connection has told it and passes no other
one. -/
theorem answer_unused :
    let c := (new ⟨"call"⟩ ⟨"chat"⟩ ⟨"U0"⟩ ⟨1, 16, 1, 1, none⟩ (Vector.replicate 32 1) none).run
      askedIn
    c.state = .joining ∧
      (c.take (calm .joined) (.event ⟨1, .frame (.command (.answer mute))⟩)).state = .joining ∧
      ∃ k, Connection.ofUrl 1 "ws://10.0.0.1" .standard = .ok k ∧
        k.told answeredTwice = heard 1 askedIn ++ [.frame (.command (.answer mute))] ∧
        (k.run answeredTwice).state = .joined := by
  intro c
  have hs : c.state = .joining := by decide +kernel
  have hs' : (c.take (calm .joined) (.event ⟨1, .frame (.command (.answer mute))⟩)).state =
      .joining := by
    decide +kernel
  exact ⟨hs, hs', told_answeredTwice⟩

end Call
end GroupCall
