/-
# What we send before we are let in

Our sound is a matter of the call, but our video is not: the call takes the wishes of the relay
wherever it stands.  A connection passes them only behind the answer, and an answer lets the call
in, unless the call turns it down.  So outside the call our video is on only after that, and then
it is on whenever it is asked for.

Two things are told from the run for this: whether our link has brought its answer, and whether
the call turned one down.  The induction carries that an answer that did not let us in was turned
down, and that nobody wants our video outside the call unless that happened.
-/
import GroupCall.Proofs.Sending.Gating
import GroupCall.Proofs.HalfJoined

namespace GroupCall

namespace RelayNews

/-! ## Commands come behind the answer -/

/-- Whether a command is told. -/
def isCommand : RelayNews → Bool
  | .frame (.command _) => true
  | _ => false

/-- Whether `n` may be told, if the answer was told for the present socket or not. -/
def inTurn (before : Bool) (n : RelayNews) : Bool := !n.isCommand || (before || n.isAnswer)

end RelayNews

namespace Call

variable {c c' : Call} {w : Surroundings} {step : CallStep} {count : Nat}
  {answered turnedDown : Bool}

/-! ## What our own link brings -/

/-- The news that a step brings from our connection. -/
def ownNews? (c : Call) (step : CallStep) : Option RelayNews :=
  c.relay.bind fun relay => step.news? relay

/-- Whether a step brings the answer. -/
def answersIn (c : Call) (step : CallStep) : Bool := (c.ownNews? step).any RelayNews.isAnswer

/-- Whether our link has brought the answer after a step, if it had before or not.  A participation
that begins has a link of its own. -/
def answeredAfter (c : Call) (step : CallStep) (before : Bool) : Bool :=
  if c.accepts step then false else (c.ownNews? step).elim before (RelayNews.answered before)

/-- Whether the call has turned an answer down after a step, if it had before or not: the answer
did not let it in.  That is over when we leave, and when the link is lost. -/
def turnedDownAfter (c : Call) (w : Surroundings) (step : CallStep) (before : Bool) : Bool :=
  if c.leavesIn w step || c.losesLink step then false
  else if c.answersIn step then !decide ((c.take w step).state = .inProgress)
  else before

/-- Whether the call has turned an answer down after a run, if it had before or not. -/
def turnedDownAlong (c : Call) (before : Bool) : List (Surroundings × CallStep) → Bool
  | [] => before
  | (w, step) :: rest =>
    (c.take w step).turnedDownAlong (c.turnedDownAfter w step before) rest

/-- Whether our connections tell commands only behind the answer on the present link in a run. -/
def isGuarded (c : Call) (answered : Bool) : List (Surroundings × CallStep) → Bool
  | [] => true
  | (w, step) :: rest =>
    (c.ownNews? step).all (RelayNews.inTurn answered) &&
      (c.take w step).isGuarded (c.answeredAfter step answered) rest

/-- A wish is a command of our connection, and is not the answer. -/
theorem ownNews?_of_wishIn? {wished : SlotRole × Bool} (h : c.wishIn? step = some wished) :
    ∃ n, c.ownNews? step = some n ∧ n.isCommand = true ∧ n.isAnswer = false := by
  unfold wishIn? at h
  split at h
  · rename_i connection command
    split at h
    · rename_i hrelay
      refine ⟨.frame (.command command), ?_, rfl, ?_⟩
      · rw [ownNews?, hrelay, Option.bind_some, CallStep.news?, if_pos rfl]
      · cases command <;> first | rfl | cases h
    · cases h
  · cases h

theorem ownNews?_of_losesLink (h : c.losesLink step = true) :
    c.ownNews? step = some (.stateChanged .disconnected) := by
  unfold losesLink at h
  split at h
  · rename_i connection
    simp only [Bool.and_eq_true, decide_eq_true_eq] at h
    rw [ownNews?, h.1, Option.bind_some, CallStep.news?, if_pos rfl]
  · cases h

/-! ## Where a step leads -/

/-- The connection is that of the participation, from its beginning to its end. -/
theorem relay_move (haccepts : c.accepts step = false)
    (hmove : Move c w step c') (hrelay : c'.relay.isSome = true) : c'.relay = c.relay := by
  have hjoin : ∀ {av : AvFlags}, c.state.canJoin = true → step = .request (.join av) → False := by
    rintro av hs rfl
    rw [accepts, hs] at haccepts
    cases haccepts
  have hgone : ∀ {d : Call} {code : TermCode}, d.state.isParticipating = true →
      (d.leave code).relay = none := fun hs => congrArg Standing.relay (standing_leave hs _)
  cases hmove with
  | sent hc => exact hc.relay_eq
  | flags _ hc => exact hc.relay_eq.trans (congrArg Standing.relay (standing_withFlags c _))
  | @wished _ _ role on _ _ _ =>
    obtain ⟨_, _, hstanding⟩ := standing_wished c role on
    exact congrArg Standing.relay hstanding
  | begun hs hstep => exact (hjoin hs hstep).elim
  | linked _ _ hs hstep => exact (hjoin hs hstep).elim
  | refused hs hstep _ => exact (hjoin hs hstep).elim
  | @up relay offer d hs _ _ hd _ _ _ =>
    have hstanding := standing_asking ((congrArg Standing.state hd).trans hs) relay offer
    rw [hd] at hstanding
    exact congrArg Standing.relay hstanding
  | @letIn _ _ d _ _ _ _ hd hc =>
    have hstanding := standing_goIn d
    rw [hd.standing] at hstanding
    exact hc.relay_eq.trans (congrArg Standing.relay hstanding)
  | lost hs _ _ => exact congrArg Standing.relay (standing_linkLost hs)
  | @left d code hs hstate _ _ =>
    rw [hgone (hstate ▸ hs)] at hrelay
    cases hrelay
  | destroyed _ _ => rfl
  | @leftDestroyed code hs =>
    rw [show (c.leave code).destroyed.relay = none from hgone hs] at hrelay
    cases hrelay

/-- Whoever is in the call stays there, unless the participation ends or the link is lost. -/
theorem inProgress_move (hs : c.state = .inProgress) (hkept : c.losesLink step = false)
    (hmove : Move c w step c') (hin : c'.state.isParticipating = true) :
    c'.state = .inProgress := by
  have hgone : ∀ {d : Call} {code : TermCode}, d.state.isParticipating = true →
      (d.leave code).state = .clientNotParticipating :=
    fun hs => congrArg Standing.state (standing_leave hs _)
  cases hmove with
  | sent hc => exact hc.state_eq.trans hs
  | flags _ hc =>
    exact (hc.state_eq.trans (congrArg Standing.state (standing_withFlags c _))).trans hs
  | @wished _ _ role on _ _ _ =>
    obtain ⟨_, _, hstanding⟩ := standing_wished c role on
    exact (congrArg Standing.state hstanding).trans hs
  | begun hjoin _ | linked _ _ hjoin _ | refused hjoin _ _ =>
    rw [hs] at hjoin
    cases hjoin
  | up hconnecting _ _ _ _ _ _ => simp [hs] at hconnecting
  | letIn hjoining _ _ _ _ => simp [hs] at hjoining
  | lost _ hrelay hstep =>
    rw [hstep, losesLink] at hkept
    simp [hrelay, hs] at hkept
  | @left d code hin' hstate _ _ =>
    rw [hgone (hstate ▸ hin')] at hin
    cases hin
  | destroyed hout _ => simp [hs, CallState.isParticipating] at hout
  | leftDestroyed _ => cases hin

/-! ## What comes early was asked for behind an answer that was turned down -/

/-- What the ghost accounts say of a call that is not in progress: the answer was turned down if it
came, and if our video is wanted. -/
structure Early (c : Call) (answered turnedDown : Bool) : Prop where
  /-- The answer did not let us in. -/
  answer : c.relay.isSome = true → answered = true → c.state ≠ .inProgress → turnedDown = true
  /-- It was asked for behind such an answer. -/
  wish : ∀ role, role ≠ .audio → c.isWanted role = true → c.state ≠ .inProgress → turnedDown = true

namespace Early

/-- Whoever has no connection was not asked for anything. -/
theorem of_bare (h : Bare c) (answered turnedDown : Bool) : Early c answered turnedDown where
  answer hrelay := by
    rw [h.relay] at hrelay
    cases hrelay
  wish role _ hwanted := by
    rw [h.isWanted] at hwanted
    cases hwanted

/-- The link has brought its answer after a step: it had before, or this step is the answer. -/
theorem answer_take (h : Early c answered turnedDown) (hgated : Gated c)
    (hlife : Lifecycle c count) (hrelay : (c.take w step).relay.isSome = true)
    (hanswered : c.answeredAfter step answered = true)
    (hout : (c.take w step).state ≠ .inProgress) :
    c.turnedDownAfter w step turnedDown = true := by
  rw [answeredAfter] at hanswered
  split at hanswered
  · cases hanswered
  rename_i haccepts
  have hrefused : c.accepts step = false := by simpa using haccepts
  have hmove := move_take hgated hlife w step
  have hkept : c.losesLink step = false := by
    by_contra hloses
    rw [ownNews?_of_losesLink (by simpa using hloses)] at hanswered
    cases hanswered
  have hin : (c.take w step).state.isParticipating = true :=
    (hlife.take w step).participating_of_relay hrelay
  have hstayed : c.leavesIn w step = false := by rw [leavesIn, hin, Bool.not_true, Bool.and_false]
  rw [turnedDownAfter, hstayed, hkept, Bool.or_false, if_neg (by simp)]
  split
  · simpa using hout
  · -- the answer came before this step, on the same connection
    rename_i hsilent
    rw [answersIn] at hsilent
    refine h.answer (relay_move hrefused hmove hrelay ▸ hrelay) ?_
      fun hs => hout (inProgress_move hs hkept hmove hin)
    cases hnews : c.ownNews? step with
    | none =>
      rw [hnews] at hanswered
      exact hanswered
    | some n =>
      rw [hnews] at hanswered hsilent
      have hnone : n.isAnswer = false := by simpa using hsilent
      simp only [Option.elim_some, RelayNews.answered, hnone, Bool.or_false,
        Bool.and_eq_true] at hanswered
      exact hanswered.2

/-- Our video is wanted after a step: it was so before, or this step asks for it, behind the
answer. -/
theorem wish_take (h : Early c answered turnedDown) (hc : Sending c) (hlife : Lifecycle c count)
    (hguard : (c.ownNews? step).all (RelayNews.inTurn answered) = true) {role : SlotRole}
    (hrole : role ≠ .audio) (hwanted : (c.take w step).isWanted role = true)
    (hout : (c.take w step).state ≠ .inProgress) :
    c.turnedDownAfter w step turnedDown = true := by
  have hmove := move_take hc.toGated hlife w step
  rw [isWanted_take hc hlife w step hrole, wantedAfter] at hwanted
  split at hwanted
  · cases hwanted
  rename_i hgoesOn
  rw [turnedDownAfter, if_neg hgoesOn]
  simp only [Bool.or_eq_true, not_or, Bool.not_eq_true] at hgoesOn
  obtain ⟨hstayed, hkept⟩ := hgoesOn
  have hbefore : c.state ≠ .inProgress := fun hs => hout (by
    refine inProgress_move hs hkept hmove ?_
    rw [leavesIn, hs] at hstayed
    simpa [CallState.isParticipating] using hstayed)
  cases hwish : c.wishIn? step with
  | some wished =>
    obtain ⟨n, hnews, hcommand, hnone⟩ := ownNews?_of_wishIn? hwish
    -- a wish is a command, so the answer came before it
    have hanswered : answered = true := by
      rw [hnews] at hguard
      simpa [RelayNews.inTurn, hcommand, hnone] using hguard
    have hrelay : c.relay.isSome = true := by
      obtain ⟨relay, hrelay, -⟩ := Option.bind_eq_some_iff.1 hnews
      rw [hrelay]
      rfl
    rw [answersIn, hnews, Option.any_some, hnone, if_neg (by simp)]
    exact h.answer hrelay hanswered hbefore
  | none =>
    rw [hwish] at hwanted
    split
    · simpa using hout
    · exact h.wish role hrole hwanted hbefore

theorem take (h : Early c answered turnedDown) (hc : Sending c) (hlife : Lifecycle c count)
    (hguard : (c.ownNews? step).all (RelayNews.inTurn answered) = true) :
    Early (c.take w step) (c.answeredAfter step answered)
      (c.turnedDownAfter w step turnedDown) where
  answer hrelay hanswered hout := h.answer_take hc.toGated hlife hrelay hanswered hout
  wish _ hrole hwanted hout := h.wish_take hc hlife hguard hrole hwanted hout

theorem run (h : Early c answered turnedDown) (hc : Sending c) (hlife : Lifecycle c count)
    {steps : List (Surroundings × CallStep)} (hguarded : c.isGuarded answered steps = true) :
    ∃ later, Early (c.run steps) later (c.turnedDownAlong turnedDown steps) := by
  induction steps generalizing c count answered turnedDown with
  | nil => exact ⟨answered, h⟩
  | cons step rest ih =>
    obtain ⟨w, step⟩ := step
    obtain ⟨hstep, hrest⟩ := Bool.and_eq_true_iff.1 hguarded
    exact ih (h.take hc hlife hstep) (hc.take hlife w step) (hlife.take w step) hrest

end Early

/-- **What we send outside the call.**  In every run of a new call whose connections tell commands
only behind the answer on the present link, whatever the answers are and whatever the engine does:
outside the call none of our tracks is switched on, unless the call has turned an answer down.  If
it has, our video is switched on as our flags and the wishes of the relay say, and our sound is
not. -/
theorem outside_along_runs (id : CallId) (chat : ChatId) (us : UserId) (config : CallConfig)
    (secret : IdentitySecret) (callKey : Option MediaKey)
    (steps : List (Surroundings × CallStep))
    (hguarded : (new id chat us config secret callKey).isGuarded false steps = true) :
    let start := new id chat us config secret callKey
    let c := start.run steps
    c.state ≠ .inProgress → ∀ slots, c.slots = some slots → ∀ role,
      ∃ t, c.engine.tracks.get? (slots.own role).track = some t ∧
        (start.turnedDownAlong false steps = false → t.enabled = false) ∧
        (t.enabled = true ↔ role ≠ .audio ∧ role.isSent c.av = true ∧
          start.wantedAlong role false steps = true) := by
  intro start c hout slots hslots role
  have hlife := lifecycle_new id chat us config secret callKey
  have hstart := sending_new id chat us config secret callKey
  have hearly : Early start false false := .of_bare (hlife.bare rfl) false false
  have hc : Sending c := hstart.run hlife steps
  obtain ⟨later, hlater⟩ := hearly.run hstart hlife hguarded
  obtain ⟨t, -, -, ht, -, -, hon⟩ := hc.exists_own hslots role
  have hsends : t.enabled = true ↔ role.isSent c.av = true ∧ c.isWanted role = true := by
    rw [hon, sends_iff]
  -- whoever is not in the call may not speak
  have hsilent : c.isWanted .audio = false := by
    have hnone : c.speaker = .none := by
      by_contra hne
      exact hout (hc.quiet hne)
    simp [isWanted, hnone]
  by_cases hrole : role = .audio
  · have hoff : t.enabled = false := by
      rw [hrole, hsilent] at hsends
      simpa using hsends
    refine ⟨t, ht, fun _ => hoff, ?_⟩
    simp [hoff, hrole]
  · have hwanted : c.isWanted role = start.wantedAlong role false steps := by
      have hnew : start.isWanted role = false := (hlife.bare rfl).isWanted role
      rw [← hnew]
      exact isWanted_run hstart hlife steps hrole
    refine ⟨t, ht, fun hnone => ?_, ?_⟩
    · by_contra hon
      have hdown := hlater.wish role hrole (hsends.1 (by simpa using hon)).2 hout
      rw [hdown] at hnone
      cases hnone
    · rw [hsends, hwanted]
      exact ⟨fun h => ⟨hrole, h⟩, fun h => h.2⟩

/-- A call that wants to show its video learns of its connection, has no use for the answer, and is
asked for its video. -/
def askedToShow : List (Surroundings × CallStep) :=
  (calm .new, .request (.join ⟨2⟩)) :: askedIn.tail ++
    [(calm .joined, .event ⟨1, .frame (.command (.answer mute))⟩),
      (calm .joined, .event ⟨1, .frame (.command .vthumbStart)⟩)]

/-- The frames from which the connection tells that. -/
def answeredToShow : List RelayStep :=
  answeredTwice.dropLast ++
    [.input .empty (.received 0 "\x7b\"a\":\"VTHUMB_START\"\x7d".toUTF8.toList)]

theorem isGuarded_askedToShow :
    (new ⟨"call"⟩ ⟨"chat"⟩ ⟨"U0"⟩ ⟨1, 16, 1, 1, none⟩ (Vector.replicate 32 1) none).isGuarded false
      askedToShow = true := by
  decide +kernel

theorem state_askedToShow :
    ((new ⟨"call"⟩ ⟨"chat"⟩ ⟨"U0"⟩ ⟨1, 16, 1, 1, none⟩ (Vector.replicate 32 1) none).run
      askedToShow).state = .joining := by
  decide +kernel

/-- The call is not let in, and our video is on. -/
theorem outside_askedToShow :
    let start := new ⟨"call"⟩ ⟨"chat"⟩ ⟨"U0"⟩ ⟨1, 16, 1, 1, none⟩ (Vector.replicate 32 1) none
    let c := start.run askedToShow
    start.isGuarded false askedToShow = true ∧ c.state = .joining ∧
      ∃ slots, c.slots = some slots ∧ ∀ role,
        ∃ t, c.engine.tracks.get? (slots.own role).track = some t ∧
          (start.turnedDownAlong false askedToShow = false → t.enabled = false) ∧
          (t.enabled = true ↔ role ≠ .audio ∧ role.isSent c.av = true ∧
            start.wantedAlong role false askedToShow = true) := by
  intro start c
  have hs : c.state = .joining := state_askedToShow
  have hout : c.state ≠ .inProgress := by simp [hs]
  have hinstalled : c.slots.isSome = true := by decide +kernel
  obtain ⟨slots, hslots⟩ := Option.isSome_iff_exists.1 hinstalled
  exact ⟨isGuarded_askedToShow, hs, slots, hslots,
    outside_along_runs ⟨"call"⟩ ⟨"chat"⟩ ⟨"U0"⟩ ⟨1, 16, 1, 1, none⟩ (Vector.replicate 32 1) none
      askedToShow isGuarded_askedToShow hout slots hslots⟩

/-- Our video is on though we wait to be let in, and the connection has told the commands behind
its answer. -/
theorem shown_outside :
    let start := new ⟨"call"⟩ ⟨"chat"⟩ ⟨"U0"⟩ ⟨1, 16, 1, 1, none⟩ (Vector.replicate 32 1) none
    let c := start.run askedToShow
    start.isGuarded false askedToShow = true ∧
      (∃ k, Connection.ofUrl 1 "ws://10.0.0.1" .standard = .ok k ∧
        k.told answeredToShow = heard 1 askedToShow) ∧
      c.state = .joining ∧
      ∃ slots t, c.slots = some slots ∧
        c.engine.tracks.get? slots.vthumb.track = some t ∧ t.enabled = true := by
  intro start c
  have hon : (c.slots.bind fun slots =>
      (c.engine.tracks.get? slots.vthumb.track).map MediaTrack.enabled) = some true := by
    decide +kernel
  obtain ⟨slots, hslots, hvthumb⟩ := Option.bind_eq_some_iff.1 hon
  obtain ⟨t, ht, henabled⟩ := Option.map_eq_some_iff.1 hvthumb
  have htold : ∃ k, Connection.ofUrl 1 "ws://10.0.0.1" .standard = .ok k ∧
      k.told answeredToShow = heard 1 askedToShow :=
    Connection.exists_of_map_ofUrl (by decide +kernel)
  exact ⟨isGuarded_askedToShow, htold, state_askedToShow, slots, t, hslots, ht, henabled⟩

end Call
end GroupCall
