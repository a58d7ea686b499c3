/-
# Why operations are refused

An operation may be refused for many reasons.  That it would have to take a step between
stages that does not exist is none of them: whoever takes a step is at a stage from which it
exists.
-/
import GroupCall.Proofs.Keys.Steps

namespace GroupCall
namespace Call

variable {c : Call} {w : Surroundings} {α β : Type}

/-- If an operation is refused, it is not for a step between stages that does not exist. -/
def Lawful (outcome : Except CallError α) : Prop :=
  ∀ t, outcome ≠ .error (.invalidTransition t)

/-! ## Outcomes one after the other -/

theorem lawful_ok (a : α) : Lawful (.ok a : Except CallError α) := by simp [Lawful]

theorem lawful_bind {x : Except CallError α} {f : α → Except CallError β} (hx : Lawful x)
    (hf : ∀ a, Lawful (f a)) : Lawful (x.bind f) := by
  cases x with
  | error e => exact fun t h => hx t (by cases h; rfl)
  | ok a => exact hf a

theorem lawful_map {x : Except CallError α} (hx : Lawful x) (f : α → β) : Lawful (x.map f) := by
  cases x with
  | error e => exact fun t h => hx t (by cases h; rfl)
  | ok a => exact lawful_ok (f a)

/-- Errors of other parts that are passed on. -/
theorem lawful_mapError {ε : Type} {f : ε → CallError}
    (hf : ∀ e t, f e ≠ .invalidTransition t) (x : Except ε α) : Lawful (x.mapError f) := by
  cases x with
  | error e => exact fun t h => hf e t (Except.error.inj h)
  | ok a => exact lawful_ok a

/-- What comes of an operation is lawful if it is so at every step. -/
theorem lawful_attempt_bind {operation : Operation α} {next : α → Operation β}
    (h : Lawful (c.attempt operation).2) (hnext : ∀ a (d : Call), Lawful (d.attempt (next a)).2) :
    Lawful (c.attempt (operation >>= next)).2 := by
  rw [attempt_bind]
  split <;> rename_i heq <;> rw [heq] at h
  · exact hnext _ _
  · exact fun t heq => h t (by cases heq; rfl)

theorem lawful_attempt_demand {condition : Call → Except CallError α}
    (h : Lawful (condition c)) : Lawful (c.attempt (Operation.demand condition)).2 := by
  rw [attempt_demand]
  exact h

/-! ## Conditions -/

theorem lawful_require (c : Call) (operation : String) (state : CallState) :
    Lawful (c.require operation state) := by
  rw [require]
  split <;> simp [Lawful]

theorem lawful_requireModerator (c : Call) : Lawful c.requireModerator := by
  rw [requireModerator]
  split <;> simp [Lawful]

theorem lawful_requireAlive (c : Call) : Lawful c.requireAlive := by
  rw [requireAlive]
  split <;> simp [Lawful]

theorem lawful_requireOpen (c : Call) : Lawful c.requireOpen := by
  rw [requireOpen]
  split <;> simp [Lawful]

theorem lawful_requireSession (c : Call) (cid : Cid) : Lawful (c.requireSession cid) := by
  rw [requireSession]
  split <;> simp [Lawful, CallError.noSession]

theorem lawful_requireRelay (c : Call) : Lawful c.requireRelay := by
  rw [requireRelay]
  split <;> simp [Lawful]

theorem lawful_handTo (c : Call) (w : Surroundings) (relay : Nat) (request : RelayRequest) :
    Lawful (c.attempt (Operation.handTo w relay request)).2 := by
  rw [attempt_handTo]
  split <;> simp [Lawful]

theorem lawful_hand (c : Call) (w : Surroundings) (request : RelayRequest) :
    Lawful (c.attempt (Operation.hand w request)).2 :=
  lawful_attempt_bind (lawful_attempt_demand (lawful_requireRelay c)) fun relay d =>
    lawful_handTo d w relay request

/-! ## Keys -/

theorem lawful_sharedWith (k : KeyAgreement) (user : UserId) : Lawful (k.sharedWith user) := by
  rw [KeyAgreement.sharedWith]
  split
  · simp [Lawful]
  · exact lawful_mapError (by simp) _

theorem lawful_wrapFor (c : Call) (w : Surroundings) (plain : MediaKey) (s : Session) :
    Lawful (c.wrapFor w plain s) :=
  lawful_map (lawful_bind (lawful_sharedWith _ _) fun _ => lawful_mapError (by simp) _) _

theorem lawful_unwrapFrom (k : KeyAgreement) (user : UserId) (wrapped : List UInt8) :
    Lawful (k.unwrapFrom user wrapped) :=
  lawful_bind (lawful_sharedWith _ _) fun _ => lawful_mapError (by simp) _

theorem lawful_rotateKey (c : Call) (w : Surroundings) : Lawful (c.rotateKey w).2 := by
  refine lawful_attempt_bind (lawful_attempt_demand (lawful_require c _ _)) fun _ c => ?_
  refine lawful_attempt_bind (lawful_ok c) fun _ c => lawful_attempt_bind (lawful_ok c) fun d c => ?_
  have hwraps : Lawful (c.attempt (d.recipients.mapM fun session =>
      Operation.demand (·.wrapFor w w.key session))).2 := by
    induction d.recipients generalizing c with
    | nil => exact lawful_ok _
    | cons s rest ih =>
      rw [List.mapM_cons]
      exact lawful_attempt_bind (lawful_attempt_demand (lawful_wrapFor c w _ s)) fun _ c =>
        lawful_attempt_bind (ih c) fun _ _ => lawful_ok _
  refine lawful_attempt_bind hwraps fun wrapped c => ?_
  refine lawful_attempt_bind (lawful_attempt_demand (lawful_requireAlive c)) fun _ c => ?_
  exact lawful_attempt_bind (lawful_hand c w _) fun _ c =>
    lawful_attempt_bind (lawful_ok ()) fun _ _ => lawful_ok _

theorem lawful_sendKeyTo (c : Call) (w : Surroundings) (cid : Cid) :
    Lawful (c.sendKeyTo w cid).2 := by
  rw [sendKeyTo, attempt_get_bind]
  split
  · refine lawful_attempt_bind (lawful_attempt_demand (lawful_requireSession c cid)) fun s c => ?_
    refine lawful_attempt_bind (lawful_attempt_demand (lawful_wrapFor c w _ s)) fun _ c => ?_
    exact lawful_attempt_bind (lawful_attempt_demand (lawful_requireAlive c)) fun _ c =>
      lawful_hand c w _
  · exact lawful_ok ()

theorem lawful_takeKey (c : Call) (w : Surroundings) (id : KeyId) (s : Session)
    (wrapped : List UInt8) : Lawful (c.takeKey w id s wrapped).2 :=
  lawful_attempt_bind (lawful_attempt_demand (lawful_unwrapFrom _ _ _)) fun _ _ => lawful_ok ()

/-! ## Joining -/

theorem setState_of_canTransition {next : CallState} (h : c.state.canTransition next = true) :
    c.setState next = ({ c with state := next }.tell (.stateChanged next), .ok ()) := by
  rw [setState, CallState.transition, if_pos h]

/-- Whoever waits for a socket can ask to be let in. -/
theorem setState_joining (hs : c.state = .connecting) (relay : Nat) (request : RelayRequest) :
    (c.post relay request).setState .joining =
      ({ c.post relay request with state := .joining }.tell (.stateChanged .joining), .ok ()) :=
  setState_of_canTransition ((congrArg (CallState.canTransition · .joining) hs).trans rfl)

theorem canTransition_of_canJoin {s : CallState} (h : s.canJoin = true) :
    s.canTransition .connecting = true := by
  cases s <;> first | rfl | cases h

/-- Nobody may join who takes part. -/
theorem isParticipating_of_canJoin {s : CallState} (h : s.canJoin = true) :
    s.isParticipating = false := by
  cases s <;> first | rfl | cases h

/-- The call as it begins to join. -/
def begun (c : Call) (av : AvFlags) : Call :=
  { c with av := av, state := .connecting }.tell (.stateChanged .connecting)

theorem beginJoin_of_canJoin (hs : c.state.canJoin = true) (av : AvFlags) :
    c.beginJoin av = (c.begun av, .ok ()) := by
  rw [beginJoin, if_pos hs]
  exact setState_of_canTransition (canTransition_of_canJoin hs)

theorem join_of_canJoin (hs : c.state.canJoin = true) (w : Surroundings) (av : AvFlags) :
    c.join w av =
      match w.url with
      | some answer => (c.begun av).connect w answer
      | none => (c.begun av, .error .closed) := by
  cases hurl : w.url <;> simp [join, beginJoin_of_canJoin hs, hurl]

theorem join_of_not_canJoin (hs : ¬ c.state.canJoin = true) (w : Surroundings) (av : AvFlags) :
    c.join w av = (c, .error (.stateViolation "join" c.state)) := by
  rw [join, beginJoin, if_neg hs]

theorem lawful_connect (c : Call) (w : Surroundings) (answer : Except String String) :
    Lawful (c.connect w answer).2 := by
  cases answer with
  | error reason => simp [connect, Lawful]
  | ok url =>
    rw [connect]
    split <;> simp [Lawful]

theorem lawful_join (c : Call) (w : Surroundings) (av : AvFlags) : Lawful (c.join w av).2 := by
  by_cases hs : c.state.canJoin = true
  · rw [join_of_canJoin hs]
    split
    · exact lawful_connect _ w _
    · simp [Lawful]
  · rw [join_of_not_canJoin hs]
    simp [Lawful]

/-! ## The link -/

theorem lawful_describe (c : Call) (w : Surroundings) : Lawful (c.describe w) :=
  lawful_bind (lawful_mapError (by simp) _) fun _ => lawful_bind (lawful_requireAlive c) fun _ =>
    lawful_bind (lawful_mapError (by simp) _) fun _ => lawful_ok _

theorem lawful_setUpMedia (c : Call) (w : Surroundings) : Lawful (c.setUpMedia w).2 := by
  rw [setUpMedia]
  split
  · simp [Lawful]
  · exact lawful_attempt_bind (lawful_attempt_demand (lawful_describe _ w)) fun _ _ => lawful_ok ()

/-- Switching our tracks is up to the engine. -/
theorem applyLocalAv_eq (c : Call) : ∃ engine, c.applyLocalAv = { c with engine := engine } := by
  rw [applyLocalAv]
  split
  · exact ⟨c.engine, rfl⟩
  · exact ⟨_, rfl⟩

/-- Installed media come with the offer. -/
theorem installMedia_eq (c : Call) (sdp : Sdp) (ivs : SendIvs) (vthumb hires audio : Nat)
    (recv : List Nat) : ∃ slots engine, c.installMedia sdp ivs (vthumb :: hires :: audio :: recv) =
      { c with slots := some slots, offer := some (sdp, ivs), engine := engine } := by
  rw [installMedia]
  obtain ⟨engine, heq⟩ := applyLocalAv_eq (({ c with
    slots := some ((Slots.new vthumb hires audio recv c.engine.tracks).bindLocal ivs
      c.engine.tracks).1
    offer := some (sdp, ivs) } : Call).withTracks
      ((Slots.new vthumb hires audio recv c.engine.tracks).bindLocal ivs c.engine.tracks).2)
  exact ⟨_, engine, heq⟩

/-- Media are set up as a whole or not at all; the tracks of a failed attempt stay with the
engine. -/
theorem ensureMedia_cases (c : Call) (w : Surroundings) :
    (∃ engine, (c.ensureMedia w).1 = { c with engine := engine } ∧
      ((c.ensureMedia w).2 = .ok () → c.slots.isSome = true) ∧ Lawful (c.ensureMedia w).2) ∨
    ∃ slots offer engine, (c.ensureMedia w).2 = .ok () ∧ (c.ensureMedia w).1 =
      { c with slots := some slots, offer := some offer, engine := engine } := by
  rw [ensureMedia]
  split
  · have hlawful := lawful_setUpMedia c w
    obtain ⟨e, heq⟩ | ⟨places, sdp, hadd, -, heq⟩ := c.setUpMedia_cases w <;> rw [heq]
    · rw [heq] at hlawful
      exact Or.inl ⟨_, rfl, by simp, hlawful⟩
    · obtain ⟨vthumb, hires, audio, recv, rfl, -, -⟩ :=
        Installable.parts (MediaEngine.addTracks_fresh _ _ hadd)
      obtain ⟨slots, engine, hinstalled⟩ := installMedia_eq { c with
        engine := (c.engine.addTracks w.faults c.config.tracks).1 } sdp w.ivs vthumb hires audio recv
      exact Or.inr ⟨slots, (sdp, w.ivs), engine, rfl, hinstalled⟩
  · rename_i slots hs
    exact Or.inl ⟨c.engine, rfl, fun _ => by rw [hs]; rfl, lawful_ok ()⟩

theorem lawful_sendJoin (hs : c.state = .connecting) (w : Surroundings) :
    Lawful (c.sendJoin w).2 := by
  cases hoffer : c.offer with
  | none =>
    rw [sendJoin, attempt_get_bind, hoffer]
    simp [Lawful]
  | some offer =>
    cases hrelay : c.relay with
    | none =>
      rw [sendJoin, attempt_get_bind, hoffer]
      dsimp only
      rw [attempt_get_bind, hrelay]
      simp [Lawful]
    | some relay =>
      rw [sendJoin_of_offer hoffer hrelay]
      split
      · rw [setState_joining hs]
        exact lawful_ok ()
      · simp [Lawful]

theorem lawful_linkUp (c : Call) (w : Surroundings) : Lawful (c.linkUp w).2 := by
  rw [linkUp]
  split
  · rename_i hs
    obtain ⟨engine, heq, -, hlawful⟩ | ⟨slots, offer, engine, hok, heq⟩ := ensureMedia_cases c w
    · split <;> rename_i hmedia <;> rw [hmedia] at heq hlawful
      · exact hlawful
      · exact lawful_sendJoin ((congrArg Call.state heq).trans hs) w
    · split <;> rename_i hmedia <;> rw [hmedia] at heq hok
      · cases hok
      · exact lawful_sendJoin ((congrArg Call.state heq).trans hs) w
  · exact lawful_ok ()

theorem lawful_setRemote (c : Call) (w : Surroundings) (sdp : Sdp) :
    Lawful (c.setRemote w sdp).2 := by
  rw [setRemote]
  split
  · simp [Lawful]
  · split
    · simp [Lawful]
    · exact lawful_ok ()

/-! ## Requests -/

theorem lawful_command (c : Call) (w : Surroundings) (operation : String)
    {find : Call → Except CallError OutboundCommand} (hfind : ∀ c, Lawful (find c))
    (follow : Call → Call) : Lawful (c.attempt (command w operation find follow)).2 :=
  lawful_attempt_bind (lawful_attempt_demand (lawful_require c _ _)) fun _ c =>
    lawful_attempt_bind (lawful_attempt_demand (hfind c)) fun _ c =>
      lawful_attempt_bind (lawful_hand c w _) fun _ _ => lawful_ok ()

theorem lawful_moderate (c : Call) (w : Surroundings) (operation : String)
    {find : Call → Except CallError OutboundCommand} (hfind : ∀ c, Lawful (find c))
    (follow : Call → Call) : Lawful (c.attempt (moderate w operation find follow)).2 :=
  lawful_attempt_bind (lawful_attempt_demand (lawful_requireModerator c)) fun _ c =>
    lawful_command c w operation hfind follow

theorem lawful_answered {outcome : Call × Except CallError α} (h : Lawful outcome.2)
    (reply : α → CallReply) : Lawful (answered outcome reply).2 := lawful_map h reply

theorem lawful_requestSpeaker (c : Call) (w : Surroundings) (add : Bool) :
    Lawful (c.requestSpeaker w add).2 := by
  rw [requestSpeaker]
  split <;> exact lawful_command c w _ (fun _ => lawful_ok _) _

theorem lawful_stopSpeak (c : Call) (w : Surroundings) (cid : Cid) :
    Lawful (c.stopSpeak w cid).2 := by
  rw [stopSpeak]
  split
  · exact lawful_command c w _ (fun _ => lawful_ok _) _
  · exact lawful_moderate c w _ (fun c => lawful_map (lawful_requireSession c cid) _) _

theorem lawful_updateAv (c : Call) (w : Surroundings) (av : AvFlags) :
    Lawful (c.updateAv w av).2 := by
  refine lawful_attempt_bind (lawful_attempt_demand (lawful_requireOpen c)) fun _ c => ?_
  refine lawful_attempt_bind (lawful_ok ()) fun _ c => lawful_attempt_bind (lawful_ok c) fun d c => ?_
  split
  · exact lawful_hand c w _
  · exact lawful_ok ()

theorem lawful_addParticipant (c : Call) (user : UserId) : Lawful (c.addParticipant user).2 := by
  obtain ⟨-, heq⟩ | ⟨-, heq⟩ := c.addParticipant_cases user <;> rw [heq]
  · simp [Lawful]
  · split <;> exact lawful_ok _

theorem lawful_removeParticipant (c : Call) (user : UserId) :
    Lawful (c.removeParticipant user).2 := by
  obtain ⟨-, heq⟩ | ⟨-, heq⟩ := c.removeParticipant_cases user <;> rw [heq]
  · simp [Lawful]
  · split <;> exact lawful_ok _

theorem lawful_abortReconnect (c : Call) : Lawful c.abortReconnect.2 :=
  lawful_attempt_bind (lawful_attempt_demand (lawful_requireRelay c)) fun _ _ => lawful_ok ()

theorem lawful_hangup (c : Call) : Lawful c.hangup.2 := by
  rw [hangup]
  split <;> simp [Lawful]

/-- No request is refused for a step between stages that does not exist. -/
theorem lawful_perform (c : Call) (w : Surroundings) (request : CallRequest) :
    Lawful (c.perform w request).2 := by
  cases request with
  | join av => exact lawful_answered (lawful_join c w av) _
  | hangup => exact lawful_answered (lawful_hangup c) _
  | abortReconnect => exact lawful_answered (lawful_abortReconnect c) _
  | requestSpeaker add => exact lawful_answered (lawful_requestSpeaker c w add) _
  | stopSpeak cid => exact lawful_answered (lawful_stopSpeak c w cid) _
  | approveSpeakRequest cid allow =>
    exact lawful_answered (lawful_moderate c w _
      (fun c => lawful_map (lawful_requireSession c cid) _) _) _
  | getHires cid quality =>
    exact lawful_answered (lawful_command c w _
      (fun c => lawful_map (lawful_requireSession c cid) _) _) _
  | updateAv av => exact lawful_answered (lawful_updateAv c w av) _
  | rotateKey => exact lawful_answered (lawful_rotateKey c w) _
  | addParticipant user => exact lawful_answered (lawful_addParticipant c user) _
  | removeParticipant user => exact lawful_answered (lawful_removeParticipant c user) _
  | snapshot => exact lawful_ok _
  | destroy => exact lawful_ok _
  | delHires _ | getVthumbs _ | delVthumbs _ | setHiresQuality _ _ | setLayer _ _ _ =>
    exact lawful_answered (lawful_command c w _ (fun _ => lawful_ok _) _) _

end Call
end GroupCall
