/-
# What becomes of operations

An operation is taken apart at its steps.  Either one of its conditions is not met, or the relay
connection does not accept what is handed to it, or everything that was demanded holds and the
call is the one after the last step.  Whoever wants to know what an operation keeps looks at these
cases, and not at the operation.
-/
import GroupCall.Call.Request

namespace GroupCall

variable {α β : Type}

/-- A request that is accepted is allowed by the state of a connection that takes it. -/
theorem Surroundings.answer_eq_ok_iff {w : Surroundings} {request : RelayRequest} :
    w.answer request = .ok () ↔ request.check w.relay = .ok () ∧ w.relayEnds = false := by
  rw [answer]
  cases request.check w.relay with
  | error e => simp [bind, Except.bind]
  | ok _ => cases w.relayEnds <;> simp [bind, Except.bind, throw, throwThe, MonadExceptOf.throw]; rfl

namespace Call

variable {c : Call} {w : Surroundings}

/-! ## Conditions -/

theorem require_eq_ok_iff {operation : String} {state : CallState} :
    c.require operation state = .ok () ↔ c.state = state := by
  rw [require]
  split <;> simp_all

theorem requireModerator_eq_ok_iff : c.requireModerator = .ok () ↔ c.isModerator = true := by
  rw [requireModerator]
  split <;> simp_all

theorem requireAlive_eq_ok_iff : c.requireAlive = .ok () ↔ c.cancelled = false := by
  rw [requireAlive]
  split <;> simp_all

theorem requireSession_eq_ok_iff {cid : Cid} {session : Session} :
    c.requireSession cid = .ok session ↔ c.sessions.get? cid = some session := by
  rw [requireSession]
  split <;> simp_all

theorem requireRelay_eq_ok_iff {relay : Nat} : c.requireRelay = .ok relay ↔ c.relay = some relay := by
  rw [requireRelay]
  split <;> simp_all

/-! ## One step after the other -/

theorem attempt_demand_bind (c : Call) (condition : Call → Except CallError α)
    (next : α → Operation β) :
    c.attempt (Operation.demand condition >>= next) =
      match condition c with
      | .ok a => c.attempt (next a)
      | .error e => (c, .error e) := by
  rw [attempt_bind, attempt_demand]
  cases condition c <;> rfl

theorem attempt_get_bind (c : Call) (next : Call → Operation β) :
    c.attempt (get >>= next) = c.attempt (next c) := by
  rw [attempt_bind, attempt_get]

/-- Demanding something of each entry of a list, one after the other. -/
theorem attempt_mapM_demand (c : Call) (condition : α → Call → Except CallError β) (l : List α) :
    c.attempt (l.mapM fun a => Operation.demand (condition a)) =
      (c, l.mapM fun a => condition a c) := by
  induction l with
  | nil => rfl
  | cons a rest ih =>
    rw [List.mapM_cons, List.mapM_cons, attempt_demand_bind]
    cases condition a c with
    | error e => rfl
    | ok b =>
      simp only [attempt_bind, ih]
      cases rest.mapM fun a => condition a c <;> rfl

/-- A request is handed over to our connection if it accepts it. -/
theorem hand_cases (c : Call) (w : Surroundings) (request : RelayRequest) :
    (∃ e, c.attempt (Operation.hand w request) = (c, .error e)) ∨
      ∃ relay, c.relay = some relay ∧ w.answer request = .ok () ∧
        c.attempt (Operation.hand w request) = (c.post relay request, .ok ()) := by
  rw [Operation.hand, attempt_demand_bind]
  cases hrelay : c.requireRelay with
  | error e => exact .inl ⟨e, rfl⟩
  | ok relay =>
    dsimp only
    rw [attempt_handTo]
    cases hanswer : w.answer request with
    | error e => exact .inl ⟨_, rfl⟩
    | ok _ => exact .inr ⟨relay, requireRelay_eq_ok_iff.1 hrelay, rfl, rfl⟩

theorem hand_of_answer {relay : Nat} {request : RelayRequest} (hrelay : c.relay = some relay)
    (hanswer : w.answer request = .ok ()) :
    c.attempt (Operation.hand w request) = (c.post relay request, .ok ()) := by
  rw [Operation.hand, attempt_demand_bind, requireRelay_eq_ok_iff.2 hrelay]
  dsimp only
  rw [attempt_handTo, hanswer]

/-! ## Commands -/

/-- A command is refused, or it is handed over in the call, and what follows is done. -/
theorem command_cases (c : Call) (w : Surroundings) (operation : String)
    (find : Call → Except CallError OutboundCommand) (follow : Call → Call) :
    (∃ e, c.attempt (command w operation find follow) = (c, .error e)) ∨
      ∃ relay found, c.state = .inProgress ∧ find c = .ok found ∧ c.relay = some relay ∧
        c.attempt (command w operation find follow) =
          (follow (c.post relay (.send found)), .ok ()) := by
  rw [command, attempt_demand_bind]
  cases hstate : c.require operation .inProgress with
  | error e => exact .inl ⟨e, rfl⟩
  | ok _ =>
    dsimp only
    rw [attempt_demand_bind]
    cases hfind : find c with
    | error e => exact .inl ⟨e, rfl⟩
    | ok found =>
      dsimp only
      rw [attempt_bind]
      obtain ⟨e, heq⟩ | ⟨relay, hrelay, -, heq⟩ := c.hand_cases w (.send found) <;> rw [heq]
      · exact .inl ⟨e, rfl⟩
      · exact .inr ⟨relay, found, require_eq_ok_iff.1 hstate, rfl, hrelay, rfl⟩

/-- A command of a moderator is refused, or we are one. -/
theorem moderate_cases (c : Call) (w : Surroundings) (operation : String)
    (find : Call → Except CallError OutboundCommand) (follow : Call → Call) :
    (∃ e, c.attempt (moderate w operation find follow) = (c, .error e)) ∨
      c.isModerator = true ∧ c.attempt (moderate w operation find follow) =
        c.attempt (command w operation find follow) := by
  rw [moderate, attempt_demand_bind]
  cases hmoderator : c.requireModerator with
  | error e => exact .inl ⟨e, rfl⟩
  | ok _ => exact .inr ⟨requireModerator_eq_ok_iff.1 hmoderator, rfl⟩

/-- What only moderators may do is denied to everybody else before anything else is looked at. -/
theorem moderate_of_not_moderator (h : c.isModerator = false) (w : Surroundings)
    (operation : String) (find : Call → Except CallError OutboundCommand)
    (follow : Call → Call) :
    c.attempt (moderate w operation find follow) = (c, .error .accessDenied) := by
  have hdenied : c.requireModerator = .error .accessDenied := by simp [requireModerator, h]
  rw [moderate, attempt_demand_bind, hdenied]

variable {P : Call → Prop} {operation : String} {find : Call → Except CallError OutboundCommand}
  {follow : Call → Call}

theorem command_invariant (h : P c)
    (hout : ∀ relay found, c.state = .inProgress → find c = .ok found → c.relay = some relay →
      P (follow (c.post relay (.send found)))) :
    P (c.attempt (command w operation find follow)).1 := by
  obtain ⟨e, heq⟩ | ⟨relay, found, hs, hfind, hrelay, heq⟩ :=
    c.command_cases w operation find follow <;> rw [heq]
  · exact h
  · exact hout relay found hs hfind hrelay

theorem moderate_invariant (h : P c)
    (hout : c.isModerator = true → P (c.attempt (command w operation find follow)).1) :
    P (c.attempt (moderate w operation find follow)).1 := by
  obtain ⟨e, heq⟩ | ⟨hmoderator, heq⟩ := c.moderate_cases w operation find follow <;> rw [heq]
  · exact h
  · exact hout hmoderator

/-! ## Handing out keys -/

/-- A key wrapped for the users of sessions, if that is possible for all of them. -/
def wrapForAll (c : Call) (w : Surroundings) (plain : MediaKey) (sessions : List Session) :
    Except CallError (List (Cid × List UInt8)) :=
  sessions.mapM fun session => c.wrapFor w plain session

theorem wrapForAll_cons (plain : MediaKey) (s : Session) (rest : List Session) :
    c.wrapForAll w plain (s :: rest) = (c.wrapFor w plain s).bind fun first =>
      (c.wrapForAll w plain rest).bind fun others => .ok (first :: others) :=
  List.mapM_cons

/-- Everything that a rotation demands, with what is sent then and the connection that takes
it. -/
structure Rotates (c : Call) (w : Surroundings) (relay : Nat)
    (wrapped : List (Cid × List UInt8)) : Prop where
  /-- We are in the call. -/
  state : c.state = .inProgress
  /-- The new key can be wrapped for everybody. -/
  wraps : c.wrapForAll w w.key c.recipients = .ok wrapped
  /-- The call was not given up. -/
  alive : c.cancelled = false
  /-- There is a connection. -/
  relay : c.relay = some relay
  /-- It accepts the keys. -/
  accepted : w.answer (.send (.key c.keys.nextId wrapped)) = .ok ()

/-- The call after a new key was handed out. -/
def rotated (c : Call) (w : Surroundings) (relay : Nat)
    (wrapped : List (Cid × List UInt8)) : Call :=
  (c.post relay (.send (.key c.keys.nextId wrapped))).useKey w.key

/-- Where everything holds that a rotation demands, it is carried out. -/
theorem Rotates.rotateKey_eq {relay : Nat} {wrapped : List (Cid × List UInt8)}
    (h : c.Rotates w relay wrapped) :
    c.rotateKey w = (c.rotated w relay wrapped, .ok c.keys.nextId) := by
  have hwraps : (c.recipients.mapM fun session => c.wrapFor w w.key session) = .ok wrapped :=
    h.wraps
  rw [rotateKey, attempt_demand_bind, require_eq_ok_iff.2 h.state]
  dsimp only
  rw [attempt_get_bind, attempt_get_bind, attempt_bind, attempt_mapM_demand, hwraps]
  dsimp only
  rw [attempt_demand_bind, requireAlive_eq_ok_iff.2 h.alive]
  dsimp only
  rw [attempt_bind, hand_of_answer h.relay h.accepted]
  rfl

/-- A rotation is refused at one of its steps, or everything holds that it demands. -/
theorem rotateKey_refused_or (c : Call) (w : Surroundings) :
    (∃ e, c.rotateKey w = (c, .error e)) ∨ ∃ relay wrapped, c.Rotates w relay wrapped := by
  rw [rotateKey, attempt_demand_bind]
  cases hstate : c.require "generate_and_send_new_key" .inProgress with
  | error e => exact .inl ⟨e, rfl⟩
  | ok _ =>
    dsimp only
    rw [attempt_get_bind, attempt_get_bind, attempt_bind, attempt_mapM_demand]
    cases hwraps : c.recipients.mapM fun session => c.wrapFor w w.key session with
    | error e => exact .inl ⟨e, rfl⟩
    | ok wrapped =>
      dsimp only
      rw [attempt_demand_bind]
      cases halive : c.requireAlive with
      | error e => exact .inl ⟨e, rfl⟩
      | ok _ =>
        dsimp only
        rw [attempt_bind]
        obtain ⟨e, heq⟩ | ⟨relay, hrelay, hanswer, heq⟩ :=
          c.hand_cases w (.send (.key c.keys.nextId wrapped)) <;> rw [heq]
        · exact .inl ⟨e, rfl⟩
        · exact .inr ⟨relay, wrapped, require_eq_ok_iff.1 hstate, hwraps,
            requireAlive_eq_ok_iff.1 halive, hrelay, hanswer⟩

/-- A rotation is refused, and then not everything that it demands holds, or it is carried
out. -/
theorem rotateKey_cases (c : Call) (w : Surroundings) :
    (∃ e, c.rotateKey w = (c, .error e) ∧ ∀ relay wrapped, ¬ c.Rotates w relay wrapped) ∨
      ∃ relay wrapped, c.Rotates w relay wrapped ∧
        c.rotateKey w = (c.rotated w relay wrapped, .ok c.keys.nextId) := by
  obtain ⟨e, heq⟩ | ⟨relay, wrapped, hrotates⟩ := c.rotateKey_refused_or w
  · refine .inl ⟨e, heq, fun relay wrapped hrotates => ?_⟩
    cases congrArg Prod.snd (heq.symm.trans hrotates.rotateKey_eq)
  · exact .inr ⟨relay, wrapped, hrotates, hrotates.rotateKey_eq⟩

/-- A rotation that fails is reported, and any other is carried out. -/
theorem rotateOrReport_cases (c : Call) (w : Surroundings) :
    (∃ e, (c.rotateKey w).2 = .error e ∧ c.rotateOrReport w = c.report e ∧
      ∀ relay wrapped, ¬ c.Rotates w relay wrapped) ∨
      ∃ relay wrapped, c.Rotates w relay wrapped ∧
        c.rotateOrReport w = c.rotated w relay wrapped := by
  rw [rotateOrReport]
  obtain ⟨e, heq, hnot⟩ | ⟨relay, wrapped, hrotates, heq⟩ := c.rotateKey_cases w <;> rw [heq]
  · exact .inl ⟨e, rfl, rfl, hnot⟩
  · exact .inr ⟨relay, wrapped, hrotates, rfl⟩

theorem fst_of_wrapFor {plain : MediaKey} {s : Session} {e : Cid × List UInt8}
    (h : c.wrapFor w plain s = .ok e) : e.1 = s.cid := by
  rw [wrapFor] at h
  cases hwrapped : (c.agreement w).wrapFor s.userId (Crypto.bytesOf plain) with
  | error e =>
    rw [hwrapped] at h
    cases h
  | ok bytes =>
    rw [hwrapped] at h
    cases h
    rfl

/-- There is no key to send, or that fails, or a participant that is connected is sent the key
in use. -/
theorem sendKeyTo_cases (c : Call) (w : Surroundings) (cid : Cid) :
    c.sendKey = none ∧ c.sendKeyTo w cid = (c, .ok ()) ∨
      (∃ e, c.sendKeyTo w cid = (c, .error e)) ∨
      ∃ s id plain relay bytes, c.sessions.get? cid = some s ∧ c.sendKey = some (id, plain) ∧
        c.wrapFor w plain s = .ok (s.cid, bytes) ∧ c.relay = some relay ∧
        c.sendKeyTo w cid = (c.post relay (.send (.key id [(s.cid, bytes)])), .ok ()) := by
  rw [sendKeyTo, attempt_get_bind]
  cases hkey : c.sendKey with
  | none => exact .inl ⟨rfl, rfl⟩
  | some key =>
    obtain ⟨id, plain⟩ := key
    refine .inr ?_
    dsimp only
    rw [attempt_demand_bind]
    cases hsession : c.requireSession cid with
    | error e => exact .inl ⟨e, rfl⟩
    | ok s =>
      dsimp only
      rw [attempt_demand_bind]
      cases hwraps : c.wrapFor w plain s with
      | error e => exact .inl ⟨e, rfl⟩
      | ok wrapped =>
        dsimp only
        rw [attempt_demand_bind]
        cases c.requireAlive with
        | error e => exact .inl ⟨e, rfl⟩
        | ok _ =>
          dsimp only
          obtain ⟨e, heq⟩ | ⟨relay, hrelay, -, heq⟩ :=
            c.hand_cases w (.send (.key id [wrapped])) <;> rw [heq]
          · exact .inl ⟨e, rfl⟩
          · obtain ⟨cid', bytes⟩ := wrapped
            obtain rfl : cid' = s.cid := fst_of_wrapFor hwraps
            exact .inr ⟨s, id, plain, relay, bytes, requireSession_eq_ok_iff.1 hsession, rfl,
              hwraps, hrelay, rfl⟩

/-- The key of a participant is taken if it can be unwrapped. -/
theorem takeKey_cases (c : Call) (w : Surroundings) (id : KeyId) (s : Session)
    (wrapped : List UInt8) :
    (∃ e, (c.agreement w).unwrapFrom s.userId wrapped = .error e ∧
      c.takeKey w id s wrapped = (c, .error e)) ∨
      ∃ plain, (c.agreement w).unwrapFrom s.userId wrapped = .ok plain ∧
        c.takeKey w id s wrapped =
          ({ c with
              sessions := c.sessions.modify s.cid fun s =>
                { s with keys := s.keys.insert id (c.frameKey plain) } },
            .ok ()) := by
  rw [takeKey, attempt_demand_bind]
  cases (c.agreement w).unwrapFrom s.userId wrapped with
  | error e => exact .inl ⟨e, rfl, rfl⟩
  | ok plain => exact .inr ⟨plain, rfl, rfl⟩

/-! ## Ourselves, the users and the link -/

/-- The call with other flags, its tracks switched. -/
def withFlags (c : Call) (av : AvFlags) : Call := { c with av := av }.applyLocalAv

@[simp] theorem state_withFlags (c : Call) (av : AvFlags) : (c.withFlags av).state = c.state := by
  rw [withFlags, applyLocalAv]
  split <;> rfl

@[simp] theorem relay_withFlags (c : Call) (av : AvFlags) : (c.withFlags av).relay = c.relay := by
  rw [withFlags, applyLocalAv]
  split <;> rfl

/-- A change of what we send fails in a call that is over.  Otherwise it takes effect, and in the
call it is told to the relay, which may fail. -/
theorem updateAv_cases (c : Call) (w : Surroundings) (av : AvFlags) :
    c.state.isDestroyed = true ∧ c.updateAv w av = (c, .error .closed) ∨
      c.state.isDestroyed = false ∧
        ((c.updateAv w av).1 = c.withFlags av ∨
          ∃ relay, c.state = .inProgress ∧ c.relay = some relay ∧
            c.updateAv w av = ((c.withFlags av).post relay (.send (.av av)), .ok ())) := by
  cases hover : c.state.isDestroyed with
  | true =>
    refine .inl ⟨rfl, ?_⟩
    rw [updateAv, attempt_demand_bind, requireOpen, hover]
    rfl
  | false =>
    have hset : c.updateAv w av = (c.withFlags av).attempt (if (c.withFlags av).state = .inProgress
        then Operation.hand w (.send (.av av)) else pure ()) := by
      rw [updateAv, attempt_demand_bind, requireOpen, hover]
      rfl
    refine .inr ⟨rfl, ?_⟩
    rw [hset]
    by_cases hs : (c.withFlags av).state = .inProgress
    · rw [if_pos hs]
      obtain ⟨e, heq⟩ | ⟨relay, hrelay, -, heq⟩ :=
        (c.withFlags av).hand_cases w (.send (.av av)) <;> rw [heq]
      · exact .inl rfl
      · exact .inr ⟨relay, (state_withFlags c av).symm.trans hs,
          (relay_withFlags c av).symm.trans hrelay, rfl⟩
    · rw [if_neg hs]
      exact .inl rfl

theorem updateAv_invariant {av : AvFlags} (h : P c) (hset : P (c.withFlags av))
    (hout : ∀ relay, c.state = .inProgress → c.relay = some relay →
      P ((c.withFlags av).post relay (.send (.av av)))) : P (c.updateAv w av).1 := by
  obtain ⟨-, heq⟩ | ⟨-, heq | ⟨relay, hs, hrelay, heq⟩⟩ := c.updateAv_cases w av <;> rw [heq]
  · exact h
  · exact hset
  · exact hout relay hs hrelay

/-- Adding a user fails in a call that is over, and tells the observer who is new. -/
theorem addParticipant_cases (c : Call) (user : UserId) :
    c.state.isDestroyed = true ∧ c.addParticipant user = (c, .error .closed) ∨
      c.state.isDestroyed = false ∧ c.addParticipant user =
        if c.participants.contains user then (c, .ok false)
        else
          ({ c with participants := c.participants.insert user () }.tell (.participantAdded user),
            .ok true) := by
  rw [addParticipant, attempt_demand_bind, requireOpen]
  cases hover : c.state.isDestroyed with
  | true => exact .inl ⟨rfl, rfl⟩
  | false =>
    refine .inr ⟨rfl, ?_⟩
    simp only [Bool.false_eq_true, if_false]
    rw [attempt_get_bind]
    split <;> rfl

theorem addParticipant_invariant {user : UserId} (h : P c)
    (hadded : P ({ c with participants := c.participants.insert user () }.tell
      (.participantAdded user))) : P (c.addParticipant user).1 := by
  obtain ⟨-, heq⟩ | ⟨-, heq⟩ := c.addParticipant_cases user <;> rw [heq]
  · exact h
  · split
    · exact h
    · exact hadded

/-- Removing a user fails in a call that is over, and tells the observer if there was one. -/
theorem removeParticipant_cases (c : Call) (user : UserId) :
    c.state.isDestroyed = true ∧ c.removeParticipant user = (c, .error .closed) ∨
      c.state.isDestroyed = false ∧ c.removeParticipant user =
        if c.participants.contains user then
          ({ c with participants := c.participants.erase user }.tell (.participantRemoved user),
            .ok true)
        else (c, .ok false) := by
  rw [removeParticipant, attempt_demand_bind, requireOpen]
  cases hover : c.state.isDestroyed with
  | true => exact .inl ⟨rfl, rfl⟩
  | false =>
    refine .inr ⟨rfl, ?_⟩
    simp only [Bool.false_eq_true, if_false]
    rw [attempt_get_bind]
    split <;> rfl

theorem removeParticipant_invariant {user : UserId} (h : P c)
    (hremoved : P ({ c with participants := c.participants.erase user }.tell
      (.participantRemoved user))) : P (c.removeParticipant user).1 := by
  obtain ⟨-, heq⟩ | ⟨-, heq⟩ := c.removeParticipant_cases user <;> rw [heq]
  · exact h
  · split
    · exact hremoved
    · exact h

/-- Further attempts are stopped if there is a connection. -/
theorem abortReconnect_cases (c : Call) :
    (∃ e, c.relay = none ∧ c.abortReconnect = (c, .error e)) ∨
      ∃ relay, c.relay = some relay ∧ c.abortReconnect = (c.record (.aborted relay), .ok ()) := by
  rw [abortReconnect, attempt_demand_bind, requireRelay]
  cases c.relay with
  | none => exact .inl ⟨_, rfl, rfl⟩
  | some relay => exact .inr ⟨relay, rfl, rfl⟩

theorem abortReconnect_invariant (h : P c)
    (haborted : ∀ relay, c.relay = some relay → P (c.record (.aborted relay))) :
    P c.abortReconnect.1 := by
  obtain ⟨e, -, heq⟩ | ⟨relay, hrelay, heq⟩ := c.abortReconnect_cases <;> rw [heq]
  · exact h
  · exact haborted relay hrelay

theorem sendJoin_of_offer {sdp : Sdp} {ivs : SendIvs} {relay : Nat}
    (hoffer : c.offer = some (sdp, ivs)) (hrelay : c.relay = some relay) (w : Surroundings) :
    c.sendJoin w =
      match w.answer (c.joinRequest sdp ivs) with
      | .ok () => (c.post relay (c.joinRequest sdp ivs)).setState .joining
      | .error e => (c, .error (.connection e)) := by
  rw [sendJoin, attempt_get_bind, hoffer]
  dsimp only
  rw [attempt_get_bind, hrelay]
  dsimp only
  rw [attempt_get_bind, attempt_bind, attempt_handTo]
  cases w.answer (c.joinRequest sdp ivs) <;> rfl

/-- A request to join is refused, or our connection accepts it. -/
theorem sendJoin_cases (c : Call) (w : Surroundings) :
    (∃ e, c.sendJoin w = (c, .error e)) ∨
      ∃ relay sdp ivs, c.offer = some (sdp, ivs) ∧ c.relay = some relay ∧
        c.sendJoin w = (c.post relay (c.joinRequest sdp ivs)).setState .joining := by
  cases hoffer : c.offer with
  | none =>
    refine .inl ⟨.media "no local offer", ?_⟩
    rw [sendJoin, attempt_get_bind, hoffer]
    rfl
  | some offer =>
    cases hrelay : c.relay with
    | none =>
      refine .inl ⟨.closed, ?_⟩
      rw [sendJoin, attempt_get_bind, hoffer]
      dsimp only
      rw [attempt_get_bind, hrelay]
      rfl
    | some relay =>
      rw [sendJoin_of_offer hoffer hrelay]
      cases w.answer (c.joinRequest offer.1 offer.2) with
      | error e => exact .inl ⟨_, rfl⟩
      | ok _ => exact .inr ⟨relay, offer.1, offer.2, rfl, rfl, rfl⟩

/-- Whatever was handed out is in the engine; it is installed only if it could be described. -/
theorem setUpMedia_cases (c : Call) (w : Surroundings) :
    let engine := (c.engine.addTracks w.faults c.config.tracks).1
    (∃ e, c.setUpMedia w = ({ c with engine := engine }, .error e)) ∨
      ∃ places sdp, c.engine.addTracks w.faults c.config.tracks = (engine, .ok places) ∧
        ({ c with engine := engine } : Call).describe w = .ok sdp ∧
        c.setUpMedia w =
          (({ c with engine := engine } : Call).installMedia sdp w.ivs places, .ok ()) := by
  rw [setUpMedia]
  obtain ⟨engine, result⟩ := c.engine.addTracks w.faults c.config.tracks
  cases result with
  | error reason => exact .inl ⟨_, rfl⟩
  | ok places =>
    dsimp only
    rw [attempt_demand_bind]
    cases Call.describe { c with engine := engine } w with
    | error e => exact .inl ⟨e, rfl⟩
    | ok sdp => exact .inr ⟨places, sdp, rfl, rfl, rfl⟩

end Call
end GroupCall
