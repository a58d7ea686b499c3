/-
# The life of a call

Between steps a call is settled: it is never found leaving, whoever asks to be let in has
media and a connection, and nothing is left of a participation that is over.  Every
participation is told to have ended once, every connection but the present one was closed,
and a call that was destroyed does nothing any more.
-/
import GroupCall.Proofs.Changes

namespace GroupCall

/-- What a deed makes of the relay connections that are open. -/
def CallDeed.openRelays (relays : List Nat) : CallDeed → List Nat
  | .connected relay _ => relays ++ [relay]
  | .disconnected relay => relays.erase relay
  | _ => relays

/-- Whether a deed tells that our participation ended. -/
def CallDeed.ends : CallDeed → Bool
  | .told (.terminated _) => true
  | _ => false

/-- Whether a deed leaves connections open as they are, ends nothing, and reports no step
between stages that does not exist. -/
def CallDeed.isIdle : CallDeed → Bool
  | .told (.terminated _) => false
  | .told (.failed (.invalidTransition _)) => false
  | .connected _ _ => false
  | .disconnected _ => false
  | _ => true

namespace CallDeed

theorem isIdle_of_isPlain {d : CallDeed} (h : d.isPlain = true) : d.isIdle = true := by
  unfold isIdle
  split
  · cases h
  · cases h
  · cases h
  · cases h
  · rfl

theorem openRelays_of_isIdle {d : CallDeed} (h : d.isIdle = true) (relays : List Nat) :
    d.openRelays relays = relays := by
  unfold openRelays
  split
  · cases h
  · cases h
  · rfl

theorem ends_of_isIdle {d : CallDeed} (h : d.isIdle = true) : d.ends = false := by
  unfold ends
  split
  · cases h
  · rfl

variable {deeds : List CallDeed} (h : ∀ d ∈ deeds, d.isIdle = true)

include h

theorem foldl_openRelays_of_isIdle (relays : List Nat) :
    deeds.foldl openRelays relays = relays := by
  induction deeds with
  | nil => rfl
  | cons d rest ih =>
    obtain ⟨hd, hrest⟩ := List.forall_mem_cons.1 h
    rw [List.foldl_cons, openRelays_of_isIdle hd, ih hrest]

theorem countP_ends_of_isIdle : deeds.countP ends = 0 :=
  List.countP_eq_zero.2 fun d hd => by simp [ends_of_isIdle (h d hd)]

end CallDeed

namespace Call

variable {c c' c'' d : Call} {w : Surroundings} {count : Nat}

/-! ## What is told by the journal -/

/-- The relay connections that were connected and not disconnected since. -/
def openRelays (c : Call) : List Nat := c.journal.foldl CallDeed.openRelays []

/-- How often the end of a participation was told. -/
def terminations (c : Call) : Nat := c.journal.countP CallDeed.ends

/-- The joins of a run that are accepted. -/
def joins (c : Call) : List (Surroundings × CallStep) → Nat
  | [] => 0
  | (w, step) :: rest => (if c.accepts step then 1 else 0) + (c.take w step).joins rest

/-- Deeds were entered that have nothing to do with connections and ends. -/
def Idle (c c' : Call) : Prop :=
  ∃ deeds, c'.journal = c.journal ++ deeds ∧ ∀ d ∈ deeds, d.isIdle = true

theorem Plain.idle (h : Plain c c') : Idle c c' := by
  obtain ⟨deeds, heq, hplain⟩ := h
  exact ⟨deeds, heq, fun d hd => CallDeed.isIdle_of_isPlain (hplain d hd)⟩

namespace Idle

theorem of_deed {d : CallDeed} (hd : d.isIdle = true)
    (h : c'.journal = c.journal ++ [d]) : Idle c c' := ⟨[d], h, by simpa using hd⟩

theorem trans (h : Idle c c') (h' : Idle c' c'') : Idle c c'' := by
  obtain ⟨deeds, heq, hidle⟩ := h
  obtain ⟨deeds', heq', hidle'⟩ := h'
  exact ⟨deeds ++ deeds', by rw [heq', heq, List.append_assoc],
    List.forall_mem_append.2 ⟨hidle, hidle'⟩⟩

theorem openRelays (h : Idle c c') : c'.openRelays = c.openRelays := by
  obtain ⟨deeds, heq, hidle⟩ := h
  rw [Call.openRelays, heq, List.foldl_append, CallDeed.foldl_openRelays_of_isIdle hidle,
    Call.openRelays]

theorem terminations (h : Idle c c') : c'.terminations = c.terminations := by
  obtain ⟨deeds, heq, hidle⟩ := h
  rw [Call.terminations, heq, List.countP_append, CallDeed.countP_ends_of_isIdle hidle,
    Nat.add_zero, Call.terminations]

theorem unfailed (h : Idle c c') {t : InvalidTransition}
    (hc : .told (.failed (.invalidTransition t)) ∉ c.journal) :
    .told (.failed (.invalidTransition t)) ∉ c'.journal := by
  obtain ⟨deeds, heq, hidle⟩ := h
  rw [heq]
  intro hmem
  rcases List.mem_append.1 hmem with hmem | hmem
  · exact hc hmem
  · cases hidle _ hmem

end Idle

/-! ## What does not change the stage -/

/-- Neither the stage is different nor what belongs to it. -/
structure Stays (c c' : Call) : Prop where
  /-- The stage. -/
  state : c'.state = c.state
  /-- The connection. -/
  relay : c'.relay = c.relay
  /-- Whether our media are set up. -/
  installed : c'.slots.isSome = c.slots.isSome
  /-- What we offer. -/
  offer : c'.offer = c.offer
  /-- Whether the call was given up. -/
  cancelled : c'.cancelled = c.cancelled
  /-- What was done. -/
  idle : Idle c c'

theorem Stays.trans (h : Stays c c') (h' : Stays c' c'') : Stays c c'' :=
  ⟨h'.state.trans h.state, h'.relay.trans h.relay, h'.installed.trans h.installed,
    h'.offer.trans h.offer, h'.cancelled.trans h.cancelled, h.idle.trans h'.idle⟩

theorem Within.stays (h : Within c c') : Stays c c' :=
  ⟨by rw [h.rest], by rw [h.rest], h.installed, by rw [h.rest], by rw [h.rest], h.plain.idle⟩

theorem Aside.stays (h : Aside c c') : Stays c c' := h.routine.toWithin.stays

theorem Stays.refl (c : Call) : Stays c c := (Aside.refl c).stays

theorem Stays.report {α : Type} {e : CallError} (h : Lawful (.error e : Except CallError α))
    (c : Call) : Stays c (c.report e) :=
  (Routine.report h c).toWithin.stays

theorem stays_rotateKey (c : Call) (w : Surroundings) : Stays c (c.rotateKey w).1 := by
  obtain ⟨e, heq, -⟩ | ⟨relay, wrapped, -, heq⟩ := c.rotateKey_cases w <;> rw [heq]
  · exact Stays.refl c
  · exact ⟨rfl, rfl, rfl, rfl, rfl, Idle.of_deed (d := .posted relay (.send (.key _ wrapped)))
      rfl rfl⟩

theorem stays_rotateOrReport (c : Call) (w : Surroundings) : Stays c (c.rotateOrReport w) := by
  have hrotated := stays_rotateKey c w
  have hlawful := lawful_rotateKey c w
  rw [rotateOrReport]
  split <;> rename_i heq <;> rw [heq] at hrotated hlawful
  · exact hrotated
  · exact hrotated.trans (Stays.report hlawful _)

theorem stays_greetOrReport (c : Call) (w : Surroundings) (cid : Cid) :
    Stays c (c.greetOrReport w cid) := by
  have hsent : Stays c (c.sendKeyTo w cid).1 := by
    obtain ⟨-, heq⟩ | ⟨e, heq⟩ | ⟨s, id, plain, relay, bytes, -, -, -, -, heq⟩ :=
      c.sendKeyTo_cases w cid <;> rw [heq]
    · exact Stays.refl c
    · exact Stays.refl c
    · exact ⟨rfl, rfl, rfl, rfl, rfl,
        Idle.of_deed (d := .posted relay (.send (.key id _))) rfl rfl⟩
  have hlawful := lawful_sendKeyTo c w cid
  rw [greetOrReport]
  split <;> rename_i heq <;> rw [heq] at hsent hlawful
  · exact hsent
  · exact hsent.trans (Stays.report hlawful _)

/-! ## Order -/

/-- Nothing belongs to a participation. -/
structure Bare (c : Call) : Prop where
  /-- There is no connection. -/
  relay : c.relay = none
  /-- Our media are not set up. -/
  slots : c.slots = none
  /-- There is nothing to offer. -/
  offer : c.offer = none
  /-- Nobody is connected. -/
  sessions : c.sessions = .empty
  /-- There is no newest key. -/
  sendKey : c.sendKey = none
  /-- No key of ours is kept. -/
  keys : c.keys.keys = .empty
  /-- No number of a key is in use. -/
  current : c.keys.current = none
  /-- We have no number. -/
  cid : c.cid = 0
  /-- We do not speak. -/
  speaker : c.speaker = .none
  /-- Our video in low resolution is not wanted. -/
  vthumb : c.vthumbWanted = false
  /-- Nor is it in high resolution. -/
  hires : c.hiresWanted = false

/-- A call in order, in which so many joins were accepted. -/
structure Lifecycle (c : Call) (count : Nat) : Prop where
  /-- We are never found leaving. -/
  settled : c.state ≠ .terminatingParticipation
  /-- Whoever asked to be let in has a connection and media, and offers them. -/
  equipped : c.state = .joining ∨ c.state = .inProgress →
    c.relay.isSome = true ∧ c.slots.isSome = true ∧ c.offer.isSome = true
  /-- Nothing is left of a participation that is over. -/
  bare : c.state.isParticipating = false → Bare c
  /-- Every connection was closed but the one that we have. -/
  relays : c.openRelays = c.relay.toList
  /-- Every participation but the present one was told to have ended. -/
  ended : c.terminations + (if c.state.isParticipating then 1 else 0) = count
  /-- No step was reported that does not exist. -/
  unfailed : ∀ t, .told (.failed (.invalidTransition t)) ∉ c.journal
  /-- Whatever is destroyed was given up. -/
  givenUp : c.state = .destroyed → c.cancelled = true

theorem lifecycle_new (id : CallId) (chat : ChatId) (us : UserId) (config : CallConfig)
    (secret : IdentitySecret) (callKey : Option MediaKey) :
    Lifecycle (new id chat us config secret callKey) 0 where
  settled h := by cases h
  equipped h := by rcases h with h | h <;> cases h
  bare _ := ⟨rfl, rfl, rfl, rfl, rfl, rfl, rfl, rfl, rfl, rfl, rfl⟩
  relays := rfl
  ended := rfl
  unfailed := by simp [new]
  givenUp h := by cases h

namespace Lifecycle

/-- A connection is for those who take part. -/
theorem participating_of_relay (h : Lifecycle c count) (hrelay : c.relay.isSome = true) :
    c.state.isParticipating = true := by
  by_contra hs
  have hnone := (h.bare (by simpa using hs)).relay
  rw [hnone] at hrelay
  cases hrelay

/-- Our participation goes on, maybe at another stage. -/
theorem goOn (h : Lifecycle c count) (hs : c.state.isParticipating = true)
    (hs' : c'.state.isParticipating = true) (hrelay : c'.relay = c.relay) (hidle : Idle c c')
    (hequipped : c'.state = .joining ∨ c'.state = .inProgress →
      c'.relay.isSome = true ∧ c'.slots.isSome = true ∧ c'.offer.isSome = true) :
    Lifecycle c' count where
  settled hstate := by
    rw [hstate] at hs'
    cases hs'
  equipped := hequipped
  bare hstate := by
    rw [hs'] at hstate
    cases hstate
  relays := by rw [hidle.openRelays, hrelay, h.relays]
  ended := by rw [hidle.terminations, hs', ← h.ended, hs]
  unfailed t := hidle.unfailed (h.unfailed t)
  givenUp hstate := by
    rw [hstate] at hs'
    cases hs'

/-- We stay where we are. -/
theorem stay (h : Lifecycle c count) (hstays : Stays c c')
    (hbare : c.state.isParticipating = false → Bare c') : Lifecycle c' count where
  settled := by
    rw [hstays.state]
    exact h.settled
  equipped := by
    rw [hstays.state, hstays.relay, hstays.installed, hstays.offer]
    exact h.equipped
  bare := by
    rw [hstays.state]
    exact hbare
  relays := by rw [hstays.idle.openRelays, hstays.relay, h.relays]
  ended := by rw [hstays.idle.terminations, hstays.state, h.ended]
  unfailed t := hstays.idle.unfailed (h.unfailed t)
  givenUp := by
    rw [hstays.state, hstays.cancelled]
    exact h.givenUp

/-- We stay in the participation where we are. -/
theorem stayIn (h : Lifecycle c count) (hs : c.state.isParticipating = true)
    (hstays : Stays c c') : Lifecycle c' count :=
  h.stay hstays fun hstate => by
    rw [hs] at hstate
    cases hstate

theorem aside (h : Lifecycle c count) (haside : Aside c c') : Lifecycle c' count := by
  refine h.stay haside.stays fun hstate => ?_
  have hbare := h.bare hstate
  rw [haside.rest]
  exact ⟨hbare.relay, hbare.slots, hbare.offer, hbare.sessions, hbare.sendKey, hbare.keys,
    hbare.current, hbare.cid, hbare.speaker, hbare.vthumb, hbare.hires⟩

/-- Our participation is over. -/
theorem left (h : Lifecycle c count) (hs : c.state.isParticipating = true) (hleft : Left c c') :
    Lifecycle c' count := by
  obtain ⟨before, after, code, hjournal, hbefore, hafter⟩ := hleft.deeds
  have hbefore : ∀ d ∈ before, d.isIdle = true :=
    fun d hd => CallDeed.isIdle_of_isPlain (hbefore d hd)
  have hafter : ∀ d ∈ after, d.isIdle = true :=
    fun d hd => CallDeed.isIdle_of_isPlain (hafter d hd)
  have hstate : c'.state = .clientNotParticipating := by rw [hleft.rest]
  have hrelay : c'.relay = none := by rw [hleft.rest]
  refine ⟨by simp [hstate], by simp [hstate], fun _ => ?bare, ?relays, ?ended, fun t => ?unfailed,
    by simp [hstate]⟩
  case bare =>
    have hsessions : c'.sessions = .empty := Table.eq_empty_of_get?_eq_none hleft.alone
    rw [hleft.rest] at hsessions ⊢
    exact ⟨rfl, rfl, rfl, hsessions, rfl, rfl, rfl, rfl, rfl, rfl, rfl⟩
  case relays =>
    -- the connection that we had is closed on the way
    rw [openRelays, hjournal, List.foldl_append, ← openRelays, h.relays, hrelay]
    simp only [List.foldl_append, CallDeed.foldl_openRelays_of_isIdle hbefore,
      CallDeed.foldl_openRelays_of_isIdle hafter]
    cases c.relay <;> simp [CallDeed.openRelays]
  case ended =>
    have hclosed : (c.relay.map CallDeed.disconnected).toList.countP CallDeed.ends = 0 := by
      cases c.relay <;> rfl
    rw [terminations, hjournal, List.countP_append, ← terminations, ← h.ended, hstate, hs]
    simp only [List.countP_append, CallDeed.countP_ends_of_isIdle hbefore, hclosed,
      CallDeed.countP_ends_of_isIdle hafter]
    rfl
  case unfailed =>
    have hclosed : .told (.failed (.invalidTransition t)) ∉
        (c.relay.map CallDeed.disconnected).toList := by
      cases c.relay <;> simp
    rw [hjournal]
    simp only [List.mem_append, not_or]
    refine ⟨h.unfailed t, ⟨⟨fun hmem => ?_, hclosed⟩, fun hmem => ?_⟩, by simp⟩
    · cases hbefore _ hmem
    · cases hafter _ hmem

/-- The call is destroyed where we do not take part. -/
theorem destroyed (h : Lifecycle c count) (hs : c.state.isParticipating = false) :
    Lifecycle c.destroyed count := by
  have hidle : Idle c c.destroyed :=
    Idle.of_deed (d := .told (.stateChanged .destroyed)) rfl rfl
  have hbare := h.bare hs
  refine ⟨by simp [Call.destroyed, tell, record], by simp [Call.destroyed, tell, record],
    fun _ => ?_, ?_, ?_, fun t => hidle.unfailed (h.unfailed t), fun _ => rfl⟩
  · exact ⟨hbare.relay, hbare.slots, hbare.offer, hbare.sessions, hbare.sendKey, hbare.keys,
      hbare.current, hbare.cid, hbare.speaker, hbare.vthumb, hbare.hires⟩
  · exact hidle.openRelays.trans h.relays
  · have hended := h.ended
    rw [hs] at hended
    rw [hidle.terminations]
    exact hended

/-! ## Every step -/

theorem begun (h : Lifecycle c count) (hs : c.state.canJoin = true) (av : AvFlags) :
    Lifecycle (c.begun av) (count + 1) := by
  have hidle : Idle c (c.begun av) :=
    Idle.of_deed (d := .told (.stateChanged .connecting)) rfl rfl
  have haway := isParticipating_of_canJoin hs
  refine ⟨by simp [Call.begun, tell, record], by simp [Call.begun, tell, record], fun hstate => ?_,
    hidle.openRelays.trans h.relays, ?_, fun t => hidle.unfailed (h.unfailed t), fun hstate => ?_⟩
  · cases hstate
  · have hended := h.ended
    rw [haway] at hended
    rw [hidle.terminations, ← hended]
    rfl
  · cases hstate

/-- A join that is accepted is counted. -/
theorem entry (h : Lifecycle c count) (hs : c.state.canJoin = true) (hentry : Entry c c') :
    Lifecycle c' (count + 1) := by
  cases hentry with
  | seeking av => exact h.begun hs av
  | refused av hsought hleft =>
    have hsought' := (h.begun hs av).aside hsought
    refine hsought'.left ?_ hleft
    rw [hsought.rest]
    rfl
  | linked av url relay =>
    have hbegun := h.begun hs av
    have haway := isParticipating_of_canJoin hs
    have hnone : (c.begun av).openRelays = [] := by
      rw [hbegun.relays]
      exact congrArg Option.toList (h.bare haway).relay
    refine ⟨hbegun.settled, by simp [record, Call.begun, tell], fun hstate => ?_, ?_, ?_,
      fun t => ?_, fun hstate => ?_⟩
    · cases hstate
    · change ((c.begun av).journal ++ [_] ++ [_]).foldl CallDeed.openRelays [] = [relay]
      rw [List.foldl_append, List.foldl_append, ← openRelays, hnone]
      rfl
    · change ((c.begun av).journal ++ [_] ++ [_]).countP CallDeed.ends + _ = _
      rw [List.countP_append, List.countP_append, ← terminations, ← hbegun.ended]
      rfl
    · have hunfailed := hbegun.unfailed t
      simp only [record, List.mem_append, not_or]
      exact ⟨⟨hunfailed, by simp⟩, by simp⟩
    · cases hstate

/-- Any other step changes nothing about the count. -/
theorem change (h : Lifecycle c count) {step : CallStep} (hchange : Change c w step c') :
    Lifecycle c' count := by
  have hin : c.state = .inProgress → c.state.isParticipating = true := fun hs => by rw [hs]; rfl
  cases hchange with
  | aside haside => exact h.aside haside
  | routine hlink hroutine =>
    exact h.stayIn (hlink.elim h.participating_of_relay hin) hroutine.toWithin.stays
  | up hs hup =>
    refine h.goOn (by rw [hs]; rfl) (by rw [hup.rest]; rfl) (by rw [hup.rest]) hup.plain.idle ?_
    exact fun _ => ⟨by rw [hup.rest]; exact hup.linked, hup.installed, hup.offered⟩
  | lost hs hlost =>
    refine h.goOn (by rcases hs with hs | hs <;> rw [hs] <;> rfl) (by rw [hlost.rest]; rfl)
      (by rw [hlost.rest]) hlost.plain.idle ?_
    rw [hlost.rest]
    simp
  | @answered e hs _ hwithin =>
    -- whoever is let in had asked to be, so the connection and the media are there
    have he := h.stayIn (by rw [hs]; rfl) hwithin.stays
    have hstate : e.state = .joining := hwithin.stays.state.trans hs
    have hin : Lifecycle e.letIn count :=
      he.goOn (by rw [hstate]; rfl) rfl rfl
        (Idle.of_deed (d := .told (.stateChanged .inProgress)) rfl rfl)
        fun _ => he.equipped (Or.inl hstate)
    exact hin.stayIn rfl (stays_rotateOrReport _ w)
  | came hs _ hcame =>
    exact h.stayIn (hin hs) (hcame.toWithin.stays.trans (stays_greetOrReport _ w _))
  | went cid hs _ =>
    have hthinned := (Thinned.removeSession c cid).within.stays
    exact h.stayIn (hin hs) (hthinned.trans (stays_rotateOrReport _ w))
  | rotated _ =>
    by_cases hs : c.state = .inProgress
    · exact h.stayIn (hin hs) (stays_rotateKey c w)
    · obtain ⟨e, heq, -⟩ | ⟨relay, wrapped, hrotates, -⟩ := c.rotateKey_cases w
      · rw [heq]
        exact h
      · exact absurd hrotates.state hs
  | left hs hleft => exact h.left hs hleft
  | destroyed hs _ => exact h.destroyed hs
  | leftDestroyed hs hleft => exact (h.left hs hleft).destroyed (by rw [hleft.rest]; rfl)
  | cancelled =>
    exact ⟨h.settled, h.equipped, fun hs => by
        have hbare := h.bare hs
        exact ⟨hbare.relay, hbare.slots, hbare.offer, hbare.sessions, hbare.sendKey, hbare.keys,
          hbare.current, hbare.cid, hbare.speaker, hbare.vthumb, hbare.hires⟩,
      h.relays, h.ended, h.unfailed, fun _ => rfl⟩

/-- Every step keeps a call in order. -/
theorem take (h : Lifecycle c count) (w : Surroundings) (step : CallStep) :
    Lifecycle (c.take w step) (count + if c.accepts step then 1 else 0) := by
  by_cases haccepts : c.accepts step = true
  · obtain ⟨hs, hentry⟩ := entry_take haccepts w
    rw [if_pos haccepts]
    exact h.entry hs hentry
  · rw [if_neg haccepts]
    exact h.change (change_take h.settled (by simpa using haccepts) w)

/-- Every run keeps a call in order. -/
theorem run (h : Lifecycle c count) (steps : List (Surroundings × CallStep)) :
    Lifecycle (c.run steps) (count + c.joins steps) := by
  induction steps generalizing c count with
  | nil => exact h
  | cons step rest ih =>
    rw [Call.joins, ← Nat.add_assoc]
    exact ih (h.take step.1 step.2)

/-! ## The end -/

/-- What is destroyed refuses every request. -/
theorem perform_of_destroyed (h : Lifecycle c count) (hs : c.state = .destroyed)
    (w : Surroundings) (request : CallRequest) : (c.perform w request).1 = c := by
  have hover : c.state.isDestroyed = true := by rw [hs]; rfl
  by_cases hrelay : request.isForRelay = true
  · obtain heq | ⟨hin, -⟩ := asked_perform c w hrelay
    · exact heq
    · cases hs.symm.trans hin
  · cases request with
    | join av =>
      have hrefused := join_of_not_canJoin (c := c) (by simp [hs, CallState.canJoin]) w av
      exact congrArg Prod.fst hrefused
    | hangup =>
      change c.hangup.1 = c
      rw [hangup, hs]
      rfl
    | abortReconnect =>
      change c.abortReconnect.1 = c
      obtain ⟨e, -, heq⟩ | ⟨relay, hrelay, -⟩ := c.abortReconnect_cases
      · rw [heq]
      · cases (h.bare (by rw [hs]; rfl)).relay.symm.trans hrelay
    | updateAv av =>
      change (c.updateAv w av).1 = c
      obtain ⟨-, heq⟩ | ⟨hopen, -⟩ := c.updateAv_cases w av
      · rw [heq]
      · cases hover.symm.trans hopen
    | rotateKey =>
      obtain ⟨e, heq, -⟩ | ⟨relay, wrapped, hrotates, -⟩ := c.rotateKey_cases w
      · exact congrArg Prod.fst heq
      · cases hs.symm.trans hrotates.state
    | addParticipant user =>
      change (c.addParticipant user).1 = c
      obtain ⟨-, heq⟩ | ⟨hopen, -⟩ := c.addParticipant_cases user
      · rw [heq]
      · cases hover.symm.trans hopen
    | removeParticipant user =>
      change (c.removeParticipant user).1 = c
      obtain ⟨-, heq⟩ | ⟨hopen, -⟩ := c.removeParticipant_cases user
      · rw [heq]
      · cases hover.symm.trans hopen
    | snapshot => rfl
    | destroy =>
      change c.destroy = c
      rw [destroy_eq, hs]
      rfl
    | _ => exact absurd rfl hrelay

/-- Without a key in use no track changes anything. -/
theorem handleFrame_of_currentKey? (hnone : c.keys.currentKey? = none)
    (place : Nat) (bytes : List UInt8) : (c.handleFrame place bytes).1 = c := by
  rw [handleFrame]
  split
  · rfl
  · rfl
  · rfl
  · rw [FrameEncryptor.encrypt, hnone]

/-- What is destroyed does nothing any more. -/
theorem take_of_destroyed (h : Lifecycle c count) (hs : c.state = .destroyed) (w : Surroundings)
    (step : CallStep) : c.take w step = c := by
  have hbare := h.bare (by rw [hs]; rfl)
  cases step with
  | request request => exact h.perform_of_destroyed hs w request
  | event event =>
    rw [Call.take, onRelayEvent, hbare.relay]
    rfl
  | cancel =>
    have hcancelled := h.givenUp hs
    cases c
    cases hcancelled
    rfl
  | frame place bytes =>
    have hnone : c.keys.currentKey? = none := by rw [KeyRing.currentKey?, hbare.current]; rfl
    exact handleFrame_of_currentKey? hnone place bytes

theorem run_of_destroyed (h : Lifecycle c count) (hs : c.state = .destroyed)
    (steps : List (Surroundings × CallStep)) : c.run steps = c := by
  induction steps with
  | nil => rfl
  | cons step rest ih =>
    change (c.take step.1 step.2).run rest = c
    rw [h.take_of_destroyed hs, ih]

end Lifecycle

/-- A new call is in order after every run. -/
theorem lifecycle_run (id : CallId) (chat : ChatId) (us : UserId) (config : CallConfig)
    (secret : IdentitySecret) (callKey : Option MediaKey)
    (steps : List (Surroundings × CallStep)) :
    Lifecycle ((new id chat us config secret callKey).run steps)
      ((new id chat us config secret callKey).joins steps) := by
  have h := (lifecycle_new id chat us config secret callKey).run steps
  rwa [Nat.zero_add] at h

/-- Every run of a new call keeps it in order: it is settled between steps, a connection is
there only while we take part, no request is refused for a step between stages that does not
exist, and nothing happens any more once it is destroyed. -/
theorem lifecycle_along_runs (id : CallId) (chat : ChatId) (us : UserId) (config : CallConfig)
    (secret : IdentitySecret) (callKey : Option MediaKey)
    (steps : List (Surroundings × CallStep)) :
    Lifecycle ((new id chat us config secret callKey).run steps)
        ((new id chat us config secret callKey).joins steps) ∧
      (((new id chat us config secret callKey).run steps).relay.isSome = true →
        ((new id chat us config secret callKey).run steps).state.isParticipating = true) ∧
      (∀ w request t,
        (((new id chat us config secret callKey).run steps).perform w request).2 ≠
          .error (.invalidTransition t)) ∧
      (((new id chat us config secret callKey).run steps).state = .destroyed →
        ∀ later, ((new id chat us config secret callKey).run steps).run later =
          (new id chat us config secret callKey).run steps) := by
  have h := lifecycle_run id chat us config secret callKey steps
  exact ⟨h, h.participating_of_relay, fun w request => lawful_perform _ w request,
    fun hs later => h.run_of_destroyed hs later⟩

end Call
end GroupCall
