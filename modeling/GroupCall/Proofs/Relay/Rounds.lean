/-
# The attempts for which a host is looked up and dialed

Attempts are numbered, and whatever is looked up or dialed carries the number of its attempt.  An
input lets the connection look up and dial for the attempt in progress only, unless it begins
another one.  That happens in three places: where the connection starts, where the delay after a
failed attempt is over, and where an answer names other addresses than those in use.
-/
import GroupCall.Proofs.Relay.Outcomes

namespace GroupCall

/-- The attempt for which an action looks up the host or dials. -/
def RelayAction.round? : RelayAction → Option Nat
  | .lookup round => some round
  | .refresh round => some round
  | .dial round _ => some round
  | _ => none

namespace Turn

variable {t t' : Turn} {before : List Nat} {n : Nat} {link : Link}

/-- The attempts for which something is looked up or dialed in a turn. -/
def sought (t : Turn) : List Nat := t.actions.filterMap RelayAction.round?

theorem connection_update (t : Turn) (f : Connection → Connection) :
    (t.update f).connection = f t.connection := rfl

@[simp] theorem sought_update (t : Turn) (f : Connection → Connection) :
    (t.update f).sought = t.sought := rfl

theorem sought_ask (t : Turn) (action : RelayAction) :
    (t.ask action).sought = t.sought ++ action.round?.toList := by
  cases h : action.round? <;> simp [sought, ask, h]

@[simp] theorem sought_tell (t : Turn) (news : RelayNews) : (t.tell news).sought = t.sought := by
  rw [tell]
  split
  · rw [sought_ask]
    exact List.append_nil _
  · rfl

@[simp] theorem sought_tryTell (t : Turn) (news : RelayNews) :
    (t.tryTell news).sought = t.sought := by
  rw [tryTell]
  split
  · exact sought_tell t news
  · rfl

@[simp] theorem sought_publish (t : Turn) (state : RelayState) :
    (t.publish state).sought = t.sought := by
  rw [publish]
  split
  · rfl
  · rw [sought_tell, sought_update]

/-- News that pass look up and dial nothing. -/
theorem sought_passed (h : Passed t t') : t'.sought = t.sought := by
  obtain ⟨told, -, hactions⟩ := h.actions
  have hnone : (told.map fun n => RelayAction.tell ⟨t.connection.id, n⟩).filterMap
      RelayAction.round? = [] := by
    refine List.filterMap_eq_nil_iff.2 fun action haction => ?_
    obtain ⟨n, -, rfl⟩ := List.mem_map.1 haction
    rfl
  rw [sought, hactions, List.filterMap_append, hnone, List.append_nil, sought]

@[simp] theorem sought_cleared (t : Turn) (link : Link) : (t.cleared link).sought = t.sought := by
  rw [cleared, sought_publish, sought_update, sought_ask]
  exact List.append_nil _

/-- After `before`, everything was sought for the attempt with a number. -/
structure Seeks (before : List Nat) (n : Nat) (t : Turn) : Prop where
  /-- The number of the attempt. -/
  round : t.connection.round = n
  /-- What was sought. -/
  sought : ∃ more, t.sought = before ++ more ∧ ∀ round ∈ more, round = n

/-- Besides, the connection has started. -/
structure Sought (before : List Nat) (n : Nat) (t : Turn) : Prop extends Seeks before n t where
  /-- It has started. -/
  started : t.connection.phase ≠ .idle

namespace Seeks

theorem update (h : t.Seeks before n) {f : Connection → Connection}
    (hround : (f t.connection).round = t.connection.round) : (t.update f).Seeks before n :=
  ⟨hround.trans h.round, h.sought⟩

theorem ask (h : t.Seeks before n) {action : RelayAction}
    (hround : ∀ round ∈ action.round?, round = n) : (t.ask action).Seeks before n := by
  obtain ⟨more, hmore, hall⟩ := h.sought
  refine ⟨h.round, more ++ action.round?.toList, ?_, ?_⟩
  · rw [sought_ask, hmore, List.append_assoc]
  · refine List.forall_mem_append.2 ⟨hall, fun round hmem => hround round ?_⟩
    simpa using hmem

theorem tell (h : t.Seeks before n) (news : RelayNews) : (t.tell news).Seeks before n := by
  refine ⟨?_, ?_⟩
  · rw [connection_tell]
    exact h.round
  · rw [sought_tell]
    exact h.sought

theorem tryTell (h : t.Seeks before n) (news : RelayNews) : (t.tryTell news).Seeks before n := by
  rw [Turn.tryTell]
  split
  · exact h.tell news
  · exact h

theorem publish (h : t.Seeks before n) (state : RelayState) :
    (t.publish state).Seeks before n := by
  refine ⟨?_, ?_⟩
  · rw [connection_publish]
    exact h.round
  · rw [sought_publish]
    exact h.sought

/-- The cache is of no concern. -/
theorem cached (h : t.Seeks before n) (cache : DnsCache) : { t with cache := cache }.Seeks before n :=
  ⟨h.round, h.sought⟩

theorem enter (h : t.Seeks before n) {phase : Phase} (hphase : phase ≠ .idle) :
    (t.enter phase).Sought before n :=
  ⟨h.update rfl, hphase⟩

theorem finish (h : t.Seeks before n) : t.finish.Sought before n := by
  have hended : ((t.update fun c => { c with state := .disconnected }).enter .finished).Sought
      before n := enter (h.update rfl) (by simp)
  refine ⟨hended.tryTell .closed, ?_⟩
  rw [connection_finish]
  simp

theorem giveUp (h : t.Seeks before n) (error : RelayError) : (t.giveUp error).Sought before n :=
  (h.tell _).finish

theorem fail (h : t.Seeks before n) : t.fail.Sought before n := by
  rw [Turn.fail]
  have hpublished : ((t.update fun c => { c with preferV6 := !c.preferV6 }).publish
      .disconnected).Seeks before n := publish (h.update rfl) _
  generalize (t.update fun c => { c with preferV6 := !c.preferV6 }).publish .disconnected = d
    at hpublished
  split
  · exact hpublished.giveUp _
  · split
    · exact hpublished.giveUp _
    · rename_i b _
      have hwaiting : ((d.update fun c => { c with backoff := b }).enter .waiting).Sought
          before n := enter (hpublished.update rfl) (by simp)
      exact ⟨hwaiting.ask (by simp [RelayAction.round?]), hwaiting.started⟩

theorem dial (h : t.Seeks before n) (addresses : Addresses) (cached : Option Addresses) :
    (t.dial addresses cached).Sought before n := by
  rw [Turn.dial]
  split
  · exact h.fail
  · have hdialing : ((t.publish .connecting).enter (.dialing cached)).Sought before n :=
      enter (h.publish _) (by simp)
    refine ⟨hdialing.ask ?_, hdialing.started⟩
    rintro round ⟨⟩
    exact h.round

theorem establish (h : t.Seeks before n) (link : Link) :
    (t.establish link).Sought before n := by
  have hcleared : (t.update fun c => { c with inbox := [], queue := c.queue.clear }).Seeks
      before n := h.update rfl
  rw [Turn.establish]
  exact ⟨(hcleared.publish .connected).update rfl, by simp [Turn.update]⟩

/-! ## While a socket is served -/

theorem passed (h : t.Seeks before n) (hpassed : Passed t t') : t'.Seeks before n := by
  obtain ⟨answers, hconnection⟩ := hpassed.connection
  refine ⟨?_, ?_⟩
  · rw [hconnection]
    exact h.round
  · rw [sought_passed hpassed]
    exact h.sought

theorem enqueue (h : t.Seeks before n) (link : Link) (command : OutboundCommand) :
    (t.enqueue link command).Seeks before n := by
  rw [Turn.enqueue]
  split
  · exact (h.update rfl).ask (by simp [RelayAction.round?])
  · exact h.update rfl
  · exact h

theorem carryOut (h : t.Seeks before n) (link : Link) (request : RelayRequest) :
    (t.carryOut link request).Seeks before n := by
  cases request with
  | send command => exact h.enqueue link command
  | join command =>
    rw [Turn.carryOut]
    split
    · exact (h.publish _).enqueue link command
    · exact h

theorem acknowledge (h : t.Seeks before n) (link : Link) :
    (t.acknowledge link).Seeks before n := by
  rw [Turn.acknowledge]
  dsimp only
  split
  · exact (h.update rfl).ask (by simp [RelayAction.round?])
  · exact h.update rfl

theorem endLink (h : t.Seeks before n) (link : Link) {why : LinkEnd}
    (hwhy : why = .staleAddress → t.connection.cancelled = true) :
    (t.endLink link why).Sought before n := by
  have hdown : ((t.ask (.hangUp link.socket)).update fun c =>
      { c with queue := c.queue.clear }).Seeks before n :=
    (h.ask (by simp [RelayAction.round?])).update rfl
  cases why with
  | closed => exact hdown.finish
  | lost => exact hdown.fail
  | staleAddress =>
    have hcancelled : (((t.ask (.hangUp link.socket)).update fun c =>
        { c with queue := c.queue.clear }).publish .disconnected).connection.cancelled = true := by
      rw [connection_publish]
      exact hwhy rfl
    rw [Turn.endLink, Turn.attempt, if_pos hcancelled]
    exact (hdown.publish _).finish

end Seeks

/-! ## Attempts that begin -/

/-- An attempt that begins is the next one. -/
theorem sought_attempt (hempty : t.sought = []) (hopen : t.connection.cancelled = false) :
    t.attempt.Sought [t.connection.round + 1] (t.connection.round + 1) := by
  have hround : ((t.publish .resolving).update fun c =>
      { c with round := c.round + 1 }).connection.round = t.connection.round + 1 := by
    rw [connection_update, connection_publish]
  have hsought : ((t.publish .resolving).update fun c =>
      { c with round := c.round + 1 }).sought = [] := by
    rw [sought_update, sought_publish, hempty]
  rw [attempt, hopen]
  simp only [Bool.false_eq_true, if_false]
  generalize (t.publish .resolving).update (fun c => { c with round := c.round + 1 }) = d
    at hround hsought
  have hbegun : ∀ action : RelayAction, action.round? = some d.connection.round →
      (d.ask action).Seeks [t.connection.round + 1] (t.connection.round + 1) := by
    intro action haction
    refine ⟨hround, [], ?_, List.forall_mem_nil _⟩
    rw [sought_ask, hsought, haction, hround]
    rfl
  split
  · exact (hbegun _ rfl).dial _ _
  · have hlookup := hbegun (.lookup d.connection.round) rfl
    exact ⟨⟨hlookup.round, hlookup.sought⟩, by simp [ask, enter, update]⟩

/-! ## No attempt begins -/

/-- No attempt begins. -/
structure Stays (t t' : Turn) : Prop where
  /-- Whatever is sought is sought for the attempt in progress. -/
  seeks : t'.Seeks [] t.connection.round
  /-- A connection that has started remains so. -/
  started : t'.connection.phase = .idle → t.connection.phase = .idle
  /-- One that has not remains so, unless the owner has closed it. -/
  idle : t.connection.cancelled = false → t.connection.phase = .idle →
    t'.connection.phase = .idle

namespace Stays

theorem of_phase (h : t'.Seeks [] t.connection.round)
    (hphase : t'.connection.phase = t.connection.phase) : Stays t t' :=
  ⟨h, fun hidle => hphase ▸ hidle, fun _ hidle => hphase.trans hidle⟩

theorem of_sought (h : t'.Sought [] t.connection.round)
    (hphase : t.connection.cancelled = false → t.connection.phase ≠ .idle) : Stays t t' :=
  ⟨h.toSeeks, fun hidle => absurd hidle h.started, fun hopen hidle =>
    absurd hidle (hphase hopen)⟩

end Stays

/-- While a socket is served, only an answer that is out of date begins another attempt. -/
theorem stays_served (hphase : t.connection.phase = .serving link) (hempty : t.sought = [])
    {input : RelayInput} (h : t.connection.begins input = false)
    (houtcome : Outcome t link input t') : Stays t t' := by
  have hseeks : t.Seeks [] t.connection.round := ⟨rfl, [], hempty, List.forall_mem_nil _⟩
  cases houtcome with
  | passes hpassed _ => exact .of_phase (hseeks.passed hpassed) hpassed.phase
  | @takes request rest _ =>
    obtain ⟨queue, state, hconnection⟩ := connection_carryOut
      (t.update fun c => { c with inbox := rest }) link request
    exact .of_phase ((hseeks.update rfl).carryOut link request) (by rw [hconnection]; rfl)
  | acknowledges =>
    obtain ⟨queue, hconnection⟩ := connection_acknowledge t link
    exact .of_phase (hseeks.acknowledge link) (by rw [hconnection])
  | ends hpassed why _ _ hstale =>
    refine .of_sought ((hseeks.passed hpassed).endLink link fun hwhy => ?_) (by simp [hphase])
    obtain ⟨rfl, houtdated⟩ := hstale.1 hwhy
    obtain ⟨answers, hconnection⟩ := hpassed.connection
    rw [hconnection]
    cases hcancelled : t.connection.cancelled with
    | true => rfl
    | false => simp [Connection.begins, hcancelled, houtdated] at h

theorem stays_step (hempty : t.sought = []) {input : RelayInput}
    (h : t.connection.begins input = false) : Stays t (t.step input) := by
  have hseeks : t.Seeks [] t.connection.round := ⟨rfl, [], hempty, List.forall_mem_nil _⟩
  have hended : ∀ {t' : Turn}, t.connection.phase ≠ .idle → t'.Sought [] t.connection.round →
      Stays t t' := fun hidle hsought => .of_sought hsought fun _ => hidle
  have hmove := move_step t input
  generalize t.step input = t' at hmove
  cases hmove with
  | stays => exact .of_phase hseeks rfl
  | arrives => exact .of_phase (hseeks.update rfl) rfl
  | serves hphase hserved => exact stays_served hphase hempty h (outcome_served hserved)
  | begins hbegins =>
    -- the owner has closed the connection
    have hcancelled : t.connection.cancelled = true := by
      rcases hbegins with ⟨hphase, rfl⟩ | ⟨hphase, rfl⟩ <;>
        simpa [Connection.begins, hphase] using h
    rw [attempt, if_pos hcancelled]
    exact .of_sought hseeks.finish (by simp [hcancelled])
  | resolves hphase _ => exact hended (by simp [hphase]) ((hseeks.cached _).dial _ _)
  | opens hphase _ => exact hended (by simp [hphase]) (hseeks.establish _)
  | fails hphase _ =>
    exact hended (by rcases hphase with hphase | hphase <;> simp [hphase]) hseeks.fail
  | forgets hphase _ => exact hended (by simp [hphase]) (hseeks.cached _).fail
  | discards => exact .of_phase (hseeks.update rfl) rfl
  | closes hphase _ =>
    refine hended ?_ hseeks.finish
    rcases hphase with hphase | ⟨cached, hphase⟩ | hphase <;> simp [hphase]
  | surrenders hphase _ => exact hended (by simp [hphase]) (hseeks.giveUp _)

/-- An input that begins an attempt begins the next one. -/
theorem begins_step (hempty : t.sought = []) {input : RelayInput}
    (h : t.connection.begins input = true) :
    (t.step input).Sought [t.connection.round + 1] (t.connection.round + 1) := by
  cases input with
  | start =>
    simp only [Connection.begins, Bool.and_eq_true, Bool.not_eq_true', decide_eq_true_eq] at h
    obtain ⟨hopen, hphase⟩ := h
    have hstep : t.step .start = t.attempt := by
      unfold step
      rw [hphase]
      rfl
    rw [hstep]
    exact sought_attempt hempty hopen
  | retryDue =>
    simp only [Connection.begins, Bool.and_eq_true, Bool.not_eq_true', decide_eq_true_eq] at h
    obtain ⟨hopen, hphase⟩ := h
    have hstep : t.step .retryDue = t.attempt := by
      unfold step
      rw [hphase]
      rfl
    rw [hstep]
    exact sought_attempt hempty hopen
  | takeAnswer =>
    simp only [Connection.begins, Bool.and_eq_true, Bool.not_eq_true'] at h
    obtain ⟨hopen, hstale⟩ := h
    obtain ⟨link, known, fresh, rest, hstale⟩ := exists_stale hstale
    have hafter := sought_attempt (t := ((t.answered rest).store fresh).cleared link)
    rw [sought_cleared, connection_cleared] at hafter
    rw [hstale.step]
    exact hafter hempty hopen
  | _ => cases h

end Turn
end GroupCall
