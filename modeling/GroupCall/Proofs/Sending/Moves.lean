/-
# How a participation moves on

Every step is one of a few moves of our participation: it goes on where it stands, and at most
one command is handed to the relay for it; our flags or a wish of the relay change; it begins; we
ask to be let in; we are let in; the link is lost; it ends; the call is destroyed.  For each of
them this file says where the call stands afterwards and what was done about the participation,
deed by deed.  What we send, and what is handed to the relay, follows from these cases alone.
-/
import GroupCall.Proofs.Sending.Gates

namespace GroupCall
namespace Call

variable {c c' c'' d e : Call} {w : Surroundings} {relay count : Nat} {av : AvFlags}

/-! ## Commands that are handed to the relay -/

/-- Whether a command may be handed to the relay in the call.  It is no request to join, and
another participant's speaking is the matter of a moderator and of a participant that is
connected. -/
def MaySend (c : Call) (command : OutboundCommand) : Prop :=
  command.isJoin = false ∧
    ∀ cid, command.named? = some cid → c.isModerator = true ∧ c.sessions.contains cid = true

/-- Whether a command hands out a key. -/
def IsKey (command : OutboundCommand) : Prop := ∃ id wrapped, command = .key id wrapped

/-- The participation goes on, and at most one command of a kind is handed to our connection, in
the call. -/
inductive Sent (P : OutboundCommand → Prop) (c c' : Call) : Prop
  /-- Nothing is handed over. -/
  | nothing (h : Onward [] c c')
  /-- A command is. -/
  | command {relay : Nat} {command : OutboundCommand} (hs : c.state = .inProgress)
    (hrelay : c.relay = some relay) (hp : P command)
    (h : Onward [.posted relay (.send command)] c c')

variable {P : OutboundCommand → Prop}

theorem maySend_of_isKey {command : OutboundCommand} (h : IsKey command) : c.MaySend command := by
  obtain ⟨id, wrapped, rfl⟩ := h
  exact ⟨rfl, fun cid hcid => by cases hcid⟩

theorem Sent.mono {Q : OutboundCommand → Prop} (h : Sent P c c')
    (hq : ∀ command, P command → Q command) : Sent Q c c' := by
  cases h with
  | nothing h => exact .nothing h
  | command hs hrelay hp h => exact .command hs hrelay (hq _ hp) h

theorem Sent.next (h : Sent P c c') (h' : Onward [] c' c'') : Sent P c c'' := by
  cases h with
  | nothing h => exact .nothing (h.next h')
  | command hs hrelay hp h => exact .command hs hrelay hp (h.next h')

theorem Sent.state_eq (h : Sent P c c') : c'.state = c.state := by
  cases h with
  | nothing h => exact h.state_eq
  | command _ _ _ h => exact h.state_eq

theorem Sent.relay_eq (h : Sent P c c') : c'.relay = c.relay := by
  cases h with
  | nothing h => exact h.relay_eq
  | command _ _ _ h => exact h.relay_eq

theorem Sent.offer_eq (h : Sent P c c') : c'.offer = c.offer := by
  cases h with
  | nothing h => exact h.offer_eq
  | command _ _ _ h => exact h.offer_eq

theorem Sent.isWanted_eq (h : Sent P c c') {role : SlotRole} (hrole : role ≠ .audio) :
    c'.isWanted role = c.isWanted role := by
  cases h with
  | nothing h => exact h.isWanted_eq hrole
  | command _ _ _ h => exact h.isWanted_eq hrole

theorem Onward.sent (h : Onward [] c c') (h' : Sent P c' c'') : Sent P c c'' := by
  cases h' with
  | nothing h' => exact .nothing (h.trans h')
  | command hs hrelay hp h' =>
    exact .command (h.state_eq.symm.trans hs) (h.relay_eq.symm.trans hrelay) hp (h.trans h')

/-! ### Keys -/

theorem sent_rotateKey (c : Call) (w : Surroundings) : Sent IsKey c (c.rotateKey w).1 := by
  obtain ⟨e, heq, -⟩ | ⟨relay, wrapped, hrotates, heq⟩ := c.rotateKey_cases w <;> rw [heq]
  · exact .nothing (Onward.refl c)
  · exact .command hrotates.state hrotates.relay ⟨_, _, rfl⟩
      ((Onward.post c relay _).next (Onward.useKey _ w.key))

theorem sent_rotateOrReport (c : Call) (w : Surroundings) : Sent IsKey c (c.rotateOrReport w) := by
  have hrotated := sent_rotateKey c w
  rw [rotateOrReport]
  split <;> rename_i heq <;> rw [heq] at hrotated
  · exact hrotated
  · exact hrotated.next (Onward.report _ _)

theorem sent_greetOrReport (hs : c.state = .inProgress) (w : Surroundings) (cid : Cid) :
    Sent IsKey c (c.greetOrReport w cid) := by
  have hsent : Sent IsKey c (c.sendKeyTo w cid).1 := by
    obtain ⟨-, heq⟩ | ⟨e, heq⟩ | ⟨s, id, plain, relay, bytes, -, -, -, hrelay, heq⟩ :=
      c.sendKeyTo_cases w cid <;> rw [heq]
    · exact .nothing (Onward.refl c)
    · exact .nothing (Onward.refl c)
    · exact .command hs hrelay ⟨_, _, rfl⟩ (Onward.post c relay _)
  rw [greetOrReport]
  split <;> rename_i heq <;> rw [heq] at hsent
  · exact hsent
  · exact hsent.next (Onward.report _ _)

/-! ### Requests -/

/-- A command that names nobody else's speaking needs no condition. -/
theorem maySend_of_named?_eq_none {command : OutboundCommand} (hjoin : command.isJoin = false)
    (hnone : command.named? = none) : c.MaySend command := by
  refine ⟨hjoin, fun cid hcid => ?_⟩
  rw [hnone] at hcid
  cases hcid

theorem sent_command {operation : String} {find : Call → Except CallError OutboundCommand}
    {follow : Call → Call} (h : ∀ found, find c = .ok found → c.MaySend found)
    (hfollow : ∀ d : Call, d.state = .inProgress → Onward [] d (follow d)) :
    Sent c.MaySend c (c.attempt (command w operation find follow)).1 := by
  refine command_invariant (.nothing (Onward.refl c)) fun relay found hs hfind hrelay => ?_
  have hposted := Onward.post c relay (.send found)
  exact .command hs hrelay (h found hfind) (hposted.next (hfollow _ (hposted.state_eq.trans hs)))

/-- A command that is the same whatever the call is like. -/
theorem sent_fixed {operation : String} {found : OutboundCommand} {follow : Call → Call}
    (hjoin : found.isJoin = false) (hnone : found.named? = none)
    (hfollow : ∀ d : Call, d.state = .inProgress → Onward [] d (follow d)) :
    Sent c.MaySend c (c.attempt (command w operation (fun _ => .ok found) follow)).1 :=
  sent_command (fun _ hfind => by cases hfind; exact maySend_of_named?_eq_none hjoin hnone) hfollow

/-- A command about another participant's speaking is checked to come from a moderator, and to
name somebody who is connected. -/
theorem sent_moderate {operation : String} (cid : Cid) {found : OutboundCommand}
    {follow : Call → Call} (hjoin : found.isJoin = false) (hnamed : found.named? = some cid)
    (hfollow : ∀ d : Call, d.state = .inProgress → Onward [] d (follow d)) :
    Sent c.MaySend c (c.attempt (moderate w operation
      (fun c => (c.requireSession cid).map fun _ => found) follow)).1 := by
  refine moderate_invariant (.nothing (Onward.refl c)) fun hmoderator =>
    sent_command (fun found' hfind => ?_) hfollow
  rw [requireSession] at hfind
  split at hfind <;> cases hfind
  rename_i s hs
  refine ⟨hjoin, fun cid' hcid' => ?_⟩
  cases hnamed.symm.trans hcid'
  exact ⟨hmoderator, by rw [Table.contains, hs]; rfl⟩

theorem sent_requestSpeaker (c : Call) (w : Surroundings) (add : Bool) :
    Sent c.MaySend c (c.requestSpeaker w add).1 := by
  rw [requestSpeaker]
  split <;> refine sent_fixed rfl rfl fun d hs => ?_ <;> split
  · rename_i hnone
    exact Onward.setSpeaker d (.inr hs) (by simp [hnone]) (by simp)
  · exact Onward.refl d
  · rename_i hpending
    exact Onward.setSpeaker d (.inl rfl) (by simp [hpending]) (by simp)
  · exact Onward.refl d

theorem sent_stopSpeak (c : Call) (w : Surroundings) (cid : Cid) :
    Sent c.MaySend c (c.stopSpeak w cid).1 := by
  rw [stopSpeak]
  split
  · exact sent_fixed rfl rfl fun d _ => Onward.speak d (.inl rfl)
  · exact sent_moderate cid rfl rfl fun d _ => Onward.refl d

theorem sent_perform (c : Call) (w : Surroundings) {request : CallRequest}
    (h : request.isForRelay = true) : Sent c.MaySend c (c.perform w request).1 := by
  cases request with
  | requestSpeaker add => exact sent_requestSpeaker c w add
  | approveSpeakRequest cid allow =>
    refine sent_moderate cid ?_ ?_ fun d _ => Onward.setSpeakRequested d cid false
    · split <;> rfl
    · split <;> rfl
  | stopSpeak cid => exact sent_stopSpeak c w cid
  | getHires cid quality =>
    refine sent_command (fun found hfind => ?_) fun d _ => Onward.refl d
    rw [requireSession] at hfind
    split at hfind <;> cases hfind
    exact maySend_of_named?_eq_none rfl rfl
  | delHires cids =>
    exact sent_fixed rfl rfl fun d _ => Onward.of_rewired (Rewired.releaseRoles d .hires cids)
      (Spares.releaseRoles d .hires cids)
  | delVthumbs cids =>
    exact sent_fixed rfl rfl fun d _ => Onward.of_rewired (Rewired.releaseRoles d .vthumb cids)
      (Spares.releaseRoles d .vthumb cids)
  | getVthumbs _ | setHiresQuality _ _ | setLayer _ _ _ =>
    exact sent_fixed rfl rfl fun d _ => Onward.refl d
  | _ => cases h

theorem standing_withFlags (c : Call) (av : AvFlags) :
    (c.withFlags av).standing = { c.standing with av := av } :=
  standing_of_rewired (Rewired.applyLocalAv { c with av := av })

theorem sent_updateAv (hopen : c.state.isDestroyed = false) (w : Surroundings) (av : AvFlags) :
    Sent c.MaySend (c.withFlags av) (c.updateAv w av).1 := by
  obtain ⟨hover, -⟩ | ⟨-, heq | ⟨relay, hs, hrelay, heq⟩⟩ := c.updateAv_cases w av
  · cases hopen.symm.trans hover
  · rw [heq]
    exact .nothing (Onward.refl _)
  · rw [heq]
    exact .command ((state_withFlags c av).trans hs) ((relay_withFlags c av).trans hrelay)
      ⟨rfl, fun cid hcid => by cases hcid⟩ (Onward.post _ relay _)

/-! ## Wishes of the relay -/

/-- The call with a wish of the relay for our video. -/
def wish (c : Call) : SlotRole → Bool → Call
  | .audio, _ => c
  | .vthumb, on => { c with vthumbWanted := on }
  | .hires, on => { c with hiresWanted := on }

/-- A wish is of no concern to our stage, our link and what we offer. -/
theorem standing_wished (c : Call) (role : SlotRole) (on : Bool) :
    ∃ vthumb hires, (c.wish role on).applyLocalAv.standing =
      { c.standing with vthumbWanted := vthumb, hiresWanted := hires } := by
  rw [standing_of_rewired (Rewired.applyLocalAv _)]
  cases role <;> exact ⟨_, _, rfl⟩

theorem deliverCommand_of_wish? {command : Command} {role : SlotRole} {on : Bool}
    (h : command.wish? = some (role, on)) (w : Surroundings) :
    ((receiver w).deliverCommand command c).1 = (c.wish role on).applyLocalAv := by
  cases command <;> cases h <;> rfl

/-! ## The participation begins -/

/-- The call with a connection that was just opened. -/
def linkedTo (c : Call) (url : String) (relay : Nat) : Call :=
  { c.record (.sought url) with relay := some relay }.record (.connected relay url)

theorem standing_begun (c : Call) (av : AvFlags) : (c.begun av).standing = { c.standing with
    state := .connecting, av := av
    outward := c.outward ++ [.told (.stateChanged .connecting)] } := by
  have houtward : (c.begun av).outward = _ :=
    outward_record { c with av := av, state := .connecting } (.told (.stateChanged .connecting))
  simp only [standing, houtward]
  simp [begun, tell, record, CallDeed.isOutward, outward]

theorem standing_linkedTo (c : Call) (url : String) (relay : Nat) :
    (c.linkedTo url relay).standing = { c.standing with
      relay := some relay, outward := c.outward ++ [.connected relay url] } := by
  have houtward : (c.linkedTo url relay).outward = _ :=
    outward_record { c.record (.sought url) with relay := some relay } (.connected relay url)
  simp only [standing, houtward]
  simp [linkedTo, record, CallDeed.isOutward, outward]

/-! ## The participation ends -/

/-- The deeds by which a participation on a connection ends. -/
def farewell (relay : Option Nat) (code : TermCode) : List CallDeed :=
  .told (.stateChanged .terminatingParticipation) :: (relay.map CallDeed.disconnected).toList ++
    [.told (.stateChanged .clientNotParticipating), .told (.terminated code)]

theorem outward_moveTo {next : CallState} (h : c.state.canTransition next = true) :
    (c.moveTo next).outward = c.outward ++ [.told (.stateChanged next)] := by
  rw [moveTo_eq h]
  exact outward_record { c with state := next } (.told (.stateChanged next))

theorem standing_dropRelay (c : Call) : c.dropRelay.standing = { c.standing with
    relay := none, outward := c.outward ++ (c.relay.map CallDeed.disconnected).toList } := by
  have houtward : c.dropRelay.outward =
      c.outward ++ (c.relay.map CallDeed.disconnected).toList := by
    rw [dropRelay_eq, outward, List.filter_append]
    cases c.relay <;> rfl
  simp only [standing, houtward]
  rw [dropRelay_eq]

theorem standing_closeMedia (c : Call) :
    c.closeMedia.standing = { c.standing with installed := false } := by
  obtain ⟨engine, hclosed⟩ := closeMedia_eq c
  rw [hclosed]
  rfl

theorem outward_quit (hs : c.state = .terminatingParticipation) (code : TermCode) :
    (c.quit code).outward = c.outward ++ (c.relay.map CallDeed.disconnected).toList ++
      [.told (.stateChanged .clientNotParticipating), .told (.terminated code)] := by
  have hclosed := standing_closeMedia c.dropRelay.clearSessions
  rw [(Spares.clearSessions c.dropRelay).standing, standing_dropRelay] at hclosed
  have hsilent := (Spares.setSpeaker
    c.dropRelay.clearSessions.closeMedia.forgetParticipation .none).standing
  rw [quit]
  -- what is cleared between the two stages tells nothing of the participation
  generalize c.dropRelay.clearSessions.closeMedia = d at hclosed hsilent
  have hforgot : d.forgetParticipation.standing =
      { d.standing with offer := none, vthumbWanted := false, hiresWanted := false } := rfl
  rw [hforgot, hclosed] at hsilent
  generalize d.forgetParticipation.setSpeaker .none = e at hsilent
  have hstate : e.state = c.state := congrArg Standing.state hsilent
  have houtward : e.outward = c.outward ++ (c.relay.map CallDeed.disconnected).toList :=
    congrArg Standing.outward hsilent
  rw [tell, outward_record, outward_moveTo (by rw [hstate, hs]; rfl), houtward]
  simp [CallDeed.isOutward]

theorem outward_leave (hs : c.state.isParticipating = true) (code : TermCode) :
    (c.leave code).outward = c.outward ++ farewell c.relay code := by
  have hmove : c.state.canTransition .terminatingParticipation = true := by
    cases hstate : c.state <;> simp_all [CallState.isParticipating, CallState.canTransition]
  have hleaving : c.leaving = c.moveTo .terminatingParticipation := by rw [leaving, if_pos hs]
  have hstate : c.leaving.state = .terminatingParticipation := by
    rw [hleaving, moveTo_eq hmove]
    rfl
  have hrelay : c.leaving.relay = c.relay := by
    rw [hleaving, moveTo_eq hmove]
    rfl
  rw [leave_eq, if_pos hstate, outward_quit hstate, hrelay, hleaving, outward_moveTo hmove,
    farewell]
  simp

/-- Nothing is left of a participation that is over. -/
theorem standing_leave (hs : c.state.isParticipating = true) (code : TermCode) :
    (c.leave code).standing =
      ⟨.clientNotParticipating, none, false, none, c.config, (c.leave code).av, false, false,
        c.outward ++ farewell c.relay code⟩ := by
  have hrest := (left_leave hs code).rest
  have houtward := outward_leave hs code
  simp only [standing, houtward]
  rw [hrest]
  rfl

theorem standing_destroyed (c : Call) : c.destroyed.standing = { c.standing with
    state := .destroyed, outward := c.outward ++ [.told (.stateChanged .destroyed)] } := by
  have houtward : c.destroyed.outward = _ :=
    outward_record { c with state := .destroyed } (.told (.stateChanged .destroyed))
  simp only [standing, houtward]
  rfl

/-! ## The link is lost -/

/-- The call after the wishes of the relay are forgotten and we are silent. -/
def hushed (c : Call) : Call :=
  ({ c.clearSessions with vthumbWanted := false, hiresWanted := false }.setSpeaker
    .none).applyLocalAv

theorem standing_hushed (c : Call) :
    c.hushed.standing = { c.standing with vthumbWanted := false, hiresWanted := false } := by
  have hcleared := (Spares.clearSessions c).standing
  have hforgot : ({ c.clearSessions with
      vthumbWanted := false, hiresWanted := false } : Call).standing =
        { c.clearSessions.standing with vthumbWanted := false, hiresWanted := false } := rfl
  rw [hushed, standing_of_rewired (Rewired.applyLocalAv _), (Spares.setSpeaker _ .none).standing,
    hforgot, hcleared]

theorem speaker_hushed (c : Call) : c.hushed.speaker = .none := by
  obtain ⟨deeds, heq, -⟩ := setSpeaker_eq
    { c.clearSessions with vthumbWanted := false, hiresWanted := false } .none
  rw [hushed, speaker_of_rewired (Rewired.applyLocalAv _), heq]

theorem Gated.hushed (h : Gated c) : Gated c.hushed := by
  have hcleared := h.toKeyed.spares (Spares.clearSessions c)
  have hforgot : Keyed { c.clearSessions with vthumbWanted := false, hiresWanted := false } :=
    ⟨hcleared.seated, hcleared.offered, hcleared.ivs⟩
  exact (hforgot.spares (Spares.setSpeaker _ .none)).applyLocalAv

/-- Only the stage is another one, and that is told. -/
theorem Gated.moveTo (h : Gated c) (next : CallState) : Gated (c.moveTo next) := by
  rw [Call.moveTo, setState]
  split
  · exact ⟨⟨h.seated, h.offered, h.ivs⟩, h.gates⟩
  · exact h

theorem standing_moveTo {next : CallState} (h : c.state.canTransition next = true) :
    (c.moveTo next).standing = { c.standing with
      state := next, outward := c.outward ++ [.told (.stateChanged next)] } := by
  have houtward := outward_moveTo h
  simp only [standing, houtward]
  rw [moveTo_eq h]
  rfl

theorem linkLost_eq (hs : c.state = .joining ∨ c.state = .inProgress) :
    c.linkLost = c.hushed.moveTo .connecting := by
  rw [linkLost, if_pos hs]
  rfl

theorem standing_linkLost (hs : c.state = .joining ∨ c.state = .inProgress) :
    c.linkLost.standing = { c.standing with
      state := .connecting, vthumbWanted := false, hiresWanted := false
      outward := c.outward ++ [.told (.stateChanged .connecting)] } := by
  have hhushed := standing_hushed c
  have hstate : c.hushed.state = c.state := congrArg Standing.state hhushed
  have houtward : c.hushed.outward = c.outward := congrArg Standing.outward hhushed
  rw [linkLost_eq hs, standing_moveTo, hhushed, houtward]
  rw [hstate]
  rcases hs with hs | hs <;> rw [hs] <;> rfl

theorem speaker_moveTo (c : Call) (next : CallState) : (c.moveTo next).speaker = c.speaker := by
  rw [moveTo, setState]
  split <;> rfl

/-! ## We ask to be let in -/

/-- The call after it has asked its connection to be let in with an offer. -/
def asking (c : Call) (relay : Nat) (offer : Sdp × SendIvs) : Call :=
  (c.post relay (c.joinRequest offer.1 offer.2)).moveTo .joining

theorem standing_asking (hs : c.state = .connecting) (relay : Nat) (offer : Sdp × SendIvs) :
    (c.asking relay offer).standing = { c.standing with
      state := .joining
      outward := c.outward ++ [.posted relay (c.joinRequest offer.1 offer.2),
        .told (.stateChanged .joining)] } := by
  have hposted := Onward.post c relay (c.joinRequest offer.1 offer.2)
  rw [asking, standing_moveTo (by rw [hposted.state_eq, hs]; rfl), hposted.standing,
    hposted.outward_eq, List.append_assoc]
  rfl

theorem Gated.asking (h : Gated c) (relay : Nat) (offer : Sdp × SendIvs) :
    Gated (c.asking relay offer) :=
  ((Onward.post c relay (c.joinRequest offer.1 offer.2)).gated h).moveTo .joining

/-- What setting up our media leaves as it is. -/
theorem standing_ensureMedia (c : Call) (w : Surroundings) :
    (c.ensureMedia w).1.state = c.state ∧ (c.ensureMedia w).1.relay = c.relay ∧
      (c.ensureMedia w).1.outward = c.outward := by
  obtain ⟨engine, heq, -⟩ | ⟨slots, offer, engine, -, heq⟩ := ensureMedia_cases c w <;> rw [heq] <;>
    exact ⟨rfl, rfl, rfl⟩

/-- Media that are set up are those that were set up before, if there were any. -/
theorem standing_of_ensureMedia (h : Gated c) (hok : (c.ensureMedia w).2 = .ok ()) :
    ∃ offer, (c.ensureMedia w).1.standing = { c.standing with
        installed := true, offer := some offer } ∧
      (c.ensureMedia w).1.speaker = c.speaker ∧ (c.slots.isSome = true → c.offer = some offer) := by
  have hoffering : Offering c := fun hslots => h.offered.trans hslots
  obtain ⟨slots, offer, engine, heq⟩ := hoffering.ensureMedia hok
  refine ⟨offer, by rw [heq]; rfl, by rw [heq], fun hslots => ?_⟩
  obtain ⟨s, hs⟩ := Option.isSome_iff_exists.1 hslots
  rw [ensureMedia, hs] at heq
  exact congrArg Call.offer heq

/-- What comes of asking to be let in. -/
theorem sendJoin_cases_asking (hs : c.state = .connecting) (w : Surroundings) :
    (∃ e, c.sendJoin w = (c, .error e)) ∨ ∃ relay offer, c.relay = some relay ∧
      c.offer = some offer ∧ c.sendJoin w = (c.asking relay offer, .ok ()) := by
  obtain ⟨e, heq⟩ | ⟨relay, sdp, ivs, hoffer, hrelay, heq⟩ := c.sendJoin_cases w
  · exact .inl ⟨e, heq⟩
  · refine .inr ⟨relay, (sdp, ivs), hrelay, hoffer, ?_⟩
    rw [heq]
    simp only [asking, moveTo, setState_joining hs]

/-! ## We are let in -/

theorem standing_goIn (c : Call) : c.goIn.standing = { c.standing with
    state := .inProgress, outward := c.outward ++ [.told (.stateChanged .inProgress)] } := by
  have houtward : ({ c with state := .inProgress }.tell (.stateChanged .inProgress)).outward = _ :=
    outward_record { c with state := .inProgress } (.told (.stateChanged .inProgress))
  rw [goIn, standing_of_rewired (Rewired.applyLocalAv _)]
  simp only [standing, houtward]
  rfl

theorem Keyed.goIn (h : Keyed c) : Gated c.goIn :=
  Keyed.applyLocalAv ⟨h.seated, h.offered, h.ivs⟩

/-! ## Every step is a move -/

/-- What a step does to our participation. -/
inductive Move (c : Call) (w : Surroundings) (step : CallStep) : Call → Prop
  /-- It goes on, and at most one command is handed over for it. -/
  | sent {c' : Call} (h : Sent c.MaySend c c') : Move c w step c'
  /-- Our flags change. -/
  | flags {av : AvFlags} {c' : Call} (hstep : step = .request (.updateAv av))
    (h : Sent c.MaySend (c.withFlags av) c') : Move c w step c'
  /-- The relay says whether it wants our video. -/
  | wished {relay : Nat} {command : Command} {role : SlotRole} {on : Bool}
    (hrelay : c.relay = some relay) (hstep : step = .event ⟨relay, .frame (.command command)⟩)
    (hwish : command.wish? = some (role, on)) : Move c w step (c.wish role on).applyLocalAv
  /-- It begins, and the relay is not found yet. -/
  | begun {av : AvFlags} (hs : c.state.canJoin = true) (hstep : step = .request (.join av)) :
    Move c w step (c.begun av)
  /-- It begins with a connection. -/
  | linked {av : AvFlags} (url : String) (relay : Nat) (hs : c.state.canJoin = true)
    (hstep : step = .request (.join av)) : Move c w step ((c.begun av).linkedTo url relay)
  /-- It begins, and ends at once. -/
  | refused {av : AvFlags} {d : Call} {code : TermCode} (hs : c.state.canJoin = true)
    (hstep : step = .request (.join av)) (h : Spares (c.begun av) d) :
    Move c w step (d.leave code)
  /-- The socket is open, and we ask to be let in with media that are set up now or were set up
  before. -/
  | up {relay : Nat} {offer : Sdp × SendIvs} {d : Call} (hs : c.state = .connecting)
    (hrelay : c.relay = some relay) (hstep : step = .event ⟨relay, .stateChanged .connected⟩)
    (hd : d.standing = { c.standing with installed := true, offer := some offer })
    (hspeaker : d.speaker = c.speaker) (hkept : c.slots.isSome = true → c.offer = some offer)
    (hgated : Gated d) : Move c w step (d.asking relay offer)
  /-- We are let in, and everybody is sent our key if that is possible. -/
  | letIn {relay : Nat} {answer : Answer} {d c' : Call} (hs : c.state = .joining)
    (hrelay : c.relay = some relay)
    (hstep : step = .event ⟨relay, .frame (.command (.answer answer))⟩) (hd : Spares c d)
    (h : Sent IsKey d.goIn c') : Move c w step c'
  /-- The link is lost. -/
  | lost {relay : Nat} (hs : c.state = .joining ∨ c.state = .inProgress)
    (hrelay : c.relay = some relay)
    (hstep : step = .event ⟨relay, .stateChanged .disconnected⟩) : Move c w step c.linkLost
  /-- It ends. -/
  | left {d : Call} {code : TermCode} (hs : c.state.isParticipating = true)
    (hstate : d.state = c.state) (hrelay : d.relay = c.relay) (houtward : d.outward = c.outward) :
    Move c w step (d.leave code)
  /-- The call is destroyed where we do not take part. -/
  | destroyed (hs : c.state.isParticipating = false) (halive : c.state.isDestroyed = false) :
    Move c w step c.destroyed
  /-- The call is destroyed while we take part. -/
  | leftDestroyed {code : TermCode} (hs : c.state.isParticipating = true) :
    Move c w step (c.leave code).destroyed

variable {step : CallStep}

theorem move_onward (h : Onward [] c c') : Move c w step c' := .sent (.nothing h)

theorem move_key (h : Sent IsKey c c') : Move c w step c' :=
  .sent (h.mono fun _ => maySend_of_isKey)

theorem move_left (hs : c.state.isParticipating = true) (h : Onward [] c d) (code : TermCode) :
    Move c w step (d.leave code) :=
  .left hs h.state_eq h.relay_eq (by rw [h.outward_eq, List.append_nil])

theorem move_join {av : AvFlags} (hs : c.state.canJoin = true) (w : Surroundings) :
    Move c w (.request (.join av)) (c.join w av).1 := by
  rw [join_of_canJoin hs]
  split
  · rename_i answer _
    cases answer with
    | error reason => exact .refused hs rfl (Spares.refl _)
    | ok url =>
      have hsought : Spares (c.begun av) ((c.begun av).record (.sought url)) := Spares.record rfl _
      rw [connect]
      split
      · exact .refused hs rfl hsought
      · exact .linked url _ hs rfl
  · exact .begun hs rfl

theorem move_destroy : Move c w step c.destroy := by
  rw [destroy_eq]
  split
  · exact move_onward (Onward.refl c)
  · rename_i halive
    rw [departed]
    by_cases hs : c.state.isParticipating = true
    · rw [if_pos hs, setState_destroyed (by rw [(left_leave hs _).rest]; rfl)]
      exact .leftDestroyed hs
    · rw [if_neg hs, setState_destroyed (by simpa using halive)]
      exact .destroyed (by simpa using hs) (by simpa using halive)

theorem move_perform (c : Call) (w : Surroundings) (request : CallRequest) :
    Move c w (.request request) (c.perform w request).1 := by
  by_cases hrelay : request.isForRelay = true
  · exact .sent (sent_perform c w hrelay)
  · cases request with
    | join av =>
      by_cases hs : c.state.canJoin = true
      · exact move_join hs w
      · have hrefused : (c.perform w (.join av)).1 = c :=
          congrArg Prod.fst (join_of_not_canJoin hs w av)
        rw [hrefused]
        exact move_onward (Onward.refl c)
    | hangup =>
      change Move c w _ c.hangup.1
      rw [hangup]
      split
      · rename_i hs
        exact move_left hs (Onward.refl c) _
      · exact move_onward (Onward.refl c)
    | abortReconnect =>
      exact move_onward (Onward.aside (aside_abortReconnect c) (Spares.abortReconnect c))
    | updateAv av =>
      by_cases hopen : c.state.isDestroyed = true
      · have hrefused : (c.perform w (.updateAv av)).1 = c := by
          obtain ⟨-, heq⟩ | ⟨hover, -⟩ := c.updateAv_cases w av
          · exact congrArg Prod.fst heq
          · cases hopen.symm.trans hover
        rw [hrefused]
        exact move_onward (Onward.refl c)
      · exact .flags rfl (sent_updateAv (by simpa using hopen) w av)
    | rotateKey => exact move_key (sent_rotateKey c w)
    | addParticipant user =>
      exact move_onward (Onward.aside (aside_addParticipant c user) (Spares.addParticipant c user))
    | removeParticipant user =>
      exact move_onward
        (Onward.aside (aside_removeParticipant c user) (Spares.removeParticipant c user))
    | snapshot => exact move_onward (Onward.refl c)
    | destroy => exact move_destroy
    | _ => exact absurd rfl hrelay

/-! ### News of the connection -/

theorem move_onAnswer (hrelay : c.relay = some relay) (w : Surroundings) (answer : Answer) :
    Move c w (.event ⟨relay, .frame (.command (.answer answer))⟩) (c.onAnswer w answer).1 := by
  by_cases hs : c.state = .joining
  · have hremote := Spares.setRemote c w answer.sdp
    obtain ⟨e, -, heq⟩ | ⟨-, heq⟩ := onAnswer_fst hs w answer <;> rw [heq]
    · have hspeaker : (c.setRemote w answer.sdp).1.speaker = c.speaker := by
        rw [Call.setRemote]
        split
        · rfl
        · split <;> rfl
      exact move_onward ((Onward.of_spares hremote hspeaker).next (Onward.report _ e))
    · refine .letIn hs hrelay rfl ?_ (sent_rotateOrReport _ w)
      exact (hremote.trans (Spares.takeRoster _ answer)).trans
        (Spares.foldl (fun c e => Spares.admitSpeaker c e.1 e.2) answer.speakers.entries _)
  · rw [onAnswer, if_neg hs]
    exact move_onward (Onward.refl c)

theorem move_onPeerJoin (w : Surroundings) (peer : PeerInfo) :
    Move c w step (c.onPeerJoin w peer).1 := by
  have hadded := Onward.addSession c peer
  rw [onPeerJoin, inCall]
  split
  · rename_i hs
    split <;> rename_i heq <;> rw [heq] at hadded
    · exact move_onward hadded
    · rename_i d
      have hgreeted : Move c w step (d.greetOrReport w peer.cid) :=
        move_key (hadded.sent (sent_greetOrReport (hadded.state_eq.trans hs) w peer.cid))
      rw [greetOrReport] at hgreeted
      generalize d.sendKeyTo w peer.cid = outcome at hgreeted ⊢
      obtain ⟨d', result⟩ := outcome
      cases result with
      | ok _ => exact hgreeted
      | error e => exact hgreeted
  · exact move_onward (Onward.refl c)

theorem move_onPeerLeft (w : Surroundings) (cid : Cid) : Move c w step (c.onPeerLeft w cid).1 := by
  rw [onPeerLeft, inCall]
  split
  · split
    · exact move_key ((Onward.removeSession c cid).sent (sent_rotateOrReport _ w))
    · exact move_onward (Onward.refl c)
  · exact move_onward (Onward.refl c)

theorem move_linkUp (h : Gated c) (hrelay : c.relay = some relay) (w : Surroundings) :
    Move c w (.event ⟨relay, .stateChanged .connected⟩)
      (c.onNews w (.stateChanged .connected)) := by
  rw [onNews, linkUp]
  by_cases hs : c.state = .connecting
  · rw [if_pos hs]
    have hin : c.state.isParticipating = true := by rw [hs]; rfl
    obtain ⟨hstate, hsame, houtward⟩ := standing_ensureMedia c w
    have hensured := gated_ensureMedia h w
    have hmedia := standing_of_ensureMedia (w := w) h
    generalize c.ensureMedia w = outcome at *
    obtain ⟨d, result⟩ := outcome
    have hfailed : ∀ e, Move c w (.event ⟨relay, .stateChanged .connected⟩)
        ((d.report e).leave .signalingFailure) := fun e =>
      .left hin hstate hsame ((outward_record d _).trans (by simpa [CallDeed.isOutward]))
    cases result with
    | error e => exact hfailed e
    | ok _ =>
      obtain ⟨offer, hstanding, hspeaker, hkept⟩ := hmedia rfl
      dsimp only at hstate hsame hstanding ⊢
      obtain ⟨e, heq⟩ | ⟨relay', offer', hrelay', hoffer, heq⟩ :=
        sendJoin_cases_asking (hstate.trans hs) w <;> rw [heq]
      · exact hfailed e
      · obtain rfl : relay = relay' :=
          Option.some.inj (hrelay.symm.trans (hsame.symm.trans hrelay'))
        obtain rfl : offer' = offer :=
          Option.some.inj (hoffer.symm.trans (congrArg Standing.offer hstanding))
        exact .up hs hrelay rfl hstanding hspeaker hkept hensured
  · rw [if_neg hs]
    exact move_onward (Onward.refl c)

theorem move_onNews (h : Gated c) (hs : c.state.isParticipating = true)
    (hrelay : c.relay = some relay) (w : Surroundings) (news : RelayNews) :
    Move c w (.event ⟨relay, news⟩) (c.onNews w news) := by
  cases news with
  | stateChanged state =>
    cases state with
    | connected => exact move_linkUp h hrelay w
    | disconnected =>
      change Move c w _ c.linkLost
      by_cases hlink : c.state = .joining ∨ c.state = .inProgress
      · exact .lost hlink hrelay rfl
      · rw [linkLost, if_neg hlink]
        exact move_onward (Onward.refl c)
    | _ => exact move_onward (Onward.refl c)
  | frame frame =>
    cases frame with
    | command command =>
      change Move c w _ ((receiver w).deliverCommand command c).1
      cases hwish : command.wish? with
      | some wish =>
        rw [deliverCommand_of_wish? hwish]
        exact .wished hrelay rfl hwish
      | none =>
        by_cases hroutine : command.isRoutine = true
        · exact move_onward (Onward.deliverCommand c w hroutine hwish)
        · cases command with
          | answer answer => exact move_onAnswer hrelay w answer
          | peerJoin peer => exact move_onPeerJoin w peer
          | peerLeft cid => exact move_onPeerLeft w cid
          | bye reason => exact move_left hs (Onward.refl c) _
          | _ => exact absurd rfl hroutine
    | error code text =>
      exact move_left hs ((Onward.tell (by rfl) c).next (Onward.report _ _)) _
  | failed error => exact move_left hs (Onward.report c _) _
  | closed => exact move_left hs (Onward.refl c) _

/-- Every step is a move. -/
theorem move_take (h : Gated c) (hlife : Lifecycle c count) (w : Surroundings) (step : CallStep) :
    Move c w step (c.take w step) := by
  cases step with
  | request request => exact move_perform c w request
  | event event =>
    obtain ⟨relay, news⟩ := event
    rw [take, onRelayEvent]
    split
    · rename_i hrelay
      exact move_onNews h (hlife.participating_of_relay (by rw [hrelay]; rfl)) hrelay w news
    · exact move_onward (Onward.refl c)
  | cancel => exact move_onward (Onward.of_spares (Spares.of_sameMedia rfl rfl rfl) rfl)
  | frame place bytes =>
    exact move_onward (Onward.aside (aside_handleFrame c place bytes)
      (Spares.handleFrame c place bytes))

end Call
end GroupCall
