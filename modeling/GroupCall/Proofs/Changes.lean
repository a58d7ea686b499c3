/-
# What a step can do

A step either is routine or does one of a few things to our participation: it begins, we ask
to be let in, we are let in, the link is lost, somebody comes or goes, our key is rotated, or
the participation ends.  Each of them is described here by what the call is afterwards, and
every step is one of them.  What holds along all runs is then a matter of these few cases.
-/
import GroupCall.Proofs.Keys.Lockout
import GroupCall.Proofs.Routine

namespace GroupCall
namespace Call

variable {c c' c'' d : Call} {w : Surroundings}

/-! ## Nobody is left -/

/-- Some participants are gone, with their slots. -/
structure Thinned (c c' : Call) : Prop where
  /-- What may be different. -/
  rest : c' = { c with
    sessions := c'.sessions, slots := c'.slots, engine := c'.engine, journal := c'.journal }
  /-- Nobody came. -/
  fewer : ∀ cid s, c'.sessions.get? cid = some s → c.sessions.get? cid = some s
  /-- Our media are set up as they were, or are not. -/
  installed : c'.slots.isSome = c.slots.isSome
  /-- What was done is of no consequence. -/
  plain : Plain c c'

namespace Thinned

theorem refl (c : Call) : Thinned c c := ⟨rfl, fun _ _ h => h, rfl, Plain.refl c⟩

theorem trans (h : Thinned c c') (h' : Thinned c' c'') : Thinned c c'' where
  rest := by
    have hrest := h'.rest
    rw [h.rest] at hrest
    exact hrest
  fewer cid s hs := h.fewer cid s (h'.fewer cid s hs)
  installed := h'.installed.trans h.installed
  plain := h.plain.trans h'.plain

theorem releaseSlot (c : Call) (mid : Mid) : Thinned c (c.releaseSlot mid) := by
  have hrewired := Rewired.releaseSlot c mid
  refine ⟨?_, fun cid s hs => ?_, hrewired.installed, Plain.of_eq (by rw [hrewired.rest])⟩
  · rw [hrewired.rest]
  · rwa [Call.releaseSlot, sessions_onSlots] at hs

theorem removeSession (c : Call) (cid : Cid) : Thinned c (c.removeSession cid) := by
  rw [Call.removeSession]
  split
  · exact refl c
  · rename_i s _
    have herased : Thinned c { c with sessions := c.sessions.erase cid } := by
      refine ⟨rfl, fun y s' hs' => ?_, rfl, Plain.of_eq rfl⟩
      rw [Table.get?_erase] at hs'
      split at hs'
      · cases hs'
      · exact hs'
    have hreleased := herased.trans (foldl_related refl trans releaseSlot s.mids
      { c with sessions := c.sessions.erase cid })
    exact hreleased.trans ⟨rfl, fun _ _ h => h, rfl, Plain.of_deed rfl rfl⟩

theorem clearSessions (c : Call) : Thinned c c.clearSessions :=
  foldl_related refl trans removeSession c.sessions.keys c

theorem within (h : Thinned c c') : Within c c' where
  rest := by rw [h.rest]
  installed := h.installed
  rings hr cid s hs := by
    rw [h.rest]
    exact hr cid s (h.fewer cid s hs)
  plain := h.plain

end Thinned

/-! ## The participation ends -/

/-- Our participation is over, and with it the link, the sessions, the media and our keys. -/
structure Left (c c' : Call) : Prop where
  /-- What is left. -/
  rest : c' = { c with
    state := .clientNotParticipating, relay := none, slots := none, offer := none
    sendKey := none, keys := c.keys.clear, cid := 0, speaker := .none, startedAt := none
    vthumbWanted := false, hiresWanted := false
    participants := c'.participants, moderators := c'.moderators
    isModerator := c'.isModerator, sessions := c'.sessions, nextSerial := c'.nextSerial
    av := c'.av, engine := c'.engine, journal := c'.journal }
  /-- Nobody is connected. -/
  alone : ∀ cid, c'.sessions.get? cid = none
  /-- The connection was closed, and at last the end was told. -/
  deeds : ∃ before after code, c'.journal = c.journal ++ (before ++
      (c.relay.map CallDeed.disconnected).toList ++ after ++ [.told (.terminated code)]) ∧
    (∀ d ∈ before, d.isPlain = true) ∧ ∀ d ∈ after, d.isPlain = true

/-- What was done before we left is forgotten, but for its deeds. -/
theorem Left.before (hrest : c' = { c with
      participants := c'.participants, moderators := c'.moderators
      isModerator := c'.isModerator, sessions := c'.sessions, nextSerial := c'.nextSerial
      cid := c'.cid, av := c'.av, speaker := c'.speaker, slots := c'.slots, offer := c'.offer
      vthumbWanted := c'.vthumbWanted, hiresWanted := c'.hiresWanted
      startedAt := c'.startedAt, engine := c'.engine, journal := c'.journal })
    (hplain : Plain c c') (h : Left c' c'') : Left c c'' where
  rest := by
    have hafter := h.rest
    rw [hrest] at hafter
    exact hafter
  alone := h.alone
  deeds := by
    obtain ⟨deeds, hjournal, hdeeds⟩ := hplain
    obtain ⟨before, after, code, heq, hbefore, hafter⟩ := h.deeds
    have hrelay : c'.relay = c.relay := by rw [hrest]
    refine ⟨deeds ++ before, after, code, ?_, List.forall_mem_append.2 ⟨hdeeds, hbefore⟩, hafter⟩
    rw [heq, hjournal, hrelay]
    simp only [List.append_assoc]

theorem Left.within (hplain : Within c c') (h : Left c' c'') : Left c c'' :=
  Left.before (by rw [hplain.rest]) hplain.plain h

theorem dropRelay_eq (c : Call) : c.dropRelay = { c with
    relay := none, journal := c.journal ++ (c.relay.map CallDeed.disconnected).toList } := by
  rw [dropRelay]
  split
  · rename_i hnone
    cases c
    cases hnone
    simp
  · rename_i relay hsome
    simp [hsome, record]

theorem setSpeaker_eq (c : Call) (state : SpeakerState) :
    ∃ deeds, c.setSpeaker state = { c with speaker := state, journal := c.journal ++ deeds } ∧
      ∀ d ∈ deeds, d.isPlain = true := by
  rw [setSpeaker]
  split
  · rename_i hsame
    exact ⟨[], by simp [← hsame], by simp⟩
  · exact ⟨[.told (.speakerChanged state)], rfl, by simp [CallDeed.isPlain]⟩

/-- Whoever is leaving has left. -/
theorem left_quit (hs : c.state = .terminatingParticipation) (code : TermCode) :
    Left c (c.quit code) := by
  have hthinned := Thinned.clearSessions c.dropRelay
  have hrest := hthinned.rest
  obtain ⟨deeds, hjournal, hplain⟩ := hthinned.plain
  have halone := get?_sessions_clearSessions c.dropRelay
  obtain ⟨engine, hclosed⟩ := closeMedia_eq c.dropRelay.clearSessions
  obtain ⟨told, hsilent, htold⟩ :=
    setSpeaker_eq c.dropRelay.clearSessions.closeMedia.forgetParticipation .none
  -- of what is cleared on the way only the frame of `Thinned` is needed from here on
  rw [quit, hsilent, hclosed]
  generalize c.dropRelay.clearSessions = e at hrest hjournal halone
  rw [dropRelay_eq] at hrest hjournal
  have hmove : e.state.canTransition .clientNotParticipating = true := by
    rw [hrest, hs]
    rfl
  rw [moveTo_eq]
  swap
  · exact hmove
  refine ⟨?_, halone, [], deeds ++ told ++ [.told (.stateChanged .clientNotParticipating)], code,
    ?_, by simp, ?_⟩
  · rw [hrest]
    rfl
  · change ((e.journal ++ told) ++ [_]) ++ [_] = _
    rw [hjournal]
    simp only [List.append_assoc, List.nil_append]
  · refine List.forall_mem_append.2 ⟨List.forall_mem_append.2 ⟨hplain, htold⟩, ?_⟩
    simp [CallDeed.isPlain]

/-- Whoever takes part and leaves has left. -/
theorem left_leave (hs : c.state.isParticipating = true) (code : TermCode) :
    Left c (c.leave code) := by
  have hmove : c.state.canTransition .terminatingParticipation = true := by
    cases hstate : c.state <;> simp_all [CallState.isParticipating, CallState.canTransition]
  have hleaving : c.leaving =
      { c with state := .terminatingParticipation }.tell
        (.stateChanged .terminatingParticipation) := by
    rw [leaving, if_pos hs, moveTo_eq hmove]
  rw [leave_eq, hleaving]
  have hquit := left_quit (c := { c with state := .terminatingParticipation }.tell
    (.stateChanged .terminatingParticipation)) rfl code
  refine (if_pos rfl).symm ▸ ?_
  refine ⟨?_, hquit.alone, ?_⟩
  · exact hquit.rest
  · obtain ⟨before, after, code, heq, hbefore, hafter⟩ := hquit.deeds
    refine ⟨.told (.stateChanged .terminatingParticipation) :: before, after, code, ?_,
      List.forall_mem_cons.2 ⟨rfl, hbefore⟩, hafter⟩
    rw [heq]
    change (c.journal ++ [_]) ++ _ = _
    simp only [List.append_assoc, List.cons_append, List.nil_append]
    rfl

/-- Nobody leaves who does not take part. -/
theorem leave_of_away (hs : c.state.isParticipating = false)
    (ht : c.state ≠ .terminatingParticipation) (code : TermCode) : c.leave code = c := by
  have hleaving : c.leaving = c := by rw [leaving, hs]; rfl
  rw [leave_eq, hleaving, if_neg ht]

/-! ## A participation begins -/

/-- Whether a step is a join that is accepted. -/
def accepts (c : Call) : CallStep → Bool
  | .request (.join _) => c.state.canJoin
  | _ => false

/-- How a participation begins. -/
inductive Entry (c : Call) : Call → Prop
  /-- The relay is not found yet. -/
  | seeking (av : AvFlags) : Entry c (c.begun av)
  /-- There is a connection. -/
  | linked (av : AvFlags) (url : String) (relay : Nat) :
    Entry c ({ (c.begun av).record (.sought url) with relay := some relay }.record
      (.connected relay url))
  /-- There is no relay, or no connection to it, and the participation is over. -/
  | refused (av : AvFlags) {d c' : Call} (hsought : Aside (c.begun av) d) (h : Left d c') :
    Entry c c'

theorem entry_take {step : CallStep} (h : c.accepts step = true) (w : Surroundings) :
    c.state.canJoin = true ∧ Entry c (c.take w step) := by
  cases step with
  | request request =>
    cases request with
    | join av =>
      have hs : c.state.canJoin = true := h
      refine ⟨hs, ?_⟩
      change Entry c (c.join w av).1
      rw [join_of_canJoin hs]
      split
      · rename_i answer _
        cases answer with
        | error reason => exact .refused av (Aside.refl _) (left_leave rfl _)
        | ok url =>
          have hsought : Aside (c.begun av) ((c.begun av).record (.sought url)) :=
            ⟨rfl, Plain.of_deed rfl rfl⟩
          rw [connect]
          split
          · exact .refused av hsought (left_leave rfl _)
          · rename_i relay _
            exact .linked av url relay
      · exact .seeking av
    | _ => cases h
  | _ => cases h

/-! ## Other changes -/

/-- We have asked to be let in. -/
structure Up (c c' : Call) : Prop where
  /-- What may be different. -/
  rest : c' = { c with
    state := .joining, slots := c'.slots, offer := c'.offer, engine := c'.engine
    journal := c'.journal }
  /-- There is a connection. -/
  linked : c.relay.isSome = true
  /-- Our media are set up. -/
  installed : c'.slots.isSome = true
  /-- They are offered. -/
  offered : c'.offer.isSome = true
  /-- What was done is of no consequence. -/
  plain : Plain c c'

/-- The link is lost: we wait for the next one, with our media and our keys. -/
structure Lost (c c' : Call) : Prop where
  /-- What may be different. -/
  rest : c' = { c with
    state := .connecting, sessions := c'.sessions, speaker := .none, slots := c'.slots
    vthumbWanted := false, hiresWanted := false, engine := c'.engine, journal := c'.journal }
  /-- Nobody is connected. -/
  alone : ∀ cid, c'.sessions.get? cid = none
  /-- Our media are set up as they were, or are not. -/
  installed : c'.slots.isSome = c.slots.isSome
  /-- What was done is of no consequence. -/
  plain : Plain c c'

/-- Somebody came. -/
structure Came (c : Call) (cid : Cid) (user : UserId) (c' : Call) : Prop extends Within c c' where
  /-- Nobody else did. -/
  users : ∀ y, c'.user? y = if y = cid then some user else c.user? y
  /-- Our number is the same. -/
  cid : c'.cid = c.cid

/-- Whoever is let in is in the call. -/
def letIn (c : Call) : Call :=
  { c with state := .inProgress }.tell (.stateChanged .inProgress)

/-- Sends a participant the key in use, or reports why not. -/
def greetOrReport (c : Call) (w : Surroundings) (cid : Cid) : Call :=
  match c.sendKeyTo w cid with
  | (c, .ok ()) => c
  | (c, .error e) => c.report e

/-- The call after it was destroyed. -/
def destroyed (c : Call) : Call :=
  { { c with state := .destroyed }.tell (.stateChanged .destroyed) with cancelled := true }

end Call

/-- Whether a step may bring a participant that is sent the key in use. -/
def CallStep.greets : CallStep → Bool
  | .event ⟨_, .frame (.command (.peerJoin _))⟩ => true
  | _ => false

namespace Call

variable {c c' c'' d : Call} {w : Surroundings} {step : CallStep}

/-- What a step does that begins no participation. -/
inductive Change (c : Call) (w : Surroundings) (step : CallStep) : Call → Prop
  /-- It has nothing to do with sessions and slots. -/
  | aside {c' : Call} (h : Aside c c') : Change c w step c'
  /-- It is routine, on a link or in the call. -/
  | routine {c' : Call} (hlink : c.relay.isSome = true ∨ c.state = .inProgress)
    (h : Routine c c') : Change c w step c'
  /-- The link is up, and we ask to be let in. -/
  | up {c' : Call} (hs : c.state = .connecting) (h : Up c c') : Change c w step c'
  /-- The link is lost. -/
  | lost {c' : Call} (hs : c.state = .joining ∨ c.state = .inProgress) (h : Lost c c') :
    Change c w step c'
  /-- We are let in, and everybody is sent a new key. -/
  | answered {e : Call} (hs : c.state = .joining) (hstep : step.greets = false)
    (h : Within c e) : Change c w step (e.letIn.rotateOrReport w)
  /-- Somebody comes, and is sent the key in use. -/
  | came {cid : Cid} {user : UserId} {d : Call} (hs : c.state = .inProgress)
    (hstep : step.greets = true) (h : Came c cid user d) :
    Change c w step (d.greetOrReport w cid)
  /-- Somebody leaves, and everybody else is sent a new key. -/
  | went (cid : Cid) (hs : c.state = .inProgress) (hstep : step.greets = false) :
    Change c w step ((c.removeSession cid).rotateOrReport w)
  /-- Everybody is sent a new key, if that is possible. -/
  | rotated (hstep : step.greets = false) : Change c w step (c.rotateKey w).1
  /-- Our participation ends. -/
  | left {c' : Call} (hs : c.state.isParticipating = true) (h : Left c c') : Change c w step c'
  /-- The call is destroyed where we do not take part. -/
  | destroyed (hs : c.state.isParticipating = false) (halive : c.state.isDestroyed = false)
    (hstep : step = .request .destroy) : Change c w step c.destroyed
  /-- The call is destroyed while we take part. -/
  | leftDestroyed {d : Call} (hs : c.state.isParticipating = true) (h : Left c d)
    (hstep : step = .request .destroy) : Change c w step d.destroyed
  /-- The call is given up. -/
  | cancelled : Change c w step c.cancel

/-! ## Every step is one of them -/

theorem change_of_asked (h : Asked c c') : Change c w step c' := by
  rcases h with rfl | ⟨hs, h⟩
  · exact .aside (Aside.refl _)
  · exact .routine (Or.inr hs) h

/-- Leaving, after something routine on a link. -/
theorem change_leave (ht : c.state ≠ .terminatingParticipation) (hlink : c.relay.isSome = true)
    (h : Routine c d) (code : TermCode) : Change c w step (d.leave code) := by
  have hstate : d.state = c.state := by rw [h.rest]
  by_cases hs : c.state.isParticipating = true
  · exact .left hs ((left_leave (by rw [hstate]; exact hs) code).within h.toWithin)
  · rw [leave_of_away (by simpa [hstate] using hs) (by rw [hstate]; exact ht)]
    exact .routine (Or.inl hlink) h

theorem change_hangup : Change c w step c.hangup.1 := by
  rw [hangup]
  split
  · rename_i hs
    exact .left hs (left_leave hs _)
  · exact .aside (Aside.refl c)

theorem setState_destroyed (h : c.state.isDestroyed = false) : c.setState .destroyed =
    ({ c with state := .destroyed }.tell (.stateChanged .destroyed), .ok ()) := by
  refine setState_of_canTransition ?_
  cases hs : c.state <;> simp_all [CallState.isDestroyed, CallState.canTransition]

theorem change_destroy : Change c w (.request .destroy) c.destroy := by
  rw [destroy_eq]
  split
  · exact .aside (Aside.refl c)
  · rename_i halive
    rw [departed]
    by_cases hs : c.state.isParticipating = true
    · have hleft := left_leave hs .userHangup
      rw [if_pos hs, setState_destroyed (by rw [hleft.rest]; rfl)]
      exact .leftDestroyed hs hleft rfl
    · rw [if_neg hs, setState_destroyed (by simpa using halive)]
      exact .destroyed (by simpa using hs) (by simpa using halive) rfl

theorem change_perform {request : CallRequest}
    (haccepts : c.accepts (.request request) = false) :
    Change c w (.request request) (c.perform w request).1 := by
  cases request with
  | join av =>
    have hs : ¬ c.state.canJoin = true := by
      rw [show c.state.canJoin = false from haccepts]
      simp
    have hjoin : (c.perform w (.join av)).1 = c := congrArg Prod.fst (join_of_not_canJoin hs w av)
    rw [hjoin]
    exact .aside (Aside.refl c)
  | hangup => exact change_hangup
  | abortReconnect => exact .aside (aside_abortReconnect c)
  | updateAv av => exact .aside (aside_updateAv c w av)
  | rotateKey => exact .rotated rfl
  | addParticipant user => exact .aside (aside_addParticipant c user)
  | removeParticipant user => exact .aside (aside_removeParticipant c user)
  | snapshot => exact .aside (Aside.refl c)
  | destroy => exact change_destroy
  | _ => exact change_of_asked (asked_perform c w rfl)

/-! ### Commands -/

/-- A participant that is new is connected afterwards. -/
theorem came_addSession {peer : PeerInfo} (h : (c.addSession peer).2 = true) :
    Came c peer.cid peer.userId (c.addSession peer).1 := by
  rw [addSession] at h ⊢
  split at h
  · split at h <;> cases h
  · refine ⟨⟨rfl, rfl, fun hr cid s hs => ?_, Plain.of_deed rfl rfl⟩, fun y => ?_, rfl⟩
    · rw [Table.get?_insert] at hs
      split at hs
      · cases hs
        exact ⟨KeyRing.sound_new _, rfl⟩
      · exact hr cid s hs
    · simp only [user?, Table.get?_insert]
      split <;> rfl

theorem within_addSession (c : Call) (peer : PeerInfo) : Within c (c.addSession peer).1 := by
  cases h : (c.addSession peer).2 with
  | false => exact (Routine.addSession h).toWithin
  | true => exact (came_addSession h).toWithin

theorem within_foldl {α : Type} {f : Call → α → Call} (hf : ∀ c a, Within c (f c a)) (l : List α)
    (c : Call) : Within c (l.foldl f c) :=
  foldl_related (fun c => (Routine.refl c).toWithin) Within.trans hf l c

theorem routine_admitSpeaker (c : Call) (cid : Cid) (track : TrackDescriptor) :
    Routine c (c.admitSpeaker cid track) := by
  rw [admitSpeaker]
  split
  · exact Routine.setSpeaker c .active
  · exact Routine.of_rewired (Rewired.bindTrack c ⟨cid, .audio, track⟩)

theorem within_meet (c : Call) (answer : Answer) : Within c (c.meet answer) := by
  have hours : Within c { c with cid := answer.cid, startedAt := some answer.startedAt } :=
    ⟨rfl, rfl, rings_of_eq rfl rfl, Plain.of_eq rfl⟩
  exact (hours.trans (within_foldl
    (fun c user => (Routine.setModerator c user true).toWithin) answer.moderators _)).trans
      (within_foldl within_addSession answer.peers _)

/-- Everybody is seated as we are let in. -/
theorem within_seated (c : Call) (answer : Answer) :
    ∃ e, Within c e ∧ c.seated answer = e.letIn := by
  have hmet := (within_meet c answer).trans
    (Routine.of_rewired (Rewired.takeRoster c answer)).toWithin
  have hspeakers := hmet.trans (within_foldl (fun c (e : Cid × TrackDescriptor) =>
    (routine_admitSpeaker c e.1 e.2).toWithin) answer.speakers.entries _)
  rw [seated, goIn]
  generalize answer.speakers.entries.foldl (fun c e => c.admitSpeaker e.1 e.2)
    (c.takeRoster answer) = e at hspeakers
  obtain ⟨engine, heq⟩ := applyLocalAv_eq e.letIn
  exact ⟨{ e with engine := engine }, hspeakers.trans (Routine.of_engine e engine).toWithin, heq⟩

theorem change_onAnswer (hlink : c.relay.isSome = true) (hstep : step.greets = false)
    (answer : Answer) : Change c w step (c.onAnswer w answer).1 := by
  by_cases hs : c.state = .joining
  · have hremote := Routine.setRemote c w answer.sdp
    obtain ⟨e, herror, heq⟩ | ⟨-, heq⟩ := onAnswer_fst hs w answer <;> rw [heq]
    · have hlawful := lawful_setRemote c w answer.sdp
      rw [herror] at hlawful
      exact .routine (Or.inl hlink) (hremote.trans (Routine.report hlawful _))
    · obtain ⟨e, hwithin, hseated⟩ := within_seated (c.setRemote w answer.sdp).1 answer
      rw [hseated]
      exact .answered hs hstep (hremote.toWithin.trans hwithin)
  · rw [onAnswer, if_neg hs]
    exact .aside (Aside.refl c)

theorem change_onPeerJoin (hlink : c.relay.isSome = true) (hstep : step.greets = true)
    (peer : PeerInfo) : Change c w step (c.onPeerJoin w peer).1 := by
  rw [onPeerJoin, inCall]
  split
  · rename_i hs
    split <;> rename_i heq
    · have hknown := Routine.addSession (congrArg Prod.snd heq)
      rw [heq] at hknown
      exact .routine (Or.inl hlink) hknown
    · rename_i d
      have hcame := came_addSession (congrArg Prod.snd heq)
      rw [heq] at hcame
      have hgreeted := Change.came (w := w) hs hstep hcame
      rw [greetOrReport] at hgreeted
      split at hgreeted <;> rename_i hsent <;> rw [hsent] <;> exact hgreeted
  · exact .aside (Aside.refl c)

theorem change_onPeerLeft (hstep : step.greets = false) (cid : Cid) :
    Change c w step (c.onPeerLeft w cid).1 := by
  rw [onPeerLeft, inCall]
  split
  · rename_i hs
    split
    · exact .went cid hs hstep
    · exact .aside (Aside.refl c)
  · exact .aside (Aside.refl c)

/-! ### News of the connection -/

/-- We ask to be let in, unless that fails. -/
theorem up_sendJoin (hs : c.state = .connecting) (hslots : c.slots.isSome = true)
    (w : Surroundings) :
    (c.sendJoin w).2 = .ok () ∧ Up c (c.sendJoin w).1 ∨ ∃ e, c.sendJoin w = (c, .error e) := by
  obtain ⟨e, heq⟩ | ⟨relay, sdp, ivs, hoffer, hrelay, heq⟩ := c.sendJoin_cases w <;> rw [heq]
  · exact .inr ⟨e, rfl⟩
  · rw [setState_joining hs]
    have hlinked : c.relay.isSome = true := by rw [hrelay]; rfl
    have hoffered : c.offer.isSome = true := by rw [hoffer]; rfl
    refine .inl ⟨rfl, rfl, hlinked, hslots, hoffered, ?_⟩
    have hposted : Plain c (c.post relay (c.joinRequest sdp ivs)) := Plain.of_deed rfl rfl
    exact hposted.trans (Plain.of_deed (d := .told (.stateChanged .joining)) rfl rfl)

/-- The link is up where it was waited for, and we ask to be let in, unless that fails. -/
theorem linkUp_cases (c : Call) (w : Surroundings) :
    c.linkUp w = (c, .ok ()) ∨
      c.state = .connecting ∧ ((c.linkUp w).2 = .ok () ∧ Up c (c.linkUp w).1 ∨
        ∃ e slots offer engine, c.linkUp w =
          ({ c with slots := slots, offer := offer, engine := engine }, .error e)) := by
  rw [linkUp]
  split
  · rename_i hs
    refine Or.inr ⟨hs, ?_⟩
    have hmedia : ∃ slots offer engine,
        (c.ensureMedia w).1 = { c with slots := slots, offer := offer, engine := engine } ∧
          ((c.ensureMedia w).2 = .ok () → slots.isSome = true) := by
      obtain ⟨engine, heq, hslots, -⟩ | ⟨slots, offer, engine, -, heq⟩ := ensureMedia_cases c w
      · exact ⟨c.slots, c.offer, engine, heq, hslots⟩
      · exact ⟨some slots, some offer, engine, heq, fun _ => rfl⟩
    obtain ⟨slots, offer, engine, heq, hslots⟩ := hmedia
    split <;> rename_i hresult <;> rw [hresult] at heq hslots <;> cases heq
    · exact Or.inr ⟨_, slots, offer, engine, rfl⟩
    · obtain ⟨hok, hup⟩ | ⟨e, herror⟩ :=
        up_sendJoin (c := { c with slots := slots, offer := offer, engine := engine }) hs
          (hslots rfl) w
      · refine Or.inl ⟨hok, ?_, hup.linked, hup.installed, hup.offered, hup.plain⟩
        have hrest := hup.rest
        exact hrest
      · exact Or.inr ⟨e, slots, offer, engine, herror⟩
  · exact Or.inl rfl

theorem change_linkUp :
    Change c w step (c.onNews w (.stateChanged .connected)) := by
  have hlawful := lawful_linkUp c w
  rw [onNews]
  obtain heq | ⟨hs, ⟨hok, hup⟩ | ⟨e, slots, offer, engine, heq⟩⟩ := linkUp_cases c w
  · rw [heq]
    exact .aside (Aside.refl c)
  · split <;> rename_i heq <;> rw [heq] at hok hup
    · exact .up hs hup
    · cases hok
  · -- a set-up that fails may have handed out tracks, so nothing is said of the engine
    rw [heq] at hlawful ⊢
    obtain ⟨deeds, hjournal, hdeeds⟩ := (Routine.report hlawful
      { c with slots := slots, offer := offer, engine := engine }).plain
    refine .left (by rw [hs]; rfl) (Left.before rfl ⟨deeds, hjournal, hdeeds⟩ (left_leave ?_ _))
    exact (congrArg CallState.isParticipating hs).trans rfl

theorem lost_linkLost (hs : c.state = .joining ∨ c.state = .inProgress) : Lost c c.linkLost := by
  have hmove : c.state.canTransition .connecting = true := by
    rcases hs with hs | hs <;> rw [hs] <;> rfl
  have hthinned := Thinned.clearSessions c
  have hrest := hthinned.rest
  have hinstalled := hthinned.installed
  have hplain := hthinned.plain
  have halone := get?_sessions_clearSessions c
  rw [linkLost, if_pos hs]
  dsimp only
  -- the stage is the one before, which `moveTo` can leave, but that shows only in `hrest`
  generalize c.clearSessions = e at hrest hinstalled hplain halone
  obtain ⟨told, hsilent, htold⟩ :=
    setSpeaker_eq { e with vthumbWanted := false, hiresWanted := false } .none
  rw [hsilent]
  obtain ⟨engine, hswitched⟩ := applyLocalAv_eq { e with
    vthumbWanted := false, hiresWanted := false, speaker := .none, journal := e.journal ++ told }
  rw [hswitched, moveTo_eq]
  swap
  · rw [hrest]
    exact hmove
  refine ⟨?_, halone, hinstalled, ?_⟩
  · rw [hrest]
    rfl
  · obtain ⟨deeds, hjournal, hdeeds⟩ := hplain
    refine ⟨deeds ++ told ++ [.told (.stateChanged .connecting)], ?_, ?_⟩
    · change (e.journal ++ told) ++ [_] = _
      rw [hjournal]
      simp only [List.append_assoc]
    · exact List.forall_mem_append.2
        ⟨List.forall_mem_append.2 ⟨hdeeds, htold⟩, by simp [CallDeed.isPlain]⟩

theorem change_linkLost : Change c w step c.linkLost := by
  by_cases hs : c.state = .joining ∨ c.state = .inProgress
  · exact .lost hs (lost_linkLost hs)
  · rw [linkLost, if_neg hs]
    exact .aside (Aside.refl c)

theorem change_onNews (ht : c.state ≠ .terminatingParticipation) {connection : Nat}
    (hrelay : c.relay = some connection) (news : RelayNews) :
    Change c w (.event ⟨connection, news⟩) (c.onNews w news) := by
  have hlink : c.relay.isSome = true := by rw [hrelay]; rfl
  cases news with
  | stateChanged state =>
    cases state with
    | connected => exact change_linkUp
    | disconnected => exact change_linkLost
    | _ => exact .aside (Aside.refl c)
  | frame frame =>
    cases frame with
    | command command =>
      by_cases hroutine : command.isRoutine = true
      · exact .routine (Or.inl hlink) (Routine.deliverCommand c w hroutine)
      · cases command with
        | answer answer => exact change_onAnswer hlink rfl answer
        | peerJoin peer => exact change_onPeerJoin hlink rfl peer
        | peerLeft cid => exact change_onPeerLeft rfl cid
        | bye reason => exact change_leave ht hlink (Routine.refl c) _
        | _ => exact absurd rfl hroutine
    | error code text =>
      have htold : Routine c ((c.tell (.relayError code (text.getD ""))).report
          (.relay code (text.getD ""))) :=
        (Routine.tell rfl c).trans (Routine.tell rfl _)
      exact change_leave ht hlink htold _
  | failed error =>
    have htold : Routine c (c.report (.connection error)) := Routine.tell rfl c
    exact change_leave ht hlink htold _
  | closed => exact change_leave ht hlink (Routine.refl c) _

/-- What a step does that begins no participation. -/
theorem change_take (ht : c.state ≠ .terminatingParticipation) (haccepts : c.accepts step = false)
    (w : Surroundings) : Change c w step (c.take w step) := by
  cases step with
  | request request => exact change_perform haccepts
  | event event =>
    rw [take, onRelayEvent]
    split
    · rename_i hrelay
      exact change_onNews ht hrelay event.news
    · exact .aside (Aside.refl c)
  | cancel => exact .cancelled
  | frame place bytes => exact .aside (aside_handleFrame c place bytes)

end Call
end GroupCall
