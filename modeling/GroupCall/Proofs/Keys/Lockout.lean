/-
# Who is locked out

Whoever was sent the key under which our frames are encrypted should still be connected.
That is so as long as every step that takes a holder of the key away also brings a new one
into use: such a step lapses otherwise.  A step can take a holder away in two ways only.  The
participant leaves; or we come back into the call after the link was lost, and the answer no
longer lists the participant.
-/
import GroupCall.Proofs.Crypto.Frame
import GroupCall.Proofs.Keys.Accounts
import Mathlib.Data.List.Induction

namespace GroupCall
namespace Call

variable {c c' : Call} {w : Surroundings} {history : List Binding}

/-- A step takes a holder of the key in use away, and no new key can come into use: a holder
leaves, or the answer to our return does not list one. -/
def Lapses (c : Call) (w : Surroundings) : CallStep → Prop
  | .event ⟨connection, .frame (.command (.peerLeft cid))⟩ =>
    c.relay = some connection ∧ c.state = .inProgress ∧ c.HasKey cid ∧
      ¬ (c.removeSession cid).CanRotate w
  | .event ⟨connection, .frame (.command (.answer answer))⟩ =>
    c.relay = some connection ∧ c.state = .joining ∧ (c.setRemote w answer.sdp).2 = .ok () ∧
      ¬ ((c.setRemote w answer.sdp).1.meet answer).CanRotate w ∧
      ∃ cid, c.HasKey cid ∧
        ((c.setRemote w answer.sdp).1.meet answer).sessions.contains cid = false
  | _ => False

/-! ## Steps -/

/-- Where keys are left alone, nobody comes in who was locked out. -/
theorem lockedOut_of_quiet (hq : Quiet c c') (hin : c'.state = .inProgress)
    (hbefore : c.state = .inProgress → c.LockedOut) : c'.LockedOut := by
  rcases hq with hkeeps | hended
  · obtain ⟨hs, hback⟩ := hkeeps.steady hin
    exact fun cid hkey => hback cid (hbefore hs cid ((hkeeps.hasKey_iff cid).1 hkey))
  · exact absurd hin hended.away

/-! ### A participant comes -/

theorem Accounted.onPeerJoin (h : Accounted c) (w : Surroundings) (peer : PeerInfo) :
    Accounted (c.onPeerJoin w peer).1 := by
  rw [Call.onPeerJoin, inCall]
  split
  · have hadded := h.of_sameKeys (SameKeys.addSession c peer)
    split <;> rename_i heq <;> rw [heq] at hadded
    · exact hadded
    · have hsent := hadded.sendKeyTo w peer.cid
      split <;> rename_i heq' <;> rw [heq'] at hsent
      · exact hsent
      · exact hsent.of_sameKeys (SameKeys.report _ _)
  · exact h

theorem lockedOut_onPeerJoin (hwired : Wired history [] [] c) (hs : c.state = .inProgress)
    (hlocked : c.LockedOut) (w : Surroundings) (peer : PeerInfo) :
    (c.onPeerJoin w peer).1.LockedOut := by
  have hadded : (c.addSession peer).1.LockedOut :=
    lockedOut_of_quiet (Or.inl (Keeps.addSession c peer)) ((state_addSession c peer).trans hs)
      fun _ => hlocked
  have henrolled := (hwired.addSession peer).enrolled
  rw [Call.onPeerJoin, inCall, if_pos hs]
  split <;> rename_i heq <;> rw [heq] at hadded henrolled
  · exact hadded
  · have hsent := hadded.sendKeyTo henrolled w peer.cid
    split <;> rename_i heq' <;> rw [heq'] at hsent
    · exact hsent
    · exact fun cid hkey => hsent cid (((SameKeys.report _ _).hasKey_iff cid).1 hkey)

/-! ### A participant leaves -/

theorem Accounted.rotateOrReport (h : Accounted c) (w : Surroundings) :
    Accounted (c.rotateOrReport w) :=
  (h.rotateKey w).of_sameKeys (sameKeys_rotateOrReport c w)

theorem Accounted.onPeerLeft (h : Accounted c) (w : Surroundings) (cid : Cid) :
    Accounted (c.onPeerLeft w cid).1 := by
  rw [Call.onPeerLeft, inCall]
  split
  · split
    · exact (h.of_sameKeys (SameKeys.removeSession c cid)).rotateOrReport w
    · exact h
  · exact h

/-- Whoever else was connected is so without a participant that left. -/
theorem lockedOut_removeSession_iff (hlocked : c.LockedOut) (cid : Cid) :
    (c.removeSession cid).LockedOut ↔ ¬ c.HasKey cid := by
  have hkeys := SameKeys.removeSession c cid
  constructor
  · intro hremoved hkey
    have hin := hremoved cid ((hkeys.hasKey_iff cid).2 hkey)
    simp [Table.contains, get?_sessions_removeSession] at hin
  · intro hnone y hkey
    have hbefore := (hkeys.hasKey_iff y).1 hkey
    have hne : y ≠ cid := by
      rintro rfl
      exact hnone hbefore
    have hin := hlocked y hbefore
    simpa [Table.contains, get?_sessions_removeSession, hne] using hin

theorem lockedOut_onPeerLeft_iff (h : Accounted c) (hwired : Wired history [] [] c)
    (hs : c.state = .inProgress) (hlocked : c.LockedOut) (w : Surroundings) (cid : Cid) :
    (c.onPeerLeft w cid).1.LockedOut ↔
      ¬ (c.HasKey cid ∧ ¬ (c.removeSession cid).CanRotate w) := by
  rw [Call.onPeerLeft, inCall, if_pos hs]
  split
  · have hrotate := lockedOut_rotateOrReport_iff (w := w)
      (h.of_sameKeys (SameKeys.removeSession c cid)) (hwired.removeSession cid).enrolled
      ((state_removeSession c cid).trans hs)
    refine hrotate.trans ?_
    -- the others are connected, so without a rotation all depends on whether this one held the key
    rw [lockedOut_removeSession_iff hlocked, not_and_not_right, or_iff_not_imp_right, not_not]
  · -- nobody of this number was connected, so nobody of this number holds the key
    rename_i hgone
    have hnone : ¬ c.HasKey cid := fun hkey => hgone (hlocked cid hkey)
    exact ⟨fun _ hlapse => hnone hlapse.1, fun _ => hlocked⟩

/-! ### We come into the call -/

/-- The same participants are connected, with the same keys to be rotated over the same
connection. -/
structure SameSeats (c c' : Call) : Prop where
  /-- The participants. -/
  sessions : ∀ cid, (c'.sessions.get? cid).map Session.core = (c.sessions.get? cid).map Session.core
  /-- Our own number. -/
  cid : c'.cid = c.cid
  /-- Our keys. -/
  keys : c'.keys = c.keys
  /-- Whether the call was given up. -/
  cancelled : c'.cancelled = c.cancelled
  /-- The relay connection. -/
  relay : c'.relay = c.relay

namespace SameSeats

theorem refl (c : Call) : SameSeats c c := ⟨fun _ => rfl, rfl, rfl, rfl, rfl⟩

theorem trans {c'' : Call} (h : SameSeats c c') (h' : SameSeats c' c'') : SameSeats c c'' :=
  ⟨fun cid => (h'.sessions cid).trans (h.sessions cid), h'.cid.trans h.cid, h'.keys.trans h.keys,
    h'.cancelled.trans h.cancelled, h'.relay.trans h.relay⟩

theorem symm (h : SameSeats c c') : SameSeats c' c :=
  ⟨fun cid => (h.sessions cid).symm, h.cid.symm, h.keys.symm, h.cancelled.symm, h.relay.symm⟩

theorem of_rewired (h : Rewired c c') : SameSeats c c' :=
  ⟨h.sessions, by rw [h.rest], by rw [h.rest], by rw [h.rest], by rw [h.rest]⟩

theorem setSpeaker (c : Call) (state : SpeakerState) : SameSeats c (c.setSpeaker state) := by
  rw [Call.setSpeaker]
  split
  · exact refl c
  · exact ⟨fun _ => rfl, rfl, rfl, rfl, rfl⟩

theorem admitSpeaker (c : Call) (cid : Cid) (track : TrackDescriptor) :
    SameSeats c (c.admitSpeaker cid track) := by
  rw [Call.admitSpeaker]
  split
  · exact setSpeaker c .active
  · exact of_rewired (Rewired.bindTrack c ⟨cid, .audio, track⟩)

theorem admitSpeakers (speakers : List (Cid × TrackDescriptor)) (c : Call) :
    SameSeats c (speakers.foldl (fun c e => c.admitSpeaker e.1 e.2) c) :=
  foldl_related refl trans (fun c e => admitSpeaker c e.1 e.2) speakers c

theorem contains_eq (h : SameSeats c c') (cid : Cid) :
    c'.sessions.contains cid = c.sessions.contains cid := by
  have hmap := congrArg Option.isSome (h.sessions cid)
  simpa [Table.contains] using hmap

/-- Who is to be sent a key is told from the seats. -/
theorem canRotate (h : SameSeats c c') {next next' : Nat} (he : Enrolled c.sessions next)
    (he' : Enrolled c'.sessions next') (hcan : c.CanRotate w) : c'.CanRotate w where
  known s' hs' := by
    obtain ⟨hget', hne⟩ := (mem_recipients he').1 hs'
    have hmap := h.sessions s'.cid
    rw [hget'] at hmap
    obtain ⟨s, hget, hcore⟩ := Option.map_eq_some_iff.1 hmap.symm
    have hcid : s.cid = s'.cid := congrArg (fun core => core.2.1) hcore
    have huser : s.userId = s'.userId := congrArg (fun core => core.2.2.1) hcore
    rw [← huser]
    have hother : s.cid ≠ c.cid := by
      rw [hcid, ← h.cid]
      exact hne
    exact hcan.known s ((mem_recipients he).2 ⟨by rw [hcid, hget], hother⟩)
  alive := by rw [h.cancelled]; exact hcan.alive
  linked := by rw [h.relay]; exact hcan.linked
  online := hcan.online
  lasting := hcan.lasting
  fresh := by rw [h.keys]; exact hcan.fresh

end SameSeats

/-- The call as an answer makes it, with everybody seated, before our key is handed out. -/
def seated (c : Call) (answer : Answer) : Call :=
  (answer.speakers.entries.foldl (fun c e => c.admitSpeaker e.1 e.2) (c.takeRoster answer)).goIn

theorem SameSeats.goIn (c : Call) : SameSeats c c.goIn := by
  refine SameSeats.trans ?_ (SameSeats.of_rewired (Rewired.applyLocalAv _))
  exact ⟨fun _ => rfl, rfl, rfl, rfl, rfl⟩

theorem sameSeats_seated (c : Call) (answer : Answer) :
    SameSeats (c.meet answer) (c.seated answer) :=
  ((SameSeats.of_rewired (Rewired.takeRoster c answer)).trans
    (SameSeats.admitSpeakers answer.speakers.entries _)).trans (SameSeats.goIn _)

theorem SameKeys.meet (c : Call) (answer : Answer) : SameKeys c (c.meet answer) := by
  have hours : SameKeys c { c with cid := answer.cid, startedAt := some answer.startedAt } :=
    SameKeys.of_journal rfl rfl rfl
  exact (hours.trans (SameKeys.foldl (fun c user => SameKeys.setModerator c user true) _ _)).trans
    (SameKeys.foldl (fun c peer => SameKeys.addSession c peer) _ _)

theorem SameKeys.admitSpeaker (c : Call) (cid : Cid) (track : TrackDescriptor) :
    SameKeys c (c.admitSpeaker cid track) := by
  rw [Call.admitSpeaker]
  split
  · exact SameKeys.setSpeaker c .active
  · exact SameKeys.of_rewired (Rewired.bindTrack c ⟨cid, .audio, track⟩)

theorem SameKeys.goIn (c : Call) : SameKeys c c.goIn := by
  refine SameKeys.trans ?_ (SameKeys.of_rewired (Rewired.applyLocalAv _))
  exact SameKeys.of_deed (.told (.stateChanged .inProgress)) (fun _ => rfl) rfl rfl rfl

theorem SameKeys.seated (c : Call) (answer : Answer) : SameKeys c (c.seated answer) := by
  have hmet := (SameKeys.meet c answer).trans (SameKeys.of_rewired (Rewired.takeRoster c answer))
  have hspeakers := hmet.trans (SameKeys.foldl
    (fun c e => SameKeys.admitSpeaker c e.1 e.2) answer.speakers.entries _)
  exact hspeakers.trans (SameKeys.goIn _)

theorem SameKeys.setRemote (c : Call) (w : Surroundings) (sdp : Sdp) :
    SameKeys c (c.setRemote w sdp).1 := by
  rw [Call.setRemote]
  split
  · exact SameKeys.refl c
  · split
    · exact SameKeys.refl c
    · exact SameKeys.of_journal rfl rfl rfl

/-- An answer that is of no use is reported, and any other seats everybody and is followed by
a rotation. -/
theorem onAnswer_fst (hs : c.state = .joining) (w : Surroundings) (answer : Answer) :
    (∃ e, (c.setRemote w answer.sdp).2 = .error e ∧
      (c.onAnswer w answer).1 = (c.setRemote w answer.sdp).1.report e) ∨
    ((c.setRemote w answer.sdp).2 = .ok () ∧
      (c.onAnswer w answer).1 = ((c.setRemote w answer.sdp).1.seated answer).rotateOrReport w) := by
  have hstate := state_setRemote c w answer.sdp
  rw [onAnswer, if_pos hs]
  split <;> rename_i heq <;> rw [heq] at hstate ⊢
  · exact Or.inl ⟨_, rfl, rfl⟩
  · refine Or.inr ⟨rfl, enter_fst ?_ w⟩
    rw [state_admitSpeakers, state_takeRoster, hstate, hs]

theorem Accounted.onAnswer (h : Accounted c) (w : Surroundings) (answer : Answer) :
    Accounted (c.onAnswer w answer).1 := by
  have hremote := h.of_sameKeys (SameKeys.setRemote c w answer.sdp)
  by_cases hs : c.state = .joining
  · obtain ⟨e, -, heq⟩ | ⟨-, heq⟩ := onAnswer_fst hs w answer <;> rw [heq]
    · exact hremote.of_sameKeys (SameKeys.report _ e)
    · exact (hremote.of_sameKeys (SameKeys.seated _ answer)).rotateOrReport w
  · rw [Call.onAnswer, if_neg hs]
    exact h

theorem Wired.seated (h : Wired history [] [] c) (answer : Answer) :
    ∃ history', Wired history' [] [] (c.seated answer) := by
  have hspeakers := (h.takeRoster answer).admitSpeakers answer.speakers.entries
  have hinside := hspeakers.of_sameMedia (d :=
    ({ answer.speakers.entries.foldl (fun c e => c.admitSpeaker e.1 e.2) (c.takeRoster answer) with
      state := .inProgress } : Call).tell (.stateChanged .inProgress)) ⟨rfl, rfl, rfl, rfl⟩
  exact ⟨_, hinside.applyLocalAv⟩

theorem lockedOut_onAnswer_iff (h : Accounted c) (hwired : Wired history [] [] c)
    (hs : c.state = .joining) (w : Surroundings) (answer : Answer)
    (hin : (c.onAnswer w answer).1.state = .inProgress) :
    (c.onAnswer w answer).1.LockedOut ↔
      ¬ ((c.setRemote w answer.sdp).2 = .ok () ∧
        ¬ ((c.setRemote w answer.sdp).1.meet answer).CanRotate w ∧
        ∃ cid, c.HasKey cid ∧
          ((c.setRemote w answer.sdp).1.meet answer).sessions.contains cid = false) := by
  obtain ⟨e, -, heq⟩ | ⟨hok, heq⟩ := onAnswer_fst hs w answer
  · -- the answer was ignored, and we are where we were
    rw [heq] at hin
    have hstate := (state_setRemote c w answer.sdp).trans hs
    cases hstate.symm.trans hin
  · have hremote := SameKeys.setRemote c w answer.sdp
    have hmedia := hwired.of_sameMedia (SameMedia.setRemote c w answer.sdp)
    generalize (c.setRemote w answer.sdp).1 = c₁ at hremote hmedia heq
    have hseats := sameSeats_seated c₁ answer
    have hkeys := hremote.trans (SameKeys.seated c₁ answer)
    have hmet := (hmedia.meet answer).enrolled
    obtain ⟨history', hseated⟩ := hmedia.seated answer
    -- The lapse speaks of the participants as the answer lists them; by the time of the
    -- rotation their media were set up, which changes neither who they are nor our keys.
    have hcan : (c₁.seated answer).CanRotate w ↔ (c₁.meet answer).CanRotate w :=
      ⟨hseats.symm.canRotate hseated.enrolled hmet, hseats.canRotate hmet hseated.enrolled⟩
    have hlocked : (c₁.seated answer).LockedOut ↔
        ¬ ∃ cid, c.HasKey cid ∧ (c₁.meet answer).sessions.contains cid = false := by
      simp only [LockedOut, hkeys.hasKey_iff, hseats.contains_eq, not_exists, not_and,
        Bool.not_eq_false]
    rw [heq, lockedOut_rotateOrReport_iff (h.of_sameKeys hkeys) hseated.enrolled (state_goIn _),
      hcan, hlocked]
    simp only [hok, true_and, not_and, not_exists]
    exact or_iff_not_imp_left

/-! ### Any step -/

theorem Accounted.take (h : Accounted c) (w : Surroundings) (step : CallStep) :
    Accounted (c.take w step) := by
  cases step with
  | request request =>
    by_cases hrotate : request = .rotateKey
    · subst hrotate
      exact h.rotateKey w
    · exact h.of_quiet (quiet_perform c w hrotate)
  | event event =>
    rw [Call.take, onRelayEvent]
    split
    · by_cases hcommand : ∃ command, event.news = .frame (.command command)
      · obtain ⟨command, hnews⟩ := hcommand
        rw [hnews]
        by_cases hands : command.handsOut = false
        · exact h.of_quiet (quiet_deliverCommand c w hands)
        · cases command with
          | answer answer => exact h.onAnswer w answer
          | peerJoin peer => exact h.onPeerJoin w peer
          | peerLeft cid => exact h.onPeerLeft w cid
          | _ => exact absurd rfl hands
      · exact h.of_quiet (quiet_onNews c w fun command hnews => hcommand ⟨command, hnews⟩)
    · exact h
  | cancel => exact h.of_sameKeys (SameKeys.of_journal rfl rfl rfl)
  | frame place bytes => exact h.of_sameKeys (keeps_handleFrame c place bytes).toSameKeys

theorem accounted_new (id : CallId) (chat : ChatId) (us : UserId) (config : CallConfig)
    (secret : IdentitySecret) (callKey : Option MediaKey) :
    Accounted (new id chat us config secret callKey) :=
  ⟨KeyRing.sound_new config.keyCapacity, by simp [keysSent, new], by simp [new]⟩

/-- Only a command of our relay can lapse, and only one that hands out keys. -/
theorem Lapses.command {event : RelayEvent} (h : c.Lapses w (.event event)) :
    c.relay = some event.connection ∧
      ∃ command, event.news = .frame (.command command) ∧ command.handsOut = true := by
  obtain ⟨connection, news⟩ := event
  cases news with
  | frame frame =>
    cases frame with
    | command command =>
      cases command with
      | peerLeft cid => exact ⟨h.1, _, rfl, rfl⟩
      | answer answer => exact ⟨h.1, _, rfl, rfl⟩
      | _ => exact h.elim
    | error code text => exact h.elim
  | _ => exact h.elim

theorem state_rotateKey (c : Call) (w : Surroundings) : (c.rotateKey w).1.state = c.state := by
  obtain ⟨e, heq, -⟩ | ⟨relay, wrapped, -, heq⟩ := c.rotateKey_cases w <;> rw [heq]
  rfl

theorem state_of_inCall {apply : Call → Call × Bool}
    (hin : (c.inCall apply).1.state = .inProgress) : c.state = .inProgress := by
  rw [inCall] at hin
  split at hin
  · assumption
  · exact hin

/-- What a step makes of the lockout, if everybody was locked out before who left. -/
theorem lockedOut_take_iff (h : Accounted c) (hwired : Wired history [] [] c)
    (hbefore : c.state = .inProgress → c.LockedOut) (w : Surroundings) (step : CallStep)
    (hin : (c.take w step).state = .inProgress) :
    (c.take w step).LockedOut ↔ ¬ c.Lapses w step := by
  -- Steps that hand out no key cannot lapse either; three commands and the request to rotate
  -- are left.
  have hquiet : Quiet c (c.take w step) → ¬ c.Lapses w step →
      ((c.take w step).LockedOut ↔ ¬ c.Lapses w step) :=
    fun hq hnone => iff_of_true (lockedOut_of_quiet hq hin hbefore) hnone
  cases step with
  | request request =>
    by_cases hrotate : request = .rotateKey
    · subst hrotate
      have hs : c.state = .inProgress := (state_rotateKey c w).symm.trans hin
      exact iff_of_true ((lockedOut_rotateKey_iff h hwired.enrolled hs).2 (Or.inr (hbefore hs)))
        not_false
    · exact hquiet (quiet_perform c w hrotate) not_false
  | event event =>
    by_cases hrelay : c.relay = some event.connection
    · have htake : c.take w (.event event) = c.onNews w event.news := if_pos hrelay
      obtain ⟨connection, news⟩ := event
      by_cases hcommand : ∃ command, news = .frame (.command command) ∧ command.handsOut = true
      · obtain ⟨command, rfl, hhands⟩ := hcommand
        rw [htake] at hin ⊢
        cases command with
        | answer answer =>
          by_cases hs : c.state = .joining
          · refine (lockedOut_onAnswer_iff h hwired hs w answer hin).trans (not_congr ?_)
            simp only [Lapses, hrelay, hs, true_and]
          · have hsame : c.onNews w (.frame (.command (.answer answer))) = c :=
              congrArg Prod.fst (if_neg hs)
            rw [hsame] at hin ⊢
            exact iff_of_true (hbefore hin) fun hlapse => hs hlapse.2.1
        | peerJoin peer =>
          have hin : (c.onPeerJoin w peer).1.state = .inProgress := hin
          have hs := state_of_inCall hin
          exact iff_of_true (lockedOut_onPeerJoin hwired hs (hbefore hs) w peer) not_false
        | peerLeft cid =>
          have hin : (c.onPeerLeft w cid).1.state = .inProgress := hin
          have hs := state_of_inCall hin
          refine (lockedOut_onPeerLeft_iff h hwired hs (hbefore hs) w cid).trans (not_congr ?_)
          simp only [Lapses, hrelay, hs, true_and]
        | _ => cases hhands
      · refine hquiet ?_ fun hlapse => hcommand hlapse.command.2
        rw [htake]
        by_cases hframe : ∃ command, news = .frame (.command command)
        · obtain ⟨command, rfl⟩ := hframe
          have hhands : command.handsOut = false := by
            simpa using fun hh => hcommand ⟨command, rfl, hh⟩
          exact quiet_deliverCommand c w hhands
        · exact quiet_onNews c w fun command hnews => hframe ⟨command, hnews⟩
    · refine hquiet ?_ fun hlapse => hrelay hlapse.command.1
      rw [Call.take, onRelayEvent, if_neg hrelay]
      exact Quiet.refl c
  | cancel => exact hquiet (Or.inl (Keeps.of_journal rfl rfl rfl rfl rfl)) not_false
  | frame place bytes => exact hquiet (Or.inl (keeps_handleFrame c place bytes)) not_false

/-! ## Frames -/

/-- A frame that comes out encrypted was encrypted with our own keys. -/
theorem encrypt_of_encrypted {place : Nat} {bytes frame : List UInt8} {iv : InitVector}
    (h : (c.handleFrame place bytes).2 = .ok (.encrypted iv frame)) :
    ∃ e next : FrameEncryptor, e.iv = iv ∧ e.encrypt c.keys bytes = .ok (frame, next) := by
  rw [handleFrame] at h
  split at h
  · cases h
  · cases h
  · rename_i iv' serial _
    cases hopen : decryptFrame iv' (c.keysOf serial) bytes <;> rw [hopen] at h <;> cases h
  · rename_i e _
    split at h
    · cases h
    · rename_i next hencrypt
      cases h
      exact ⟨e, next, rfl, hencrypt⟩

/-- A frame that we encrypt names the key in use. -/
theorem keyInUse_of_encrypted {place : Nat} {bytes frame : List UInt8} {iv : InitVector}
    (h : (c.handleFrame place bytes).2 = .ok (.encrypted iv frame)) :
    c.keyInUse = some (Frame.keyId frame) := by
  obtain ⟨e, next, -, hencrypt⟩ := encrypt_of_encrypted h
  exact FrameEncryptor.keyId_encrypt hencrypt

/-! ## Runs -/

theorem Accounted.run (h : Accounted c) (steps : List (Surroundings × CallStep)) :
    Accounted (c.run steps) :=
  run_invariant (fun _ w step h => h.take w step) h steps

/-- A step that lapses leaves us in the call. -/
theorem Lapses.state_take {step : CallStep} (h : c.Lapses w step) :
    (c.take w step).state = .inProgress := by
  cases step with
  | event event =>
    obtain ⟨connection, news⟩ := event
    obtain ⟨hrelay, command, hnews, hhands⟩ := h.command
    dsimp only at hrelay hnews
    subst hnews
    have htake : c.take w (.event ⟨connection, .frame (.command command)⟩) =
        ((receiver w).deliverCommand command c).1 := if_pos hrelay
    rw [htake]
    cases command with
    | answer answer =>
      obtain ⟨-, hs, hok, -⟩ := h
      obtain ⟨e, herror, -⟩ | ⟨-, heq⟩ := onAnswer_fst hs w answer
      · cases herror.symm.trans hok
      · exact (congrArg Call.state heq).trans ((state_rotateOrReport _ w).trans (state_goIn _))
    | peerLeft cid =>
      obtain ⟨-, hs, -⟩ := h
      refine (?_ : (c.onPeerLeft w cid).1.state = .inProgress)
      rw [onPeerLeft, inCall, if_pos hs]
      split
      · exact (state_rotateOrReport _ w).trans ((state_removeSession c cid).trans hs)
      · exact hs
    | peerJoin peer => exact h.elim
    | _ => cases hhands
  | _ => exact h.elim

/-- A run locks everybody out who left, as long as no step of it lapses. -/
theorem run_lockedOut_iff (h : Accounted c) (hwired : Wired history [] [] c)
    (hbefore : c.state = .inProgress → c.LockedOut) (steps : List (Surroundings × CallStep)) :
    (∀ first, first <+: steps → (c.run first).state = .inProgress → (c.run first).LockedOut) ↔
      ∀ first step, first ++ [step] <+: steps → ¬ (c.run first).Lapses step.1 step.2 := by
  have hstep : ∀ first step, ((c.run first).state = .inProgress → (c.run first).LockedOut) →
      (c.run (first ++ [step])).state = .inProgress →
      ((c.run (first ++ [step])).LockedOut ↔ ¬ (c.run first).Lapses step.1 step.2) := by
    intro first step hfirst hin
    rw [run_append] at hin ⊢
    exact lockedOut_take_iff (h.run first) (hwired.run first) hfirst step.1 step.2 hin
  constructor
  · intro hall first step hprefix hlapse
    have hfirst := hall first ((List.prefix_append first [step]).trans hprefix)
    have hin : (c.run (first ++ [step])).state = .inProgress := by
      rw [run_append]
      exact hlapse.state_take
    exact (hstep first step hfirst hin).1 (hall _ hprefix hin) hlapse
  · -- by induction on the run so far, from its last step
    intro hnone first
    induction first using List.reverseRecOn with
    | nil => exact fun _ => hbefore
    | append_singleton first step ih =>
      intro hprefix hin
      have hfirst := ih ((List.prefix_append first [step]).trans hprefix)
      exact (hstep first step hfirst hin).2 (hnone first step hprefix)

/-- Every run of a new call locks everybody out who left, up to the steps that lapse, and every
frame that it encrypts names the key in use. -/
theorem lockout_along_runs (id : CallId) (chat : ChatId) (us : UserId) (config : CallConfig)
    (secret : IdentitySecret) (callKey : Option MediaKey)
    (steps : List (Surroundings × CallStep)) :
    ((∀ first, first <+: steps →
        ((new id chat us config secret callKey).run first).state = .inProgress →
          ((new id chat us config secret callKey).run first).LockedOut) ↔
      ∀ first step, first ++ [step] <+: steps →
        ¬ ((new id chat us config secret callKey).run first).Lapses step.1 step.2) ∧
    ∀ first, first <+: steps → ∀ place bytes iv frame,
      (((new id chat us config secret callKey).run first).handleFrame place bytes).2 =
          .ok (.encrypted iv frame) →
        ((new id chat us config secret callKey).run first).keyInUse = some (Frame.keyId frame) :=
  ⟨run_lockedOut_iff (accounted_new ..) (wired_new ..) (fun hin => by cases hin) steps,
    fun _ _ _ _ _ _ h => keyInUse_of_encrypted h⟩

/-! ## A lapse -/

/-- Nothing goes wrong, but the public key of one user alone is known. -/
def lapseSurroundings (relay : RelayState) : Surroundings :=
  { calm relay with
    publicKey := fun user =>
      if user.name = "U2" then some (9 :: List.replicate 31 0) else none }

/-- A participant is in the call and is sent our key; another one comes, whose public key is
not known; and the first one leaves. -/
def lapseSteps : List (Surroundings × CallStep) :=
  [(lapseSurroundings .new, .request (.join ⟨1⟩)),
    (lapseSurroundings .connected, .event ⟨1, .stateChanged .connected⟩),
    (lapseSurroundings .joined, .event ⟨1, .frame (.command (.answer
      ⟨1, ⟨"v=0\r\n", none, none, []⟩, 1700000000000, [⟨9, ⟨"U2"⟩, ⟨1⟩⟩], .empty, .empty, []⟩))⟩),
    (lapseSurroundings .joined, .event ⟨1, .frame (.command (.peerJoin ⟨10, ⟨"U3"⟩, ⟨1⟩⟩))⟩),
    (lapseSurroundings .joined, .event ⟨1, .frame (.command (.peerLeft 9))⟩)]

/-- The call in which that happens. -/
def lapsed : Call :=
  (new ⟨"call"⟩ ⟨"chat"⟩ ⟨"U0"⟩ ⟨1, 16, 1, 1, none⟩ (Vector.replicate 32 1) none).run lapseSteps

/-- A participant that left can decrypt what follows: the key that it was sent stays in use. -/
theorem lockout_lapses : lapsed.state = .inProgress ∧ lapsed.HasKey 9 ∧
    lapsed.sessions.contains 9 = false :=
  ⟨by decide +kernel, ⟨0, by decide +kernel, by decide +kernel⟩, by decide +kernel⟩

end Call
end GroupCall
