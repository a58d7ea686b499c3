/-
# Steps that do not hand out keys

Leaving ends a participation with its keys; losing the link ends the sessions, but we are
not in the call then.  Apart from rotations, from participants that come and go and from the
answer, nothing else has to do with who holds our keys.
-/
import GroupCall.Proofs.Keys.Holders

namespace GroupCall
namespace Call

variable {c c' : Call}

/-! ## Leaving -/

theorem state_foldl_releaseSlot (mids : List Mid) (c : Call) :
    (mids.foldl releaseSlot c).state = c.state :=
  state_foldl (fun c mid => (Rewired.releaseSlot c mid).state_eq) mids c

@[simp] theorem state_removeSession (c : Call) (cid : Cid) :
    (c.removeSession cid).state = c.state := by
  rw [removeSession]
  split
  · rfl
  · exact state_foldl_releaseSlot _ _

@[simp] theorem state_clearSessions (c : Call) : c.clearSessions.state = c.state :=
  state_foldl state_removeSession _ c

@[simp] theorem state_closeMedia (c : Call) : c.closeMedia.state = c.state := by
  obtain ⟨engine, heq⟩ := c.closeMedia_eq
  rw [heq]

@[simp] theorem state_dropRelay (c : Call) : c.dropRelay.state = c.state := by
  rw [dropRelay]
  split <;> rfl

theorem moveTo_eq {next : CallState} (h : c.state.canTransition next = true) :
    c.moveTo next = { c with state := next }.tell (.stateChanged next) := by
  rw [moveTo, setState, CallState.transition, if_pos h]

/-- What is left when a participation is over. -/
theorem ended_quit (hs : c.state = .terminatingParticipation) (code : TermCode) :
    Ended c (c.quit code) := by
  have hkeys := ((SameKeys.dropRelay c).trans (SameKeys.clearSessions _)).trans
    (SameKeys.closeMedia _)
  have hsilent := SameKeys.setSpeaker c.dropRelay.clearSessions.closeMedia.forgetParticipation .none
  have hmoved := hsilent.trans (SameKeys.setState _ .clientNotParticipating)
  have hstate :
      ((c.dropRelay.clearSessions.closeMedia.forgetParticipation).setSpeaker .none).state =
        .terminatingParticipation := by
    rw [state_setSpeaker]
    exact (state_closeMedia _).trans ((state_clearSessions _).trans ((state_dropRelay c).trans hs))
  refine ⟨?_, ?_, ?_, ?_⟩
  · exact hmoved.keys.trans (congrArg KeyRing.clear hkeys.keys)
  · exact hmoved.sendKey
  · exact keysSent_record _ _
  · rw [quit, moveTo_eq (by rw [hstate]; rfl)]
    exact fun h => by cases h

theorem quiet_leave (c : Call) (code : TermCode) : Quiet c (c.leave code) := by
  have hleaving : Keeps c c.leaving := by
    rw [leaving]
    split
    · exact Keeps.setState c (by simp)
    · exact Keeps.refl c
  rw [leave_eq]
  split
  · rename_i hs
    exact Quiet.trans (Or.inl hleaving) (Or.inr (ended_quit hs code))
  · exact Or.inl hleaving

theorem quiet_hangup (c : Call) : Quiet c c.hangup.1 := by
  rw [hangup]
  split
  · exact quiet_leave c _
  · exact Quiet.refl c

theorem quiet_destroy (c : Call) : Quiet c c.destroy := by
  have hdeparted : Quiet c c.departed := by
    rw [departed]
    split
    · exact quiet_leave c _
    · exact Quiet.refl c
  have hset : Keeps c.departed (c.departed.setState .destroyed).1 := Keeps.setState _ (by simp)
  rw [destroy_eq]
  split
  · exact Quiet.refl c
  · split
    · exact hdeparted.trans (Or.inl (hset.trans (Keeps.of_journal rfl rfl rfl rfl rfl)))
    · exact hdeparted.trans (Or.inl hset)

/-! ## Joining -/

theorem quiet_connect (c : Call) (w : Surroundings) (answer : Except String String) :
    Quiet c (c.connect w answer).1 := by
  cases answer with
  | error reason => exact quiet_leave c _
  | ok url =>
    have hsought : Keeps c (c.record (.sought url)) :=
      Keeps.of_deed (.sought url) (fun _ => rfl) rfl rfl rfl rfl rfl
    simp only [connect]
    split
    · exact Quiet.trans (Or.inl hsought) (quiet_leave _ _)
    · rename_i relay _
      exact Or.inl (hsought.trans
        (Keeps.of_deed (.connected relay url) (fun _ => rfl) rfl rfl rfl rfl rfl))

theorem quiet_join (c : Call) (w : Surroundings) (av : AvFlags) : Quiet c (c.join w av).1 := by
  have hbegun : Quiet c (c.beginJoin av).1 := by
    rw [beginJoin]
    split
    · have hav : Keeps c { c with av := av } := Keeps.of_journal rfl rfl rfl rfl rfl
      exact Or.inl (hav.trans (Keeps.setState _ (by simp)))
    · exact Quiet.refl c
  rw [join]
  split <;> rename_i heq <;> rw [heq] at hbegun
  · exact hbegun
  · split
    · exact hbegun.trans (quiet_connect _ w _)
    · exact hbegun

/-! ## The link -/

theorem keeps_installMedia (c : Call) (sdp : Sdp) (ivs : SendIvs) (places : List Nat) :
    Keeps c (c.installMedia sdp ivs places) := by
  match places with
  | _ :: _ :: _ :: _ =>
    rw [installMedia]
    refine Keeps.trans ?_ (Keeps.of_rewired (Rewired.applyLocalAv _))
    exact Keeps.of_journal rfl rfl rfl rfl rfl
  | [] | [_] | [_, _] => exact Keeps.refl c

theorem keeps_ensureMedia (c : Call) (w : Surroundings) : Keeps c (c.ensureMedia w).1 := by
  rw [ensureMedia]
  split
  · have hadded : Keeps c { c with engine := (c.engine.addTracks w.faults c.config.tracks).1 } :=
      Keeps.of_journal rfl rfl rfl rfl rfl
    obtain ⟨e, heq⟩ | ⟨places, sdp, -, -, heq⟩ := c.setUpMedia_cases w <;> rw [heq]
    · exact hadded
    · exact hadded.trans (keeps_installMedia _ sdp w.ivs places)
  · exact Keeps.refl c

theorem keeps_sendJoin (c : Call) (w : Surroundings) : Keeps c (c.sendJoin w).1 := by
  obtain ⟨e, heq⟩ | ⟨relay, sdp, ivs, -, -, heq⟩ := c.sendJoin_cases w <;> rw [heq]
  · exact Keeps.refl c
  · have hposted : Keeps c (c.post relay (c.joinRequest sdp ivs)) :=
      Keeps.of_deed (.posted relay (c.joinRequest sdp ivs)) (fun _ => rfl) rfl rfl rfl rfl rfl
    exact hposted.trans (Keeps.setState _ (by simp))

theorem keeps_linkUp (c : Call) (w : Surroundings) : Keeps c (c.linkUp w).1 := by
  rw [linkUp]
  split
  · have hmedia := keeps_ensureMedia c w
    split <;> rename_i heq <;> rw [heq] at hmedia
    · exact hmedia
    · exact hmedia.trans (keeps_sendJoin _ w)
  · exact Keeps.refl c

theorem keeps_linkLost (c : Call) : Keeps c c.linkLost := by
  rw [linkLost]
  split
  · rename_i hs
    have hcleared :
        SameKeys c { c.clearSessions with vthumbWanted := false, hiresWanted := false } :=
      (SameKeys.clearSessions c).trans (SameKeys.of_journal rfl rfl rfl)
    have hsilent := (hcleared.trans (SameKeys.setSpeaker _ .none)).trans
      (SameKeys.of_rewired (Rewired.applyLocalAv _))
    have hstate : (({ c.clearSessions with
        vthumbWanted := false, hiresWanted := false }.setSpeaker .none).applyLocalAv).state =
          c.state := by
      rw [(Rewired.applyLocalAv _).state_eq, state_setSpeaker]
      exact state_clearSessions c
    refine (hsilent.trans (SameKeys.setState _ .connecting)).keeps_of_away ?_
    have hmove : c.state.canTransition .connecting = true := by
      rcases hs with hs | hs <;> rw [hs] <;> rfl
    change (Call.moveTo _ .connecting).state ≠ .inProgress
    rw [moveTo_eq (by rw [hstate]; exact hmove)]
    exact fun hin => by cases hin
  · exact Keeps.refl c

/-! ## Requests -/

/-- Whatever is found is a command that hands out no key. -/
def Keyless (find : Call → Except CallError OutboundCommand) : Prop :=
  ∀ c command, find c = .ok command → ∀ id wrapped, command ≠ .key id wrapped

theorem keyless_fixed {command : OutboundCommand}
    (hcommand : ∀ id wrapped, command ≠ .key id wrapped) : Keyless fun _ => .ok command :=
  fun _ _ heq => by cases heq; exact hcommand

/-- A command for a participant, which has to be connected. -/
theorem keyless_session {cid : Cid} {find : Session → OutboundCommand}
    (hfind : ∀ s id wrapped, find s ≠ .key id wrapped) :
    Keyless fun c => (c.requireSession cid).map find := by
  intro c command hcommand
  dsimp only at hcommand
  cases hs : c.requireSession cid with
  | error e =>
    rw [hs] at hcommand
    cases hcommand
  | ok s =>
    rw [hs] at hcommand
    cases hcommand
    exact hfind s

/-- A command that is no key is handed to the relay as it is. -/
theorem keeps_post (c : Call) (relay : Nat) {command : OutboundCommand}
    (hkey : ∀ id wrapped, command ≠ .key id wrapped) : Keeps c (c.post relay (.send command)) := by
  refine Keeps.of_deed (.posted relay (.send command)) (fun sent => ?_) rfl rfl rfl rfl rfl
  cases command with
  | key id wrapped => exact absurd rfl (hkey id wrapped)
  | _ => rfl

/-- A command, and what follows from it. -/
theorem keeps_command {w : Surroundings} {operation : String}
    {find : Call → Except CallError OutboundCommand} {follow : Call → Call}
    (hfind : Keyless find) (hfollow : ∀ c, Keeps c (follow c)) :
    Keeps c (c.attempt (command w operation find follow)).1 :=
  command_invariant (Keeps.refl c) fun relay found _ hfound _ =>
    (keeps_post c relay (hfind c found hfound)).trans (hfollow _)

theorem keeps_moderate {w : Surroundings} {operation : String}
    {find : Call → Except CallError OutboundCommand} {follow : Call → Call}
    (hfind : Keyless find) (hfollow : ∀ c, Keeps c (follow c)) :
    Keeps c (c.attempt (moderate w operation find follow)).1 :=
  moderate_invariant (Keeps.refl c) fun _ => keeps_command hfind hfollow

theorem keeps_speak (c : Call) (state : SpeakerState) : Keeps c (c.speak state) :=
  (Keeps.setSpeaker c state).trans (Keeps.of_rewired (Rewired.applyLocalAv _))

theorem keeps_requestSpeaker (c : Call) (w : Surroundings) (add : Bool) :
    Keeps c (c.requestSpeaker w add).1 := by
  rw [requestSpeaker]
  split
  · refine keeps_command (keyless_fixed (by simp)) fun c => ?_
    split
    · exact Keeps.setSpeaker c .pending
    · exact Keeps.refl c
  · refine keeps_command (keyless_fixed (by simp)) fun c => ?_
    split
    · exact Keeps.setSpeaker c .none
    · exact Keeps.refl c

theorem keeps_approveSpeakRequest (c : Call) (w : Surroundings) (cid : Cid) (allow : Bool) :
    Keeps c (c.approveSpeakRequest w cid allow).1 := by
  refine keeps_moderate (keyless_session fun _ id wrapped => ?_) fun c =>
    Keeps.of_rewired (Rewired.setSpeakRequested c cid false)
  split <;> simp

theorem keeps_stopSpeak (c : Call) (w : Surroundings) (cid : Cid) :
    Keeps c (c.stopSpeak w cid).1 := by
  rw [stopSpeak]
  split
  · exact keeps_command (keyless_fixed (by simp)) fun c => keeps_speak c .none
  · exact keeps_moderate (keyless_session (by simp)) Keeps.refl

theorem keeps_updateAv (c : Call) (w : Surroundings) (av : AvFlags) :
    Keeps c (c.updateAv w av).1 := by
  have hav : Keeps c { c with av := av } := Keeps.of_journal rfl rfl rfl rfl rfl
  have hset : Keeps c (c.withFlags av) := hav.trans (Keeps.of_rewired (Rewired.applyLocalAv _))
  exact updateAv_invariant (Keeps.refl c) hset fun relay _ _ =>
    hset.trans (keeps_post _ relay (by simp))

theorem keeps_addParticipant (c : Call) (user : UserId) : Keeps c (c.addParticipant user).1 :=
  addParticipant_invariant (Keeps.refl c)
    (Keeps.of_deed (.told (.participantAdded user)) (fun _ => rfl) rfl rfl rfl rfl rfl)

theorem keeps_removeParticipant (c : Call) (user : UserId) :
    Keeps c (c.removeParticipant user).1 :=
  removeParticipant_invariant (Keeps.refl c)
    (Keeps.of_deed (.told (.participantRemoved user)) (fun _ => rfl) rfl rfl rfl rfl rfl)

theorem keeps_abortReconnect (c : Call) : Keeps c c.abortReconnect.1 :=
  abortReconnect_invariant (Keeps.refl c) fun relay _ =>
    Keeps.of_deed (.aborted relay) (fun _ => rfl) rfl rfl rfl rfl rfl

/-- Requests have nothing to do with who holds our keys, but for a rotation. -/
theorem quiet_perform (c : Call) (w : Surroundings) {request : CallRequest}
    (hrotate : request ≠ .rotateKey) : Quiet c (c.perform w request).1 := by
  cases request with
  | join av => exact quiet_join c w av
  | hangup => exact quiet_hangup c
  | abortReconnect => exact Or.inl (keeps_abortReconnect c)
  | requestSpeaker add => exact Or.inl (keeps_requestSpeaker c w add)
  | approveSpeakRequest cid allow => exact Or.inl (keeps_approveSpeakRequest c w cid allow)
  | stopSpeak cid => exact Or.inl (keeps_stopSpeak c w cid)
  | getHires cid quality => exact Or.inl (keeps_command (keyless_session (by simp)) Keeps.refl)
  | delHires cids =>
    exact Or.inl (keeps_command (keyless_fixed (by simp)) fun c =>
      Keeps.of_rewired (Rewired.releaseRoles c .hires cids))
  | delVthumbs cids =>
    exact Or.inl (keeps_command (keyless_fixed (by simp)) fun c =>
      Keeps.of_rewired (Rewired.releaseRoles c .vthumb cids))
  | getVthumbs _ | setHiresQuality _ _ | setLayer _ _ _ =>
    exact Or.inl (keeps_command (keyless_fixed (by simp)) Keeps.refl)
  | updateAv av => exact Or.inl (keeps_updateAv c w av)
  | rotateKey => exact absurd rfl hrotate
  | addParticipant user => exact Or.inl (keeps_addParticipant c user)
  | removeParticipant user => exact Or.inl (keeps_removeParticipant c user)
  | snapshot => exact Quiet.refl c
  | destroy => exact quiet_destroy c

/-! ## Commands -/

theorem keeps_inCall {apply : Call → Call × Bool} (hin : ∀ c, Keeps c (apply c).1) (c : Call) :
    Keeps c (c.inCall apply).1 := by
  rw [inCall]
  split
  · exact hin c
  · exact Keeps.refl c

theorem keeps_onAv (cid : Cid) (av : AvFlags) (c : Call) : Keeps c (c.onAv cid av).1 := by
  refine keeps_inCall (fun c => ?_) c
  split
  · have hset := (Rewired.setAv c cid av).trans (Rewired.applyRemoteAv _ cid)
    exact (Keeps.of_rewired hset).trans
      (Keeps.of_deed (.told (.avChanged cid av)) (fun _ => rfl) rfl rfl rfl rfl rfl)
  · exact Keeps.refl c

theorem keeps_takeKey (c : Call) (w : Surroundings) (id : KeyId) (s : Session)
    (wrapped : List UInt8) : Keeps c (c.takeKey w id s wrapped).1 := by
  obtain ⟨e, -, heq⟩ | ⟨plain, -, heq⟩ := c.takeKey_cases w id s wrapped <;> rw [heq]
  · exact Keeps.refl c
  · refine ⟨SameKeys.of_journal rfl rfl rfl, fun hin => ⟨hin, fun cid hcid => ?_⟩⟩
    simp only [Table.contains, Table.get?_modify] at hcid ⊢
    split
    · simpa using hcid
    · exact hcid

theorem keeps_onKey (w : Surroundings) (id : KeyId) (sender : Cid) (bytes : List UInt8) (c : Call) :
    Keeps c (c.onKey w id sender bytes).1 := by
  refine keeps_inCall (fun c => ?_) c
  split
  · exact Keeps.refl c
  · rename_i s hs
    have hkey := keeps_takeKey c w id s bytes
    split <;> rename_i heq <;> rw [heq] at hkey
    · exact hkey
    · exact hkey.trans (Keeps.report _ _)

theorem keeps_noteSpeakRequest (c : Call) (cid : Cid) : Keeps c (c.noteSpeakRequest cid) := by
  rw [noteSpeakRequest]
  split
  · split
    · exact Keeps.setSpeaker c .pending
    · exact Keeps.refl c
  · exact Keeps.of_rewired (Rewired.setSpeakRequested c cid true)

theorem keeps_foldl {α : Type} {f : Call → α → Call} (hf : ∀ c a, Keeps c (f c a)) (l : List α)
    (c : Call) : Keeps c (l.foldl f c) :=
  foldl_related Keeps.refl Keeps.trans hf l c

theorem keeps_onSpeakReqs (cids : List Cid) (c : Call) : Keeps c (c.onSpeakReqs cids).1 :=
  keeps_inCall (fun c => (keeps_foldl keeps_noteSpeakRequest cids c).trans
    (Keeps.of_deed (.told (.speakRequests cids)) (fun _ => rfl) rfl rfl rfl rfl rfl)) c

theorem keeps_onSpeakReqDel (cid : Cid) (c : Call) : Keeps c (c.onSpeakReqDel cid).1 := by
  rw [onSpeakReqDel]
  split
  · split
    · exact Keeps.setSpeaker c .none
    · exact Keeps.refl c
  · exact Keeps.of_rewired (Rewired.setSpeakRequested c cid false)

theorem keeps_onSpeakOn (cid : Option Cid) (audio : Option TrackDescriptor) (c : Call) :
    Keeps c (c.onSpeakOn cid audio).1 := by
  refine keeps_inCall (fun c => ?_) c
  split
  · exact keeps_speak c .active
  · rename_i cid' _
    split
    · exact Keeps.refl c
    · rename_i track
      have hbound := Rewired.bindTrack c ⟨cid', .audio, track⟩
      dsimp only at hbound
      split <;> rename_i heq <;> rw [heq] at hbound
      · exact Keeps.of_rewired hbound
      · exact Keeps.of_rewired (hbound.trans (Rewired.setSpeakRequested _ cid' false))

theorem keeps_onSpeakOff (cid : Option Cid) (c : Call) : Keeps c (c.onSpeakOff cid).1 := by
  rw [onSpeakOff]
  split
  · exact keeps_speak c .none
  · exact Keeps.of_rewired (Rewired.releaseRole c _ .audio)

/-- What the relay wants of our video. -/
theorem keeps_wanted (c : Call) (vthumb hires : Bool) :
    Keeps c { c with vthumbWanted := vthumb, hiresWanted := hires }.applyLocalAv := by
  refine Keeps.trans ?_ (Keeps.of_rewired (Rewired.applyLocalAv _))
  exact Keeps.of_journal rfl rfl rfl rfl rfl

theorem quiet_onError (code : Int) (text : Option String) (c : Call) :
    Quiet c (c.onError code text).1 := by
  have htold : Keeps c (c.tell (.relayError code (text.getD ""))) :=
    Keeps.of_deed (.told (.relayError code (text.getD ""))) (fun _ => rfl) rfl rfl rfl rfl rfl
  exact Quiet.trans (Or.inl (htold.trans (Keeps.report _ _))) (quiet_leave _ _)

end Call

/-- A command may hand out keys: somebody comes or goes, or we do. -/
def Command.handsOut : Command → Bool
  | .answer _ => true
  | .peerJoin _ => true
  | .peerLeft _ => true
  | _ => false

namespace Call

variable {c c' : Call}

theorem quiet_deliverCommand (c : Call) (w : Surroundings) {command : Command}
    (h : command.handsOut = false) : Quiet c ((receiver w).deliverCommand command c).1 := by
  cases command with
  | av cid flags => exact Or.inl (keeps_onAv cid flags c)
  | answer a => cases h
  | key id sender bytes => exact Or.inl (keeps_onKey w id sender bytes c)
  | vthumbs tracks =>
    exact Or.inl (keeps_inCall (fun c => Keeps.of_rewired (Rewired.bindTracks c .vthumb tracks)) c)
  | vthumbStart => exact Or.inl (keeps_wanted c true c.hiresWanted)
  | vthumbStop => exact Or.inl (keeps_wanted c false c.hiresWanted)
  | hires tracks =>
    exact Or.inl (keeps_inCall (fun c => Keeps.of_rewired (Rewired.bindTracks c .hires tracks)) c)
  | hiresStart => exact Or.inl (keeps_wanted c c.vthumbWanted true)
  | hiresStop => exact Or.inl (keeps_wanted c c.vthumbWanted false)
  | speakReqs cids => exact Or.inl (keeps_onSpeakReqs cids c)
  | speakReqDel cid => exact Or.inl (keeps_onSpeakReqDel cid c)
  | speakOn cid audio => exact Or.inl (keeps_onSpeakOn cid audio c)
  | speakOff cid => exact Or.inl (keeps_onSpeakOff cid c)
  | peerJoin peer => cases h
  | peerLeft cid => cases h
  | bye reason => exact quiet_leave c _
  | modAdd user => exact Or.inl (Keeps.setModerator c user true)
  | modDel user => exact Or.inl (Keeps.setModerator c user false)

/-- News of the relay connection that are no command. -/
theorem quiet_onNews (c : Call) (w : Surroundings) {news : RelayNews}
    (h : ∀ command, news ≠ .frame (.command command)) : Quiet c (c.onNews w news) := by
  cases news with
  | stateChanged state =>
    cases state with
    | connected =>
      have hup := keeps_linkUp c w
      rw [onNews]
      split <;> rename_i heq <;> rw [heq] at hup
      · exact Or.inl hup
      · exact Quiet.trans (Or.inl (hup.trans (Keeps.report _ _))) (quiet_leave _ _)
    | disconnected => exact Or.inl (keeps_linkLost c)
    | _ => exact Quiet.refl c
  | frame frame =>
    cases frame with
    | command command => exact absurd rfl (h command)
    | error code text => exact quiet_onError code text c
  | failed error => exact Quiet.trans (Or.inl (Keeps.report c _)) (quiet_leave _ _)
  | closed => exact quiet_leave c _

theorem keeps_handleFrame (c : Call) (place : Nat) (bytes : List UInt8) :
    Keeps c (c.handleFrame place bytes).1 := by
  rw [handleFrame]
  split
  · exact Keeps.refl c
  · exact Keeps.refl c
  · exact Keeps.refl c
  · split
    · exact Keeps.refl c
    · exact Keeps.of_journal rfl rfl rfl rfl rfl

end Call
end GroupCall
