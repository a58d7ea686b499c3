/-
# Every step keeps sessions and slots in step

Every request, every command of the relay, every change of the link and every frame leaves
sessions and slots in agreement, with the history extended by what was bound.  Most of them
do not touch either.
-/
import GroupCall.Proofs.Slots.History

namespace GroupCall
namespace Call

variable {c c' : Call} {history : List Binding}

/-! ## Operations on other parts of a call -/

namespace SameMedia

theorem rotateKey (c : Call) (w : Surroundings) : SameMedia c (c.rotateKey w).1 := by
  obtain ⟨e, heq, -⟩ | ⟨relay, wrapped, -, heq⟩ := c.rotateKey_cases w <;> rw [heq]
  · exact refl c
  · exact ⟨rfl, rfl, rfl, rfl⟩

theorem rotateOrReport (c : Call) (w : Surroundings) : SameMedia c (c.rotateOrReport w) := by
  have hrotate := rotateKey c w
  rw [Call.rotateOrReport]
  split <;> rename_i heq <;> rw [heq] at hrotate
  · exact hrotate
  · exact hrotate.trans (report _ _)

theorem sendKeyTo (c : Call) (w : Surroundings) (cid : Cid) :
    SameMedia c (c.sendKeyTo w cid).1 := by
  obtain ⟨-, heq⟩ | ⟨e, heq⟩ | ⟨s, id, plain, relay, bytes, -, -, -, -, heq⟩ :=
    c.sendKeyTo_cases w cid <;> rw [heq]
  · exact refl c
  · exact refl c
  · exact ⟨rfl, rfl, rfl, rfl⟩

theorem setRemote (c : Call) (w : Surroundings) (sdp : Sdp) :
    SameMedia c (c.setRemote w sdp).1 := by
  rw [Call.setRemote]
  split
  · exact refl c
  · split
    · exact refl c
    · rename_i engine hengine
      rw [MediaEngine.setRemote] at hengine
      split at hengine
      · cases hengine
      · cases hengine
        exact ⟨rfl, rfl, rfl, rfl⟩

end SameMedia

namespace Wired

theorem takeKey (h : Wired history [] [] c) (w : Surroundings) (id : KeyId) (s : Session)
    (wrapped : List UInt8) : Wired history [] [] (c.takeKey w id s wrapped).1 := by
  obtain ⟨e, -, heq⟩ | ⟨plain, -, heq⟩ := c.takeKey_cases w id s wrapped <;> rw [heq]
  · exact h
  · refine h.modify s.cid ?_ ?_ ?_ [] ?_ (by simp)
    · exact fun _ => rfl
    · exact fun _ => rfl
    · rintro s (_ | _ | _) <;> rfl
    · exact fun _ _ _ => rfl

theorem speak (h : Wired history [] [] c) (state : SpeakerState) :
    Wired history [] [] (c.speak state) :=
  (h.of_sameMedia (SameMedia.setSpeaker c state)).applyLocalAv

theorem noteSpeakRequest (h : Wired history [] [] c) (cid : Cid) :
    Wired history [] [] (c.noteSpeakRequest cid) := by
  rw [Call.noteSpeakRequest]
  split
  · split
    · exact h.of_sameMedia (SameMedia.setSpeaker c .pending)
    · exact h
  · exact h.setSpeakRequested cid true

theorem noteSpeakRequests (h : Wired history [] [] c) (cids : List Cid) :
    Wired history [] [] (cids.foldl Call.noteSpeakRequest c) :=
  h.foldl (fun _ cid h => h.noteSpeakRequest cid) cids

end Wired

/-! ## The answer -/

/-- What an answer says of us and the others, without its tracks. -/
def meet (c : Call) (answer : Answer) : Call :=
  answer.peers.foldl (fun c peer => (c.addSession peer).1)
    (answer.moderators.foldl (fun c user => c.setModerator user true)
      { c with cid := answer.cid, startedAt := some answer.startedAt })

/-- The tracks of the roster are wiring. -/
theorem Rewired.takeRoster (c : Call) (answer : Answer) :
    Rewired (c.meet answer) (c.takeRoster answer) :=
  Rewired.foldl (fun c e => Rewired.bindTrack c (Binding.filed .vthumb e)) answer.vthumbs.entries _

/-- A stage that no operation of a fold leaves. -/
theorem state_foldl {α : Type} {f : Call → α → Call} (hf : ∀ c a, (f c a).state = c.state)
    (l : List α) (c : Call) : (l.foldl f c).state = c.state :=
  foldl_related (R := fun c c' => c'.state = c.state) (fun _ => rfl) (fun h h' => h'.trans h) hf l c

@[simp] theorem state_setSpeaker (c : Call) (state : SpeakerState) :
    (c.setSpeaker state).state = c.state := by
  rw [setSpeaker]
  split <;> rfl

@[simp] theorem state_setModerator (c : Call) (user : UserId) (add : Bool) :
    (c.setModerator user add).state = c.state := by
  simp only [setModerator]
  split <;> rfl

@[simp] theorem state_addSession (c : Call) (peer : PeerInfo) :
    (c.addSession peer).1.state = c.state := by
  rw [addSession]
  split
  · split
    · rfl
    · exact (Rewired.applyRemoteAv _ peer.cid).state_eq
  · rfl

@[simp] theorem state_takeRoster (c : Call) (answer : Answer) :
    (c.takeRoster answer).state = c.state := by
  rw [(Rewired.takeRoster c answer).state_eq, meet,
    state_foldl (fun c peer => state_addSession c peer),
    state_foldl (fun c user => state_setModerator c user true)]

@[simp] theorem state_admitSpeaker (c : Call) (cid : Cid) (track : TrackDescriptor) :
    (c.admitSpeaker cid track).state = c.state := by
  rw [admitSpeaker]
  split
  · exact state_setSpeaker c .active
  · exact (Rewired.bindTrack c ⟨cid, .audio, track⟩).state_eq

@[simp] theorem state_setRemote (c : Call) (w : Surroundings) (sdp : Sdp) :
    (c.setRemote w sdp).1.state = c.state := by
  rw [setRemote]
  split
  · rfl
  · split <;> rfl

@[simp] theorem state_rotateOrReport (c : Call) (w : Surroundings) :
    (c.rotateOrReport w).state = c.state := by
  obtain ⟨e, -, heq, -⟩ | ⟨relay, wrapped, -, heq⟩ := c.rotateOrReport_cases w <;> rw [heq] <;> rfl

@[simp] theorem cid_rotateOrReport (c : Call) (w : Surroundings) :
    (c.rotateOrReport w).cid = c.cid := by
  obtain ⟨e, -, heq, -⟩ | ⟨relay, wrapped, -, heq⟩ := c.rotateOrReport_cases w <;> rw [heq] <;> rfl

/-- We are in the call, with our tracks as we want them. -/
def goIn (c : Call) : Call :=
  ({ c with state := .inProgress }.tell (.stateChanged .inProgress)).applyLocalAv

@[simp] theorem state_goIn (c : Call) : c.goIn.state = .inProgress :=
  (Rewired.applyLocalAv _).state_eq

/-- Coming from the stage before it, we enter the call. -/
theorem enter_fst (hs : c.state = .joining) (w : Surroundings) :
    (c.enter w).1 = c.goIn.rotateOrReport w := by
  rw [enter, setState, hs]
  rfl

theorem state_enter (hs : c.state = .joining) (w : Surroundings) :
    (c.enter w).1.state = .inProgress := by
  rw [enter_fst hs, state_rotateOrReport, state_goIn]

/-- Whether an offer is admitted does not change as we enter the call. -/
theorem admits_enter (hs : c.state = .joining) (w : Surroundings) :
    (c.enter w).1.admits = c.admits := by
  rw [enter_fst hs, (SameMedia.rotateOrReport c.goIn w).admits_eq fun cid => by simp [isUs], goIn,
    (Rewired.applyLocalAv _).admits_eq]
  refine SameMedia.admits_eq ⟨rfl, rfl, rfl, rfl⟩ fun cid => ?_
  rw [isUs, isUs, hs]
  rfl

theorem state_admitSpeakers (speakers : List (Cid × TrackDescriptor)) (c : Call) :
    (speakers.foldl (fun c e => c.admitSpeaker e.1 e.2) c).state = c.state :=
  state_foldl (fun c e => state_admitSpeaker c e.1 e.2) speakers c

theorem admits_admitSpeakers (speakers : List (Cid × TrackDescriptor)) (c : Call) :
    (speakers.foldl (fun c e => c.admitSpeaker e.1 e.2) c).admits = c.admits := by
  induction speakers generalizing c with
  | nil => rfl
  | cons e rest ih => exact (ih _).trans (admits_admitSpeaker c e.1 e.2)

namespace Wired

theorem addSessions (h : Wired history [] [] c) (peers : List PeerInfo) :
    Wired history [] [] (peers.foldl (fun c peer => (c.addSession peer).1) c) :=
  h.foldl (fun _ peer h => h.addSession peer) peers

theorem setModerators (h : Wired history [] [] c) (users : List UserId) :
    Wired history [] [] (users.foldl (fun c user => c.setModerator user true) c) :=
  h.foldl (fun c user h => h.of_sameMedia (SameMedia.setModerator c user true)) users

theorem meet (h : Wired history [] [] c) (answer : Answer) :
    Wired history [] [] (c.meet answer) :=
  ((h.of_sameMedia (d := { c with cid := answer.cid, startedAt := some answer.startedAt })
    ⟨rfl, rfl, rfl, rfl⟩).setModerators answer.moderators).addSessions answer.peers

theorem takeRoster (h : Wired history [] [] c) (answer : Answer) :
    Wired (history ++ (answer.vthumbs.entries.map (Binding.filed .vthumb)).filter
      (c.takeRoster answer).admits) [] [] (c.takeRoster answer) := by
  rw [(Rewired.takeRoster c answer).admits_eq]
  exact foldl_binding (Binding.filed .vthumb)
    (fun e h => h.bindVideo (Binding.filed .vthumb e) (by simp [Binding.filed]))
    (fun c e => (Rewired.bindTrack c (Binding.filed .vthumb e)).admits_eq)
    answer.vthumbs.entries (h.meet answer)

theorem admitSpeakers (h : Wired history [] [] c) (speakers : List (Cid × TrackDescriptor)) :
    Wired (history ++ (speakers.map (Binding.filed .audio)).filter c.admits) [] []
      (speakers.foldl (fun c e => c.admitSpeaker e.1 e.2) c) :=
  foldl_binding (Binding.filed .audio) (fun e h => h.admitSpeaker e.1 e.2)
    (fun c e => admits_admitSpeaker c e.1 e.2) speakers h

theorem enter (h : Wired history [] [] c) (w : Surroundings) :
    Wired history [] [] (c.enter w).1 := by
  have hset := h.of_sameMedia (SameMedia.setState c .inProgress)
  rw [Call.enter]
  split <;> rename_i heq <;> rw [heq] at hset
  · exact hset
  · exact hset.applyLocalAv.of_sameMedia (SameMedia.rotateOrReport _ w)

theorem onAnswer (h : Wired history [] [] c) (w : Surroundings) (answer : Answer) :
    Wired (history ++ c.bindingsOf (c.onAnswer w answer).1 (.answer answer)) [] []
      (c.onAnswer w answer).1 := by
  rw [Call.onAnswer]
  split
  · rename_i hs
    have hremote := h.of_sameMedia (SameMedia.setRemote c w answer.sdp)
    have hstate := state_setRemote c w answer.sdp
    split <;> rename_i heq <;> rw [heq] at hremote hstate
    · -- the answer was refused, so we did not come in and bound nothing
      rename_i c₁ e
      have hnone : c.bindingsOf (c₁.report e) (.answer answer) = [] :=
        if_neg fun hin => by
          have hin : c₁.state = .inProgress := hin.2
          rw [hstate, hs] at hin
          cases hin
      exact (hremote.of_sameMedia (SameMedia.report c₁ e)).append_nil hnone
    · rename_i c₁
      have hspeakers := (hremote.takeRoster answer).admitSpeakers answer.speakers.entries
      have hjoining : (answer.speakers.entries.foldl (fun c e => c.admitSpeaker e.1 e.2)
          (c₁.takeRoster answer)).state = .joining := by
        rw [state_admitSpeakers, state_takeRoster, hstate, hs]
      have hbound := hspeakers.enter w
      -- what was admitted on the way in is what is admitted once we are in
      have hadmits := admits_enter hjoining w
      rw [admits_admitSpeakers] at hadmits
      rw [List.append_assoc, ← List.filter_append, ← hadmits] at hbound
      rw [bindingsOf, if_pos ⟨hs, state_enter hjoining w⟩]
      exact hbound
  · rename_i hs
    exact h.append_nil (if_neg fun hin => hs hin.1)

/-! ## Commands -/

theorem inCall (h : Wired history [] [] c) {apply : Call → Call × Bool}
    (hin : c.state = .inProgress → Wired history [] [] (apply c).1) :
    Wired history [] [] (c.inCall apply).1 := by
  rw [Call.inCall]
  split
  · exact hin ‹_›
  · exact h

theorem onAv (h : Wired history [] [] c) (cid : Cid) (av : AvFlags) :
    Wired history [] [] (c.onAv cid av).1 := by
  refine h.inCall fun _ => ?_
  split
  · exact (h.setAv_applyRemoteAv cid av).of_sameMedia (SameMedia.tell _ _)
  · exact h

theorem onKey (h : Wired history [] [] c) (w : Surroundings) (id : KeyId) (sender : Cid)
    (bytes : List UInt8) : Wired history [] [] (c.onKey w id sender bytes).1 := by
  refine h.inCall fun _ => ?_
  split
  · exact h
  · rename_i s hs
    have hkey := h.takeKey w id s bytes
    split <;> rename_i heq <;> rw [heq] at hkey
    · exact hkey
    · exact hkey.of_sameMedia (SameMedia.report _ _)

theorem onPeerJoin (h : Wired history [] [] c) (w : Surroundings) (peer : PeerInfo) :
    Wired history [] [] (c.onPeerJoin w peer).1 := by
  refine h.inCall fun _ => ?_
  have hadded := h.addSession peer
  split <;> rename_i heq <;> rw [heq] at hadded
  · exact hadded
  · rename_i c₁
    have hsent := hadded.of_sameMedia (SameMedia.sendKeyTo c₁ w peer.cid)
    split <;> rename_i heq' <;> rw [heq'] at hsent
    · exact hsent
    · exact hsent.of_sameMedia (SameMedia.report _ _)

theorem onPeerLeft (h : Wired history [] [] c) (w : Surroundings) (cid : Cid) :
    Wired history [] [] (c.onPeerLeft w cid).1 := by
  refine h.inCall fun _ => ?_
  split
  · exact (h.removeSession cid).of_sameMedia (SameMedia.rotateOrReport _ w)
  · exact h

theorem onSpeakReqs (h : Wired history [] [] c) (cids : List Cid) :
    Wired history [] [] (c.onSpeakReqs cids).1 := by
  refine h.inCall fun _ => ?_
  exact (h.noteSpeakRequests cids).of_sameMedia (SameMedia.tell _ _)

theorem onSpeakReqDel (h : Wired history [] [] c) (cid : Cid) :
    Wired history [] [] (c.onSpeakReqDel cid).1 := by
  rw [Call.onSpeakReqDel]
  split
  · split
    · exact h.of_sameMedia (SameMedia.setSpeaker c .none)
    · exact h
  · exact h.setSpeakRequested cid false

theorem onSpeakOff (h : Wired history [] [] c) (cid : Option Cid) :
    Wired history [] [] (c.onSpeakOff cid).1 := by
  rw [Call.onSpeakOff]
  split
  · exact h.speak .none
  · exact h.releaseRole _ .audio

/-- A list of tracks that is assigned in the call is bound as far as it is admitted. -/
theorem inCall_bindTracks (h : Wired history [] [] c) (command : Command) (role : SlotRole)
    (hrole : role ≠ .audio) (tracks : List CidTrack) (hstage : command.stage = .inProgress)
    (hoffers : command.offers = tracks.map fun t => t.binding role) :
    Wired (history ++ c.bindingsOf (c.inCall fun c => c.bindTracks role tracks).1 command) [] []
      (c.inCall fun c => c.bindTracks role tracks).1 := by
  rw [Call.inCall]
  split
  · rename_i hs
    have hrewired := Rewired.bindTracks c role tracks
    rw [bindingsOf, hstage, if_pos ⟨hs, hrewired.state_eq.trans hs⟩, hoffers,
      hrewired.admits_eq]
    exact h.bindTracks role hrole tracks
  · rename_i hs
    exact h.append_nil (if_neg fun hin => hs (hin.1.trans hstage))

theorem onSpeakOn (h : Wired history [] [] c) (cid : Option Cid) (audio : Option TrackDescriptor) :
    Wired (history ++ c.bindingsOf (c.onSpeakOn cid audio).1 (.speakOn cid audio)) [] []
      (c.onSpeakOn cid audio).1 := by
  rw [Call.onSpeakOn, Call.inCall]
  split
  · rename_i hs
    split
    · rename_i hus
      -- it is us who may speak, and we receive nothing for that
      have hstate : (c.speak .active).state = .inProgress := by
        rw [Call.speak, (Rewired.applyLocalAv _).state_eq, state_setSpeaker, hs]
      have hnone : (Command.speakOn cid audio).offers.filter (c.speak .active).admits = [] := by
        rw [Call.speak, (Rewired.applyLocalAv _).admits_eq, admits_setSpeaker]
        cases cid with
        | none => rfl
        | some cid =>
          have hus : c.isUs cid = true := by simpa [Option.filter] using hus
          cases audio with
          | none => rfl
          | some track => simp [Command.offers, admits, hus]
      exact (h.speak .active).append_nil ((if_pos ⟨hs, hstate⟩).trans hnone)
    · rename_i cid' hother
      obtain ⟨rfl, hus⟩ := Option.filter_eq_some_iff.1 hother
      simp only [Bool.not_eq_true'] at hus
      cases audio with
      | none => exact h.append_nil (bindingsOf_of_offers_eq_nil rfl _)
      | some track =>
        have hbound := h.bindSound cid' track hus
        have hrewired := Rewired.bindTrack c ⟨cid', .audio, track⟩
        have hoffers : (Command.speakOn (some cid') (some track)).offers =
            [⟨cid', .audio, track⟩] := rfl
        dsimp only at hrewired ⊢
        split <;> rename_i heq <;> rw [heq] at hbound hrewired
        · rw [bindingsOf, if_pos ⟨hs, hrewired.state_eq.trans hs⟩, hoffers, hrewired.admits_eq]
          exact hbound
        · have hrewired := hrewired.trans (Rewired.setSpeakRequested _ cid' false)
          rw [bindingsOf, if_pos ⟨hs, hrewired.state_eq.trans hs⟩, hoffers, hrewired.admits_eq]
          exact hbound.setSpeakRequested cid' false
  · rename_i hs
    exact h.append_nil (if_neg fun hin => hs hin.1)

/-- What a command of our relay makes of the history. -/
theorem deliverCommand (h : Wired history [] [] c) (w : Surroundings) (command : Command) :
    Wired (history ++ c.bindingsOf ((receiver w).deliverCommand command c).1 command) [] []
      ((receiver w).deliverCommand command c).1 := by
  -- most commands offer nothing
  have hquiet : command.offers = [] →
      Wired history [] [] ((receiver w).deliverCommand command c).1 →
      Wired (history ++ c.bindingsOf ((receiver w).deliverCommand command c).1 command) [] []
        ((receiver w).deliverCommand command c).1 :=
    fun hoffers hafter => hafter.append_nil (bindingsOf_of_offers_eq_nil hoffers _)
  -- what the relay wants of our video concerns our tracks alone
  have hwanted : ∀ c' : Call, SameMedia c c' → Wired history [] [] c'.applyLocalAv :=
    fun c' hsame => (h.of_sameMedia hsame).applyLocalAv
  cases command with
  | av cid flags => exact hquiet rfl (h.onAv cid flags)
  | answer a => exact h.onAnswer w a
  | key id sender bytes => exact hquiet rfl (h.onKey w id sender bytes)
  | vthumbs tracks => exact h.inCall_bindTracks _ .vthumb (by simp) tracks rfl rfl
  | vthumbStart => exact hquiet rfl (hwanted _ ⟨rfl, rfl, rfl, rfl⟩)
  | vthumbStop => exact hquiet rfl (hwanted _ ⟨rfl, rfl, rfl, rfl⟩)
  | hires tracks => exact h.inCall_bindTracks _ .hires (by simp) tracks rfl rfl
  | hiresStart => exact hquiet rfl (hwanted _ ⟨rfl, rfl, rfl, rfl⟩)
  | hiresStop => exact hquiet rfl (hwanted _ ⟨rfl, rfl, rfl, rfl⟩)
  | speakReqs cids => exact hquiet rfl (h.onSpeakReqs cids)
  | speakReqDel cid => exact hquiet rfl (h.onSpeakReqDel cid)
  | speakOn cid audio => exact h.onSpeakOn cid audio
  | speakOff cid => exact hquiet rfl (h.onSpeakOff cid)
  | peerJoin peer => exact hquiet rfl (h.onPeerJoin w peer)
  | peerLeft cid => exact hquiet rfl (h.onPeerLeft w cid)
  | bye reason => exact hquiet rfl (h.leave _)
  | modAdd user => exact hquiet rfl (h.of_sameMedia (SameMedia.setModerator c user true))
  | modDel user => exact hquiet rfl (h.of_sameMedia (SameMedia.setModerator c user false))

/-! ## Requests -/

/-- A request that is handed to the relay as it is. -/
theorem post (h : Wired history [] [] c) (relay : Nat) (request : RelayRequest) :
    Wired history [] [] (c.post relay request) := h.of_sameMedia (SameMedia.post c relay request)

theorem command (h : Wired history [] [] c) (w : Surroundings) (operation : String)
    (find : Call → Except CallError OutboundCommand) {follow : Call → Call}
    (hfollow : ∀ d, Wired history [] [] d → Wired history [] [] (follow d)) :
    Wired history [] [] (c.attempt (Call.command w operation find follow)).1 :=
  command_invariant h fun relay found _ _ _ => hfollow _ (h.post relay (.send found))

theorem moderate (h : Wired history [] [] c) (w : Surroundings) (operation : String)
    (find : Call → Except CallError OutboundCommand) {follow : Call → Call}
    (hfollow : ∀ d, Wired history [] [] d → Wired history [] [] (follow d)) :
    Wired history [] [] (c.attempt (Call.moderate w operation find follow)).1 :=
  moderate_invariant h fun _ => h.command w operation find hfollow

theorem requestSpeaker (h : Wired history [] [] c) (w : Surroundings) (add : Bool) :
    Wired history [] [] (c.requestSpeaker w add).1 := by
  rw [Call.requestSpeaker]
  split
  · refine h.command w _ _ fun d hd => ?_
    split
    · exact hd.of_sameMedia (SameMedia.setSpeaker _ _)
    · exact hd
  · refine h.command w _ _ fun d hd => ?_
    split
    · exact hd.of_sameMedia (SameMedia.setSpeaker _ _)
    · exact hd

theorem stopSpeak (h : Wired history [] [] c) (w : Surroundings) (cid : Cid) :
    Wired history [] [] (c.stopSpeak w cid).1 := by
  rw [Call.stopSpeak]
  split
  · exact h.command w _ _ fun d hd => hd.speak .none
  · exact h.moderate w _ _ fun d hd => hd

theorem updateAv (h : Wired history [] [] c) (w : Surroundings) (av : AvFlags) :
    Wired history [] [] (c.updateAv w av).1 := by
  have hset : Wired history [] [] (c.withFlags av) :=
    (h.of_sameMedia (d := { c with av := av }) ⟨rfl, rfl, rfl, rfl⟩).applyLocalAv
  exact updateAv_invariant h hset fun relay _ _ => hset.post relay _

theorem addParticipant (h : Wired history [] [] c) (user : UserId) :
    Wired history [] [] (c.addParticipant user).1 :=
  addParticipant_invariant h (h.of_sameMedia ⟨rfl, rfl, rfl, rfl⟩)

theorem removeParticipant (h : Wired history [] [] c) (user : UserId) :
    Wired history [] [] (c.removeParticipant user).1 :=
  removeParticipant_invariant h (h.of_sameMedia ⟨rfl, rfl, rfl, rfl⟩)

theorem abortReconnect (h : Wired history [] [] c) : Wired history [] [] c.abortReconnect.1 :=
  abortReconnect_invariant h fun _ _ => h.of_sameMedia ⟨rfl, rfl, rfl, rfl⟩

/-- Requests bind nothing. -/
theorem perform (h : Wired history [] [] c) (w : Surroundings) (request : CallRequest) :
    Wired history [] [] (c.perform w request).1 := by
  cases request with
  | join av => exact h.join w av
  | hangup => exact h.hangup
  | abortReconnect => exact h.abortReconnect
  | requestSpeaker add => exact h.requestSpeaker w add
  | approveSpeakRequest cid allow =>
    exact h.moderate w _ _ fun d hd => hd.setSpeakRequested cid false
  | stopSpeak cid => exact h.stopSpeak w cid
  | delHires cids => exact h.command w _ _ fun d hd => hd.releaseRoles .hires cids
  | delVthumbs cids => exact h.command w _ _ fun d hd => hd.releaseRoles .vthumb cids
  | getHires _ _ | getVthumbs _ | setHiresQuality _ _ | setLayer _ _ _ =>
    exact h.command w _ _ fun d hd => hd
  | updateAv av => exact h.updateAv w av
  | rotateKey => exact h.of_sameMedia (SameMedia.rotateKey c w)
  | addParticipant user => exact h.addParticipant user
  | removeParticipant user => exact h.removeParticipant user
  | snapshot => exact h
  | destroy => exact h.destroy

/-! ## Frames -/

/-- Only the track at the place has another encryptor. -/
theorem get?_setEncryptor (c : Call) (place : Nat) (next : FrameEncryptor) (q : Nat) :
    (c.setEncryptor place next).engine.tracks.get? q =
      if q = place then (c.engine.tracks.get? q).map fun t =>
        { t with crypto := some (.encrypt next) }
      else c.engine.tracks.get? q := by
  simp only [Call.setEncryptor, MediaTracks.get?, List.getElem?_modify]
  by_cases hq : place = q
  · simp [hq]
  · simp [hq, Ne.symm hq]

theorem build_setEncryptor (c : Call) (place : Nat) (next : FrameEncryptor) :
    (c.setEncryptor place next).engine.tracks.build = c.engine.tracks.build := by
  funext q
  simp only [MediaTracks.build, get?_setEncryptor]
  split
  · simp [Function.comp_def]
  · rfl

/-- A track that encrypts is not received. -/
theorem setEncryptor (h : Wired history [] [] c) {place : Nat} {t : MediaTrack}
    {e : FrameEncryptor} (ht : c.engine.tracks.get? place = some t)
    (hc : t.crypto = some (.encrypt e)) (next : FrameEncryptor) :
    Wired history [] [] (c.setEncryptor place next) := by
  have hget := get?_setEncryptor c place next
  have hbuild := build_setEncryptor c place next
  -- what is received either does nothing or decrypts
  have hother : ∀ mid r, c.reception? mid = some r → r.1.track ≠ place := by
    rintro mid r hr rfl
    have htrack : c.engine.tracks.get? r.1.track = some r.2 := by
      obtain ⟨slots, -, hr⟩ := Option.bind_eq_some_iff.1 hr
      obtain ⟨slot, -, hr⟩ := Option.bind_eq_some_iff.1 hr
      obtain ⟨t', ht', rfl⟩ := Option.map_eq_some_iff.1 hr
      exact ht'
    cases ht.symm.trans htrack
    cases hcid : r.1.cid with
    | none =>
      rw [(h.vacant mid r hr hcid).2.1] at hc
      cases hc
    | some cid =>
      obtain ⟨s, role, hs, hslot⟩ := h.owned mid r cid hr hcid (by simp)
      obtain ⟨r', b, hr', -, -, -, hcarries, -⟩ := h.held cid s role mid hs hslot
      cases hr.symm.trans hr'
      rw [hcarries.crypto] at hc
      cases hc
  refine h.congr rfl rfl (fun s hs => (h.placed s hs).congr hbuild) fun mid => ?_
  simp only [reception?]
  refine Option.bind_congr fun slots hslots => Option.bind_congr fun slot hslot => ?_
  -- so the place of the encryptor is none of those that are looked up
  obtain ⟨t', ht'⟩ := (h.placed slots hslots).exists_track hslot
  have hslots : c.slots = some slots := hslots
  have hne := hother mid (slot, t') (by rw [reception?, hslots]; exact ht')
  rw [hget, if_neg hne]

theorem handleFrame (h : Wired history [] [] c) (place : Nat) (bytes : List UInt8) :
    Wired history [] [] (c.handleFrame place bytes).1 := by
  rw [Call.handleFrame]
  split
  · exact h
  · exact h
  · exact h
  · rename_i e heq
    obtain ⟨t, ht, hc⟩ := Option.map_eq_some_iff.1 heq
    split
    · exact h
    · exact h.setEncryptor ht hc _

/-! ## Steps and runs -/

theorem onNews (h : Wired history [] [] c) (w : Surroundings) (connection : Nat) (news : RelayNews)
    (hrelay : c.relay = some connection) :
    Wired (history ++ c.bindings w (.event ⟨connection, news⟩)) [] [] (c.onNews w news) := by
  have hquiet : c.bindings w (.event ⟨connection, news⟩) = [] →
      Wired history [] [] (c.onNews w news) →
      Wired (history ++ c.bindings w (.event ⟨connection, news⟩)) [] [] (c.onNews w news) :=
    fun hnone hafter => hafter.append_nil hnone
  cases news with
  | stateChanged state =>
    refine hquiet rfl ?_
    cases state with
    | connected =>
      have hup := h.linkUp w
      rw [Call.onNews]
      split <;> rename_i heq <;> rw [heq] at hup
      · exact hup
      · exact (hup.of_sameMedia (SameMedia.report _ _)).leave _
    | disconnected => exact h.linkLost
    | _ => exact h
  | frame frame =>
    cases frame with
    | command command =>
      have hafter : c.take w (.event ⟨connection, .frame (.command command)⟩) =
          ((receiver w).deliverCommand command c).1 := if_pos hrelay
      rw [bindings, if_pos hrelay, hafter]
      exact h.deliverCommand w command
    | error code text =>
      refine hquiet rfl ?_
      exact ((h.of_sameMedia (SameMedia.tell _ _)).of_sameMedia (SameMedia.report _ _)).leave _
  | failed error => exact hquiet rfl ((h.of_sameMedia (SameMedia.report c _)).leave _)
  | closed => exact hquiet rfl (h.leave _)

/-- Every step keeps sessions and slots in step. -/
theorem take (h : Wired history [] [] c) (w : Surroundings) (step : CallStep) :
    Wired (history ++ c.bindings w step) [] [] (c.take w step) := by
  have hquiet : c.bindings w step = [] → Wired history [] [] (c.take w step) →
      Wired (history ++ c.bindings w step) [] [] (c.take w step) :=
    fun hnone hafter => hafter.append_nil hnone
  cases step with
  | request request => exact hquiet rfl (h.perform w request)
  | event event =>
    by_cases hrelay : c.relay = some event.connection
    · have hnews := h.onNews w event.connection event.news hrelay
      rw [Call.take, Call.onRelayEvent, if_pos hrelay]
      exact hnews
    · -- news of another connection than ours change nothing
      refine hquiet ?_ ?_
      · simp only [bindings]
        split
        · rename_i heq
          cases heq
          exact if_neg hrelay
        · rfl
      · rw [Call.take, Call.onRelayEvent, if_neg hrelay]
        exact h
  | cancel => exact hquiet rfl (h.of_sameMedia ⟨rfl, rfl, rfl, rfl⟩)
  | frame place bytes => exact hquiet rfl (h.handleFrame place bytes)

/-- Every run keeps sessions and slots in step. -/
theorem run (h : Wired history [] [] c) (steps : List (Surroundings × CallStep)) :
    Wired (history ++ c.history steps) [] [] (c.run steps) := by
  induction steps generalizing history c with
  | nil => simpa [Call.history] using h
  | cons step rest ih =>
    rw [Call.history, ← List.append_assoc]
    exact ih (h.take step.1 step.2)

end Wired

/-- A call in which nothing has happened has neither sessions nor slots. -/
theorem wired_new (id : CallId) (chat : ChatId) (us : UserId) (config : CallConfig)
    (secret : IdentitySecret) (callKey : Option MediaKey) :
    Wired [] [] [] (new id chat us config secret callKey) :=
  .of_slots_eq_none .empty rfl fun _ _ _ hs => by simp [new] at hs

end Call
end GroupCall
