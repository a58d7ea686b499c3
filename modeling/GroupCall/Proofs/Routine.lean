/-
# Routine

Most of what happens to a call is routine: it neither begins nor ends a participation nor the
link to the relay, nobody comes or goes, and our own keys are as before.  Tracks are bound
and switched, flags change, keys of others come in, commands are handed to the relay, and the
observer is told.
-/
import GroupCall.Proofs.Keys.Ring
import GroupCall.Proofs.Refusals

namespace GroupCall

/-- A deed of no consequence for a participation.  It matters when we are let in, when a
participation is over, when a key is handed out, and which connections we have; and no step
between stages ever fails. -/
def CallDeed.isPlain : CallDeed → Bool
  | .told (.stateChanged .inProgress) => false
  | .told (.terminated _) => false
  | .told (.failed (.invalidTransition _)) => false
  | .posted _ (.send (.key _ _)) => false
  | .connected _ _ => false
  | .disconnected _ => false
  | _ => true

namespace Call

variable {c c' c'' : Call} {w : Surroundings}

/-- The keys of every participant are in order, and as many are kept as the configuration
says. -/
def Rings (c : Call) : Prop :=
  ∀ cid s, c.sessions.get? cid = some s →
    s.keys.Sound ∧ s.keys.capacity = max c.config.keyCapacity 1

/-- The user of a participant that is connected. -/
def user? (c : Call) (cid : Cid) : Option UserId := (c.sessions.get? cid).map Session.userId

/-- Deeds were entered that are of no consequence. -/
def Plain (c c' : Call) : Prop :=
  ∃ deeds, c'.journal = c.journal ++ deeds ∧ ∀ d ∈ deeds, d.isPlain = true

theorem Plain.refl (c : Call) : Plain c c := ⟨[], by simp, by simp⟩

theorem Plain.trans (h : Plain c c') (h' : Plain c' c'') : Plain c c'' := by
  obtain ⟨deeds, heq, hplain⟩ := h
  obtain ⟨deeds', heq', hplain'⟩ := h'
  exact ⟨deeds ++ deeds', by rw [heq', heq, List.append_assoc],
    List.forall_mem_append.2 ⟨hplain, hplain'⟩⟩

theorem Plain.of_eq (h : c'.journal = c.journal) : Plain c c' := ⟨[], by simp [h], by simp⟩

theorem Plain.of_deed {d : CallDeed} (hd : d.isPlain = true)
    (h : c'.journal = c.journal ++ [d]) : Plain c c' := ⟨[d], h, by simpa using hd⟩

/-- Neither the stage nor our keys are different, nor what links us to the relay. -/
structure Within (c c' : Call) : Prop where
  /-- What may be different. -/
  rest : c' = { c with
    participants := c'.participants, moderators := c'.moderators
    isModerator := c'.isModerator, sessions := c'.sessions, nextSerial := c'.nextSerial
    cid := c'.cid, av := c'.av, speaker := c'.speaker, slots := c'.slots
    vthumbWanted := c'.vthumbWanted, hiresWanted := c'.hiresWanted
    startedAt := c'.startedAt, engine := c'.engine, journal := c'.journal }
  /-- Our media are set up as they were, or are not. -/
  installed : c'.slots.isSome = c.slots.isSome
  /-- The keys of others are still in order. -/
  rings : c.Rings → c'.Rings
  /-- What was done is of no consequence. -/
  plain : Plain c c'

/-- Nobody came or went either. -/
structure Routine (c c' : Call) : Prop extends Within c c' where
  /-- The same users are connected. -/
  users : c'.user? = c.user?
  /-- Our number is the same. -/
  cid : c'.cid = c.cid

/-- Not even sessions or slots are different. -/
structure Aside (c c' : Call) : Prop where
  /-- What may be different. -/
  rest : c' = { c with
    participants := c'.participants, av := c'.av, engine := c'.engine, journal := c'.journal }
  /-- What was done is of no consequence. -/
  plain : Plain c c'

theorem rings_of_eq (hsessions : c'.sessions = c.sessions) (hconfig : c'.config = c.config)
    (h : c.Rings) : c'.Rings := by
  rw [Rings, hsessions, hconfig]
  exact h

/-! ## One thing after the other -/

theorem Within.trans (h : Within c c') (h' : Within c' c'') : Within c c'' where
  rest := by
    have hrest := h'.rest
    rw [h.rest] at hrest
    exact hrest
  installed := h'.installed.trans h.installed
  rings hr := h'.rings (h.rings hr)
  plain := h.plain.trans h'.plain

theorem Aside.refl (c : Call) : Aside c c := ⟨rfl, Plain.refl c⟩

theorem Aside.trans (h : Aside c c') (h' : Aside c' c'') : Aside c c'' where
  rest := by
    have hrest := h'.rest
    rw [h.rest] at hrest
    exact hrest
  plain := h.plain.trans h'.plain

theorem Aside.routine (h : Aside c c') : Routine c c' where
  rest := by rw [h.rest]
  installed := by rw [h.rest]
  rings := rings_of_eq (by rw [h.rest]) (by rw [h.rest])
  plain := h.plain
  users := by rw [h.rest]; rfl
  cid := by rw [h.rest]

namespace Routine

theorem refl (c : Call) : Routine c c := (Aside.refl c).routine

theorem trans (h : Routine c c') (h' : Routine c' c'') : Routine c c'' :=
  ⟨h.toWithin.trans h'.toWithin, h'.users.trans h.users, h'.cid.trans h.cid⟩

theorem of_rewired (h : Rewired c c') : Routine c c' where
  rest := by rw [h.rest]
  installed := h.installed
  rings hr cid s' hs' := by
    obtain ⟨s, hs, hcore⟩ := h.session hs'
    have hkeys : s'.keys = s.keys := congrArg (fun core => core.2.2.2) hcore
    rw [hkeys, h.rest]
    exact hr cid s hs
  plain := Plain.of_eq (by rw [h.rest])
  users := by
    funext cid
    have hcore := congrArg (Option.map fun core : Nat × Cid × UserId × KeyRing => core.2.2.1)
      (h.sessions cid)
    simpa [user?, Function.comp_def, Session.core] using hcore
  cid := h.cid_eq

theorem of_engine (c : Call) (engine : MediaEngine) : Routine c { c with engine := engine } :=
  of_rewired (Rewired.of_engine c engine)

/-- A deed of no consequence, with what is not different otherwise. -/
theorem of_deed {deed : CallDeed} (hd : deed.isPlain = true) (c : Call) :
    Routine c (c.record deed) :=
  Aside.routine ⟨rfl, Plain.of_deed hd rfl⟩

theorem tell {news : CallNews} (hn : (CallDeed.told news).isPlain = true) (c : Call) :
    Routine c (c.tell news) := of_deed hn c

theorem foldl {α : Type} {f : Call → α → Call} (hf : ∀ c a, Routine c (f c a)) (l : List α)
    (c : Call) : Routine c (l.foldl f c) :=
  foldl_related refl trans hf l c

/-- A failure that is reported is none of a step between stages. -/
theorem report {α : Type} {e : CallError} (h : Lawful (.error e : Except CallError α)) (c : Call) :
    Routine c (c.report e) := by
  refine tell ?_ c
  cases e with
  | invalidTransition t => exact absurd rfl (h t)
  | _ => rfl

theorem setSpeaker (c : Call) (state : SpeakerState) : Routine c (c.setSpeaker state) := by
  rw [Call.setSpeaker]
  split
  · exact refl c
  · exact ⟨⟨rfl, rfl, rings_of_eq rfl rfl, Plain.of_deed rfl rfl⟩, rfl, rfl⟩

theorem setModerator (c : Call) (user : UserId) (add : Bool) :
    Routine c (c.setModerator user add) := by
  simp only [Call.setModerator]
  split
  · exact ⟨⟨rfl, rfl, rings_of_eq rfl rfl, Plain.of_deed rfl rfl⟩, rfl, rfl⟩
  · exact ⟨⟨rfl, rfl, rings_of_eq rfl rfl, Plain.of_eq rfl⟩, rfl, rfl⟩

theorem applyLocalAv (c : Call) : Routine c c.applyLocalAv :=
  of_rewired (Rewired.applyLocalAv c)

/-- What the relay wants of our video. -/
theorem wanted (c : Call) (vthumb hires : Bool) :
    Routine c { c with vthumbWanted := vthumb, hiresWanted := hires }.applyLocalAv := by
  refine Routine.trans ?_ (applyLocalAv _)
  exact ⟨⟨rfl, rfl, rings_of_eq rfl rfl, Plain.of_eq rfl⟩, rfl, rfl⟩

theorem speak (c : Call) (state : SpeakerState) : Routine c (c.speak state) :=
  (setSpeaker c state).trans (applyLocalAv _)

theorem setRemote (c : Call) (w : Surroundings) (sdp : Sdp) : Routine c (c.setRemote w sdp).1 := by
  rw [Call.setRemote]
  split
  · exact refl c
  · split
    · exact refl c
    · exact of_engine c _

/-- Of a participant that is known already only the flags are taken. -/
theorem addSession {peer : PeerInfo} (h : (c.addSession peer).2 = false) :
    Routine c (c.addSession peer).1 := by
  rw [Call.addSession] at h ⊢
  split at h
  · split
    · exact refl c
    · exact ((of_rewired (Rewired.setAv c peer.cid peer.av)).trans
        (tell rfl (c.setAv peer.cid peer.av))).trans (of_rewired (Rewired.applyRemoteAv _ peer.cid))
  · cases h

/-- The key of a participant that comes in. -/
theorem takeKey (c : Call) (w : Surroundings) (id : KeyId) (s : Session) (wrapped : List UInt8) :
    Routine c (c.takeKey w id s wrapped).1 := by
  obtain ⟨e, -, heq⟩ | ⟨plain, -, heq⟩ := c.takeKey_cases w id s wrapped <;> rw [heq]
  · exact refl c
  · refine ⟨⟨rfl, rfl, fun hr => ?_, Plain.of_eq rfl⟩, ?_, rfl⟩
    · intro cid s' hs'
      rw [Table.get?_modify] at hs'
      split at hs'
      · obtain ⟨s₀, hs₀, rfl⟩ := Option.map_eq_some_iff.1 hs'
        obtain ⟨hsound, hcapacity⟩ := hr cid s₀ hs₀
        exact ⟨hsound.insert _ _, hcapacity⟩
      · exact hr cid s' hs'
    · funext cid
      simp only [user?, Table.get?_modify]
      split
      · simp [Function.comp_def]
      · rfl

/-! ## Commands -/

/-- A command that hands out no key is handed to the relay. -/
theorem post (c : Call) (relay : Nat) {command : OutboundCommand}
    (hkey : ∀ id wrapped, command ≠ .key id wrapped) :
    Routine c (c.post relay (.send command)) := by
  refine of_deed ?_ c
  cases command with
  | key id wrapped => exact absurd rfl (hkey id wrapped)
  | _ => rfl

theorem inCall {apply : Call → Call × Bool} (h : ∀ c, Routine c (apply c).1) (c : Call) :
    Routine c (c.inCall apply).1 := by
  rw [Call.inCall]
  split
  · exact h c
  · exact refl c

theorem onAv (cid : Cid) (av : AvFlags) (c : Call) : Routine c (c.onAv cid av).1 := by
  refine inCall (fun c => ?_) c
  split
  · exact ((of_rewired (Rewired.setAv c cid av)).trans
      (of_rewired (Rewired.applyRemoteAv _ cid))).trans (tell rfl _)
  · exact refl c

theorem onKey (w : Surroundings) (id : KeyId) (sender : Cid) (bytes : List UInt8) (c : Call) :
    Routine c (c.onKey w id sender bytes).1 := by
  refine inCall (fun c => ?_) c
  split
  · exact refl c
  · rename_i s _
    have htaken := takeKey c w id s bytes
    have hlawful := lawful_takeKey c w id s bytes
    split <;> rename_i heq <;> rw [heq] at htaken hlawful
    · exact htaken
    · exact htaken.trans (report hlawful _)

theorem noteSpeakRequest (c : Call) (cid : Cid) : Routine c (c.noteSpeakRequest cid) := by
  rw [Call.noteSpeakRequest]
  split
  · split
    · exact setSpeaker c .pending
    · exact refl c
  · exact of_rewired (Rewired.setSpeakRequested c cid true)

theorem onSpeakReqs (cids : List Cid) (c : Call) : Routine c (c.onSpeakReqs cids).1 :=
  inCall (fun c => (foldl noteSpeakRequest cids c).trans (tell rfl _)) c

theorem onSpeakReqDel (cid : Cid) (c : Call) : Routine c (c.onSpeakReqDel cid).1 := by
  rw [Call.onSpeakReqDel]
  split
  · split
    · exact setSpeaker c .none
    · exact refl c
  · exact of_rewired (Rewired.setSpeakRequested c cid false)

theorem onSpeakOn (cid : Option Cid) (audio : Option TrackDescriptor) (c : Call) :
    Routine c (c.onSpeakOn cid audio).1 := by
  refine inCall (fun c => ?_) c
  split
  · exact speak c .active
  · rename_i cid' _
    split
    · exact refl c
    · rename_i track
      have hbound := Rewired.bindTrack c ⟨cid', .audio, track⟩
      dsimp only at hbound
      split <;> rename_i heq <;> rw [heq] at hbound
      · exact of_rewired hbound
      · exact of_rewired (hbound.trans (Rewired.setSpeakRequested _ cid' false))

theorem onSpeakOff (cid : Option Cid) (c : Call) : Routine c (c.onSpeakOff cid).1 := by
  rw [Call.onSpeakOff]
  split
  · exact speak c .none
  · exact of_rewired (Rewired.releaseRole c _ .audio)

end Routine
end Call

/-- Whether a command of the relay is routine: it neither lets us in nor ends our
participation, and nobody comes or goes. -/
def Command.isRoutine : Command → Bool
  | .answer _ => false
  | .peerJoin _ => false
  | .peerLeft _ => false
  | .bye _ => false
  | _ => true

namespace Call

variable {c c' : Call} {w : Surroundings}

theorem Routine.deliverCommand (c : Call) (w : Surroundings) {command : Command}
    (h : command.isRoutine = true) : Routine c ((receiver w).deliverCommand command c).1 := by
  cases command with
  | av cid flags => exact onAv cid flags c
  | key id sender bytes => exact onKey w id sender bytes c
  | vthumbs tracks => exact inCall (fun c => of_rewired (Rewired.bindTracks c .vthumb tracks)) c
  | vthumbStart => exact wanted c true c.hiresWanted
  | vthumbStop => exact wanted c false c.hiresWanted
  | hires tracks => exact inCall (fun c => of_rewired (Rewired.bindTracks c .hires tracks)) c
  | hiresStart => exact wanted c c.vthumbWanted true
  | hiresStop => exact wanted c c.vthumbWanted false
  | speakReqs cids => exact onSpeakReqs cids c
  | speakReqDel cid => exact onSpeakReqDel cid c
  | speakOn cid audio => exact onSpeakOn cid audio c
  | speakOff cid => exact onSpeakOff cid c
  | modAdd user => exact setModerator c user true
  | modDel user => exact setModerator c user false
  | answer _ | peerJoin _ | peerLeft _ | bye _ => cases h

end Call

/-- Whether a request is passed on to the relay as a command. -/
def CallRequest.isForRelay : CallRequest → Bool
  | .requestSpeaker _ => true
  | .approveSpeakRequest _ _ => true
  | .stopSpeak _ => true
  | .getHires _ _ => true
  | .delHires _ => true
  | .getVthumbs _ => true
  | .delVthumbs _ => true
  | .setHiresQuality _ _ => true
  | .setLayer _ _ _ => true
  | _ => false

namespace Call

variable {c c' : Call} {w : Surroundings}

/-! ## Requests -/

/-- A request is refused, or it is routine in the call. -/
def Asked (c c' : Call) : Prop := c' = c ∨ c.state = .inProgress ∧ Routine c c'

theorem asked_command {operation : String} {find : Call → Except CallError OutboundCommand}
    {follow : Call → Call} (hkey : Keyless find) (hfollow : ∀ c, Routine c (follow c)) :
    Asked c (c.attempt (command w operation find follow)).1 :=
  command_invariant (Or.inl rfl) fun relay found hs hfound _ =>
    Or.inr ⟨hs, (Routine.post c relay (hkey c found hfound)).trans (hfollow _)⟩

theorem asked_moderate {operation : String} {find : Call → Except CallError OutboundCommand}
    {follow : Call → Call} (hkey : Keyless find) (hfollow : ∀ c, Routine c (follow c)) :
    Asked c (c.attempt (moderate w operation find follow)).1 :=
  moderate_invariant (Or.inl rfl) fun _ => asked_command hkey hfollow

theorem asked_requestSpeaker (c : Call) (w : Surroundings) (add : Bool) :
    Asked c (c.requestSpeaker w add).1 := by
  rw [requestSpeaker]
  split
  · refine asked_command (keyless_fixed (by simp)) fun c => ?_
    split
    · exact Routine.setSpeaker c .pending
    · exact Routine.refl c
  · refine asked_command (keyless_fixed (by simp)) fun c => ?_
    split
    · exact Routine.setSpeaker c .none
    · exact Routine.refl c

theorem asked_approveSpeakRequest (c : Call) (w : Surroundings) (cid : Cid) (allow : Bool) :
    Asked c (c.approveSpeakRequest w cid allow).1 := by
  refine asked_moderate (keyless_session fun _ id wrapped => ?_) fun c =>
    Routine.of_rewired (Rewired.setSpeakRequested c cid false)
  split <;> simp

theorem asked_stopSpeak (c : Call) (w : Surroundings) (cid : Cid) :
    Asked c (c.stopSpeak w cid).1 := by
  rw [stopSpeak]
  split
  · exact asked_command (keyless_fixed (by simp)) fun c => Routine.speak c .none
  · exact asked_moderate (keyless_session (by simp)) Routine.refl

/-- Requests that are passed on to the relay as commands are refused, or routine in the call. -/
theorem asked_perform (c : Call) (w : Surroundings) {request : CallRequest}
    (h : request.isForRelay = true) : Asked c (c.perform w request).1 := by
  cases request with
  | requestSpeaker add => exact asked_requestSpeaker c w add
  | approveSpeakRequest cid allow => exact asked_approveSpeakRequest c w cid allow
  | stopSpeak cid => exact asked_stopSpeak c w cid
  | getHires cid quality => exact asked_command (keyless_session (by simp)) Routine.refl
  | delHires cids =>
    exact asked_command (keyless_fixed (by simp)) fun c =>
      Routine.of_rewired (Rewired.releaseRoles c .hires cids)
  | delVthumbs cids =>
    exact asked_command (keyless_fixed (by simp)) fun c =>
      Routine.of_rewired (Rewired.releaseRoles c .vthumb cids)
  | getVthumbs _ | setHiresQuality _ _ | setLayer _ _ _ =>
    exact asked_command (keyless_fixed (by simp)) Routine.refl
  | _ => cases h

theorem aside_withFlags (c : Call) (av : AvFlags) : Aside c (c.withFlags av) := by
  obtain ⟨engine, heq⟩ := applyLocalAv_eq { c with av := av }
  rw [withFlags, heq]
  exact ⟨rfl, Plain.of_eq rfl⟩

/-- A change of what we send is told to the relay while we are in the call. -/
theorem aside_updateAv (c : Call) (w : Surroundings) (av : AvFlags) :
    Aside c (c.updateAv w av).1 := by
  have hset := aside_withFlags c av
  exact updateAv_invariant (Aside.refl c) hset fun relay _ _ =>
    hset.trans ⟨rfl, Plain.of_deed (d := .posted relay (.send (.av av))) rfl rfl⟩

theorem aside_addParticipant (c : Call) (user : UserId) : Aside c (c.addParticipant user).1 :=
  addParticipant_invariant (Aside.refl c) ⟨rfl, Plain.of_deed rfl rfl⟩

theorem aside_removeParticipant (c : Call) (user : UserId) :
    Aside c (c.removeParticipant user).1 :=
  removeParticipant_invariant (Aside.refl c) ⟨rfl, Plain.of_deed rfl rfl⟩

theorem aside_abortReconnect (c : Call) : Aside c c.abortReconnect.1 :=
  abortReconnect_invariant (Aside.refl c) fun _ _ => ⟨rfl, Plain.of_deed rfl rfl⟩

theorem aside_handleFrame (c : Call) (place : Nat) (bytes : List UInt8) :
    Aside c (c.handleFrame place bytes).1 := by
  rw [handleFrame]
  split
  · exact Aside.refl c
  · exact Aside.refl c
  · exact Aside.refl c
  · split
    · exact Aside.refl c
    · exact ⟨rfl, Plain.of_eq rfl⟩

end Call
end GroupCall
