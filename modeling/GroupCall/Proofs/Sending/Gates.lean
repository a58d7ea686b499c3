/-
# Gates

Our tracks encrypt under the IVs that we offer, and each is switched on exactly if we are to send
in its role.  Four things decide about that: our flags, whether we may speak, and the two wishes
of the relay for our video.  Whatever changes one of them has to switch the tracks again, or must
not matter to them.

Most operations go on with our participation: it stands as it stood, but for what was handed to
the relay, and tracks that were switched rightly still are.  Only in the call are we allowed to
speak by such an operation, and only in the call is a command handed to the relay.
-/
import GroupCall.Proofs.Link
import GroupCall.Proofs.Sending.Outlets

namespace GroupCall

/-- What a command of the relay says about its wish for our video. -/
def Command.wish? : Command → Option (SlotRole × Bool)
  | .vthumbStart => some (.vthumb, true)
  | .vthumbStop => some (.vthumb, false)
  | .hiresStart => some (.hires, true)
  | .hiresStop => some (.hires, false)
  | _ => none

namespace OutboundCommand

/-- Whether a command asks to be let in. -/
def isJoin : OutboundCommand → Bool
  | .join _ _ _ _ _ => true
  | _ => false

/-- The participant that a command about speaking names. -/
def named? : OutboundCommand → Option Cid
  | .speakRequest cid => cid
  | .speakRequestDel cid => cid
  | .speakerDel cid => cid
  | _ => none

end OutboundCommand

namespace Call

variable {c c' c'' d : Call} {w : Surroundings}

/-! ## Tracks and gates -/

/-- Media that are set up are offered, and our tracks encrypt under the IVs that we offer. -/
structure Keyed (c : Call) : Prop where
  /-- Our slots stand apart. -/
  seated : c.Seated
  /-- There is an offer with the slots, and none without. -/
  offered : c.offer.isSome = c.slots.isSome
  /-- Our tracks encrypt. -/
  ivs : ∀ sdp ivs, c.offer = some (sdp, ivs) → ∀ role, ∃ on,
    c.output? role = some (on, some (ivs.of role))

/-- Our tracks are also switched as they should be. -/
structure Gated (c : Call) : Prop extends Keyed c where
  /-- Each track is on exactly if we are to send in its role. -/
  gates : ∀ role on iv, c.output? role = some (on, iv) → on = c.sends role

theorem Keyed.of_slots_eq_none (hs : c.slots = none) (ho : c.offer = none) : Keyed c where
  seated s hs' := by
    rw [hs] at hs'
    cases hs'
  offered := by rw [hs, ho]; rfl
  ivs sdp ivs h := by
    rw [ho] at h
    cases h

/-- Without slots there is nothing to switch. -/
theorem Gated.of_slots_eq_none (hs : c.slots = none) (ho : c.offer = none) : Gated c where
  toKeyed := .of_slots_eq_none hs ho
  gates role on iv h := by
    rw [output?, own?, hs] at h
    cases h

theorem Keyed.spares (h : Keyed c) (hspares : Spares c c') : Keyed c' where
  seated := hspares.seated h.seated
  offered := by
    have hinstalled := congrArg Standing.installed hspares.standing
    have hoffer := congrArg Standing.offer hspares.standing
    simp only [standing] at hinstalled hoffer
    rw [hoffer, hinstalled, h.offered]
  ivs := by
    have hoffer := congrArg Standing.offer hspares.standing
    simp only [standing] at hoffer
    rw [hoffer, hspares.output h.seated]
    exact h.ivs

theorem sends_of_standing (h : c'.standing = c.standing)
    (hspeaker : c'.speaker = .active ↔ c.speaker = .active) : c'.sends = c.sends := by
  have hav := congrArg Standing.av h
  have hvthumb := congrArg Standing.vthumbWanted h
  have hhires := congrArg Standing.hiresWanted h
  simp only [standing] at hav hvthumb hhires
  funext role
  cases role <;> simp [sends, isWanted, hav, hvthumb, hhires, hspeaker]

theorem Gated.spares (h : Gated c) (hspares : Spares c c')
    (hspeaker : c'.speaker = .active ↔ c.speaker = .active) : Gated c' where
  toKeyed := h.toKeyed.spares hspares
  gates := by
    rw [sends_of_standing hspares.standing hspeaker, hspares.output h.seated]
    exact h.gates

/-- Once they are switched, our tracks are as they should be. -/
theorem Keyed.applyLocalAv (h : Keyed c) : Gated c.applyLocalAv := by
  have hrewired := Rewired.applyLocalAv c
  have hstanding := standing_of_rewired hrewired
  have hinstalled := hrewired.installed
  have hoffer := congrArg Standing.offer hstanding
  simp only [standing] at hoffer
  have hsends := sends_of_standing hstanding (by rw [speaker_of_rewired hrewired])
  refine ⟨⟨h.seated.applyLocalAv, by rw [hoffer, hinstalled, h.offered], ?_⟩, ?_⟩
  · intro sdp ivs ho role
    rw [hoffer] at ho
    obtain ⟨on, hon⟩ := h.ivs sdp ivs ho role
    exact ⟨c.sends role, by rw [output?_applyLocalAv h.seated, hon]; rfl⟩
  · intro role on iv hon
    rw [output?_applyLocalAv h.seated] at hon
    obtain ⟨o, -, heq⟩ := Option.map_eq_some_iff.1 hon
    rw [hsends]
    exact (congrArg Prod.fst heq).symm

/-! ## Media that are set up -/

/-- Tracks are handed out at places in a row. -/
theorem addTracks_eq_range' {faults : EngineFaults} (asked : List (TrackKind × Direction))
    (e : MediaEngine) {e' : MediaEngine} {places : List Nat}
    (h : e.addTracks faults asked = (e', .ok places)) :
    places = List.range' e.tracks.all.length asked.length := by
  induction asked generalizing e places with
  | nil =>
    cases h
    rfl
  | cons a rest ih =>
    simp only [MediaEngine.addTracks] at h
    split at h
    · cases h
    · rename_i e₁ place hadd
      have hplace : place = e.tracks.all.length ∧
          e₁.tracks.all.length = e.tracks.all.length + 1 := by
        rw [MediaEngine.addTrack] at hadd
        split at hadd
        · cases hadd
        · cases hadd
          simp [MediaTracks.add]
      split at h
      · cases h
      · rename_i e₂ others hrest
        cases h
        rw [ih e₁ hrest, hplace.2, hplace.1]
        rfl

/-- Installed media encrypt under the IVs that are offered with them, and are switched. -/
theorem gated_installMedia {places : List Nat} (hp : Installable c.engine c.config places)
    (hnodup : places.Nodup) (sdp : Sdp) (ivs : SendIvs) :
    Gated (c.installMedia sdp ivs places) := by
  obtain ⟨vthumb, hires, audio, recv, rfl, hsends, hrecv⟩ := hp.parts
  have hplaced := placed_of_fresh hsends hrecv
  obtain ⟨hvh, hva, hha⟩ : vthumb ≠ hires ∧ vthumb ≠ audio ∧ hires ≠ audio := by
    simp only [List.nodup_cons, List.mem_cons, not_or] at hnodup
    exact ⟨hnodup.1.1, hnodup.1.2.1, hnodup.2.1.1⟩
  simp only [Call.installMedia]
  refine Keyed.applyLocalAv ⟨?_, rfl, ?_⟩
  · rintro s hs
    cases Option.some.inj hs
    refine ⟨hplaced.bindLocal ivs, fun role role' heq => ?_⟩
    cases role <;> cases role' <;>
      simp_all [Slots.own, Slots.new, Slots.bindLocal, Slot.bindLocal, Slot.new]
  · rintro sdp' ivs' ho role
    obtain ⟨-, rfl⟩ := Prod.mk.inj (Option.some.inj ho)
    -- the three places are different, so no encryptor is replaced by another one
    have hfresh : ∀ place ∈ [vthumb, hires, audio], ∃ t, c.engine.tracks.get? place = some t :=
      fun place hplace => (hsends place hplace).elim fun _ ht => ⟨_, ht⟩
    simp only [List.mem_cons, List.not_mem_nil, or_false, forall_eq_or_imp, forall_eq] at hfresh
    obtain ⟨⟨tv, htv⟩, ⟨th, hth⟩, ta, hta⟩ := hfresh
    cases role <;>
      simp [output?, own?, withTracks, Slots.own, Slots.new, Slots.bindLocal, Slot.bindLocal,
        Slot.new, SendIvs.of, MediaTrack.apply, MediaTrack.sendIv?, FrameEncryptor.new, htv, hth,
        hta, hvh, hva, hha, hvh.symm, hva.symm, hha.symm]

/-- Setting up our media changes nothing else about where we stand. -/
theorem gated_ensureMedia (h : Gated c) (w : Surroundings) : Gated (c.ensureMedia w).1 := by
  rw [Call.ensureMedia]
  split
  · rename_i hs
    have ho : c.offer = none := by
      have hoffered := h.offered
      rw [hs] at hoffered
      exact Option.not_isSome_iff_eq_none.1 (by simp [hoffered])
    obtain ⟨e, heq⟩ | ⟨places, sdp, hadd, -, heq⟩ := c.setUpMedia_cases w <;> rw [heq]
    · exact .of_slots_eq_none hs ho
    · refine gated_installMedia (MediaEngine.addTracks_fresh _ _ hadd) ?_ sdp w.ivs
      rw [addTracks_eq_range' _ _ hadd]
      exact List.nodup_range'
  · exact h

/-! ## What goes on with our participation -/

/-- The participation goes on where it stood, some deeds further.  To speak is a matter of the
call. -/
structure Onward (deeds : List CallDeed) (c c' : Call) : Prop where
  /-- Where the call stands. -/
  standing : c'.standing = { c.standing with outward := c.outward ++ deeds }
  /-- Whether we may speak. -/
  speaker : c'.speaker = c.speaker ∨ c'.speaker = .none ∨ c.state = .inProgress
  /-- Our tracks are still switched as they should be. -/
  gated : Gated c → Gated c'

namespace Onward

variable {deeds deeds' : List CallDeed}

theorem state_eq (h : Onward deeds c c') : c'.state = c.state := congrArg Standing.state h.standing

theorem relay_eq (h : Onward deeds c c') : c'.relay = c.relay := congrArg Standing.relay h.standing

theorem offer_eq (h : Onward deeds c c') : c'.offer = c.offer := congrArg Standing.offer h.standing

theorem isWanted_eq (h : Onward deeds c c') {role : SlotRole} (hrole : role ≠ .audio) :
    c'.isWanted role = c.isWanted role := by
  cases role with
  | audio => exact absurd rfl hrole
  | vthumb => exact congrArg Standing.vthumbWanted h.standing
  | hires => exact congrArg Standing.hiresWanted h.standing

theorem outward_eq (h : Onward deeds c c') : c'.outward = c.outward ++ deeds :=
  congrArg Standing.outward h.standing

theorem of_spares (h : Spares c c') (hspeaker : c'.speaker = c.speaker) : Onward [] c c' where
  standing := by
    rw [h.standing, List.append_nil]
    rfl
  speaker := .inl hspeaker
  gated hc := hc.spares h (by rw [hspeaker])

theorem refl (c : Call) : Onward [] c c := of_spares (Spares.refl c) rfl

theorem trans (h : Onward deeds c c') (h' : Onward deeds' c' c'') :
    Onward (deeds ++ deeds') c c'' where
  standing := by
    rw [h'.standing, h.standing, h.outward_eq, List.append_assoc]
  speaker := by
    have hspeaker := h'.speaker
    rw [h.state_eq] at hspeaker
    rcases hspeaker with hsame | hnone | hin
    · rw [hsame]
      exact h.speaker
    · exact .inr (.inl hnone)
    · exact .inr (.inr hin)
  gated hc := h'.gated (h.gated hc)

/-- One more thing of which nothing is told. -/
theorem next (h : Onward deeds c c') (h' : Onward [] c' c'') : Onward deeds c c'' := by
  have htrans := h.trans h'
  rwa [List.append_nil] at htrans

theorem of_rewired (h : Rewired c c') (hspares : Spares c c') : Onward [] c c' :=
  of_spares hspares (speaker_of_rewired h)

theorem tell {news : CallNews} (h : (CallDeed.told news).isOutward = false) (c : Call) :
    Onward [] c (c.tell news) := of_spares (Spares.tell h c) rfl

theorem report (c : Call) (error : CallError) : Onward [] c (c.report error) := tell rfl c

/-- What is handed to the relay is a deed. -/
theorem post (c : Call) (relay : Nat) (request : RelayRequest) :
    Onward [.posted relay request] c (c.post relay request) where
  standing := by
    change { c.standing with outward := (c.record (.posted relay request)).outward } = _
    rw [outward_record]
    rfl
  speaker := .inl rfl
  gated hc := ⟨⟨hc.seated, hc.offered, hc.ivs⟩, hc.gates⟩

/-! ### Participants -/

theorem addSession (c : Call) (peer : PeerInfo) : Onward [] c (c.addSession peer).1 := by
  refine of_spares (Spares.addSession c peer) ?_
  rw [Call.addSession]
  split
  · split
    · rfl
    · exact (speaker_of_rewired (Rewired.applyRemoteAv _ _)).trans rfl
  · rfl

theorem removeSession (c : Call) (cid : Cid) : Onward [] c (c.removeSession cid) :=
  of_spares (Spares.removeSession c cid) (by rw [(Thinned.removeSession c cid).rest])

theorem setModerator (c : Call) (user : UserId) (add : Bool) :
    Onward [] c (c.setModerator user add) := by
  refine of_spares (Spares.setModerator c user add) ?_
  simp only [Call.setModerator]
  split <;> rfl

theorem setSpeakRequested (c : Call) (cid : Cid) (requested : Bool) :
    Onward [] c (c.setSpeakRequested cid requested) :=
  of_spares (Spares.setSpeakRequested c cid requested) rfl

theorem takeKey (c : Call) (w : Surroundings) (id : KeyId) (s : Session) (wrapped : List UInt8) :
    Onward [] c (c.takeKey w id s wrapped).1 := by
  refine of_spares (Spares.takeKey c w id s wrapped) ?_
  obtain ⟨e, -, heq⟩ | ⟨plain, -, heq⟩ := c.takeKey_cases w id s wrapped <;> rw [heq]

theorem useKey (c : Call) (plain : MediaKey) : Onward [] c (c.useKey plain) :=
  of_spares (Spares.of_sameMedia rfl rfl rfl) rfl

theorem aside (h : Aside c c') (hspares : Spares c c') : Onward [] c c' :=
  of_spares hspares (by rw [h.rest])

/-! ### Speaking -/

/-- What we may do changes, and our track is switched.  That we may speak is a matter of the
call. -/
theorem speak (c : Call) {state : SpeakerState} (hs : state = .none ∨ c.state = .inProgress) :
    Onward [] c (c.speak state) where
  standing := by
    have hstanding := standing_of_rewired (Rewired.applyLocalAv (c.setSpeaker state))
    rw [List.append_nil]
    exact hstanding.trans (Spares.setSpeaker c state).standing
  speaker := by
    have hspeaker : (c.speak state).speaker = state := by
      obtain ⟨deeds, heq, -⟩ := setSpeaker_eq c state
      rw [Call.speak, speaker_of_rewired (Rewired.applyLocalAv _), heq]
    rw [hspeaker]
    exact .inr hs
  gated hc := (hc.toKeyed.spares (Spares.setSpeaker c state)).applyLocalAv

/-- As long as we may not speak, our request to do so does not matter to our track. -/
theorem setSpeaker (c : Call) {state : SpeakerState} (hs : state = .none ∨ c.state = .inProgress)
    (hbefore : c.speaker ≠ .active) (hafter : state ≠ .active) :
    Onward [] c (c.setSpeaker state) := by
  obtain ⟨deeds, heq, -⟩ := setSpeaker_eq c state
  have hspeaker : (c.setSpeaker state).speaker = state := by rw [heq]
  refine ⟨?_, ?_, fun hc => hc.spares (Spares.setSpeaker c state) ?_⟩
  · rw [List.append_nil]
    exact (Spares.setSpeaker c state).standing
  · rw [hspeaker]
    exact .inr hs
  · rw [hspeaker]
    exact iff_of_false hafter hbefore

theorem noteSpeakRequest (hs : c.state = .inProgress) (cid : Cid) :
    Onward [] c (c.noteSpeakRequest cid) := by
  rw [Call.noteSpeakRequest]
  split
  · split
    · rename_i hnone
      exact setSpeaker c (.inr hs) (by simp [hnone]) (by simp)
    · exact refl c
  · exact setSpeakRequested c cid true

theorem noteSpeakRequests (hs : c.state = .inProgress) (cids : List Cid) :
    Onward [] c (cids.foldl Call.noteSpeakRequest c) := by
  induction cids generalizing c with
  | nil => exact refl c
  | cons cid rest ih =>
    have hnoted := noteSpeakRequest hs cid
    exact hnoted.next (ih (hnoted.state_eq.trans hs))

/-! ### Commands of the relay -/

theorem inCall {apply : Call → Call × Bool}
    (h : ∀ c : Call, c.state = .inProgress → Onward [] c (apply c).1) (c : Call) :
    Onward [] c (c.inCall apply).1 := by
  rw [Call.inCall]
  split
  · rename_i hs
    exact h c hs
  · exact refl c

theorem onAv (cid : Cid) (av : AvFlags) (c : Call) : Onward [] c (c.onAv cid av).1 := by
  refine inCall (fun c _ => ?_) c
  split
  · have hset := of_rewired (Rewired.setAv c cid av) (Spares.setAv c cid av)
    exact (hset.next (of_rewired (Rewired.applyRemoteAv _ cid) (Spares.applyRemoteAv _ cid))).next
      (tell rfl _)
  · exact refl c

theorem onKey (w : Surroundings) (id : KeyId) (sender : Cid) (bytes : List UInt8) (c : Call) :
    Onward [] c (c.onKey w id sender bytes).1 := by
  refine inCall (fun c _ => ?_) c
  split
  · exact refl c
  · rename_i s _
    have htaken := takeKey c w id s bytes
    split <;> rename_i heq <;> rw [heq] at htaken
    · exact htaken
    · exact htaken.next (report _ _)

theorem onSpeakReqs (cids : List Cid) (c : Call) : Onward [] c (c.onSpeakReqs cids).1 :=
  inCall (fun _ hs => (noteSpeakRequests hs cids).next (tell rfl _)) c

theorem onSpeakReqDel (cid : Cid) (c : Call) : Onward [] c (c.onSpeakReqDel cid).1 := by
  rw [Call.onSpeakReqDel]
  split
  · split
    · rename_i hpending
      exact setSpeaker c (.inl rfl) (by simp [hpending]) (by simp)
    · exact refl c
  · exact setSpeakRequested c cid false

theorem onSpeakOn (cid : Option Cid) (audio : Option TrackDescriptor) (c : Call) :
    Onward [] c (c.onSpeakOn cid audio).1 := by
  refine inCall (fun c hs => ?_) c
  split
  · exact speak c (.inr hs)
  · rename_i cid' _
    split
    · exact refl c
    · rename_i track
      have hbound := of_rewired (Rewired.bindTrack c ⟨cid', .audio, track⟩)
        (Spares.bindTrack c ⟨cid', .audio, track⟩)
      dsimp only at hbound
      split <;> rename_i heq <;> rw [heq] at hbound
      · exact hbound
      · exact hbound.next (setSpeakRequested _ cid' false)

theorem onSpeakOff (cid : Option Cid) (c : Call) : Onward [] c (c.onSpeakOff cid).1 := by
  rw [Call.onSpeakOff]
  split
  · exact speak c (.inl rfl)
  · exact of_rewired (Rewired.releaseRole c _ .audio) (Spares.releaseRole c _ .audio)

/-- A routine command that says nothing of a wish for our video. -/
theorem deliverCommand (c : Call) (w : Surroundings) {command : Command}
    (h : command.isRoutine = true) (hwish : command.wish? = none) :
    Onward [] c ((receiver w).deliverCommand command c).1 := by
  cases command with
  | av cid flags => exact onAv cid flags c
  | key id sender bytes => exact onKey w id sender bytes c
  | vthumbs tracks =>
    exact inCall (fun c _ => of_rewired (Rewired.bindTracks c .vthumb tracks)
      (Spares.bindTracks c .vthumb tracks)) c
  | hires tracks =>
    exact inCall (fun c _ => of_rewired (Rewired.bindTracks c .hires tracks)
      (Spares.bindTracks c .hires tracks)) c
  | speakReqs cids => exact onSpeakReqs cids c
  | speakReqDel cid => exact onSpeakReqDel cid c
  | speakOn cid audio => exact onSpeakOn cid audio c
  | speakOff cid => exact onSpeakOff cid c
  | modAdd user => exact setModerator c user true
  | modDel user => exact setModerator c user false
  | vthumbStart | vthumbStop | hiresStart | hiresStop => cases hwish
  | answer _ | peerJoin _ | peerLeft _ | bye _ => cases h

end Onward
end Call
end GroupCall
