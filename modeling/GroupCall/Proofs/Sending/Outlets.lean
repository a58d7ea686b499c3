/-
# Our own tracks

Three of the tracks of a call send what we say and show.  They stand apart from each other and
from all receive tracks, so nothing that is done for other participants touches them: binding
and releasing slots, switching the tracks of others, a frame that passes.  Only `applyLocalAv`
switches them, each as our flags and what we are allowed or asked to send say.

Beside the tracks stands what decides about our sending and what was told of our participation,
the standing of a call.  That is not touched by wiring either.
-/
import GroupCall.Proofs.Slots.Ownership
import GroupCall.Proofs.Crypto.Frame

namespace GroupCall

/-- The IV of our track in a role. -/
def SendIvs.of (ivs : SendIvs) : SlotRole → InitVector
  | .audio => ivs.audio
  | .vthumb => ivs.vthumb
  | .hires => ivs.hires

/-- The IV under which a track encrypts, if it does. -/
def MediaTrack.sendIv? (t : MediaTrack) : Option InitVector :=
  match t.crypto with
  | some (.encrypt e) => some e.iv
  | _ => none

theorem FrameEncryptor.iv_encrypt {e next : FrameEncryptor} {ring : KeyRing}
    {plain frame : List UInt8} (h : e.encrypt ring plain = .ok (frame, next)) :
    next.iv = e.iv := by
  rw [encrypt] at h
  split at h
  · cases h
  · dsimp only at h
    split at h
    · cases h
    · cases h
      exact iv_turnTo e _

/-- Whether a deed concerns our participation: what we hand to a relay connection, the
connections that we have, our stage, and the end. -/
def CallDeed.isOutward : CallDeed → Bool
  | .told (.stateChanged _) => true
  | .told (.terminated _) => true
  | .posted _ _ => true
  | .connected _ _ => true
  | .disconnected _ => true
  | _ => false

/-! ## Slots that stand apart -/

namespace Slots

/-- Our slot in a role. -/
def own (s : Slots) : SlotRole → Slot
  | .audio => s.audio
  | .vthumb => s.vthumb
  | .hires => s.hires

/-- The slots have tracks of their own, and so has each of ours. -/
structure Apart (s : Slots) (ts : MediaTracks) : Prop extends s.Placed ts where
  /-- Our tracks are three. -/
  distinct : ∀ role role', (s.own role).track = (s.own role').track → role = role'

variable {s : Slots} {ts ts' : MediaTracks}

theorem own_mem_sends (s : Slots) (role : SlotRole) : s.own role ∈ s.sends := by
  cases role <;> simp [own, sends]

theorem Apart.ne_own (h : s.Apart ts) {mid : Mid} {slot : Slot}
    (hm : s.recv.get? mid = some slot) (role : SlotRole) : (s.own role).track ≠ slot.track :=
  (h.ne_send hm (s.own_mem_sends role)).symm

theorem Apart.congr (h : s.Apart ts) (hb : ts'.build = ts.build) : s.Apart ts' :=
  ⟨h.toPlaced.congr hb, h.distinct⟩

end Slots

namespace Call

variable {c c' c'' : Call} {w : Surroundings}

/-! ## What our tracks do -/

/-- Our slots, if there are any, stand apart. -/
def Seated (c : Call) : Prop := ∀ s, c.slots = some s → s.Apart c.engine.tracks

/-- Our track in a role. -/
def own? (c : Call) (role : SlotRole) : Option MediaTrack :=
  c.slots.bind fun s => c.engine.tracks.get? (s.own role).track

/-- Whether our track in a role is switched on, and the IV under which it encrypts. -/
def output? (c : Call) (role : SlotRole) : Option (Bool × Option InitVector) :=
  (c.own? role).map fun t => (t.enabled, t.sendIv?)

/-- Whether we are allowed or asked to send in a role: to speak, or to show ourselves in low or in
high resolution. -/
def isWanted (c : Call) : SlotRole → Bool
  | .audio => c.speaker = .active
  | .vthumb => c.vthumbWanted
  | .hires => c.hiresWanted

/-- Whether we are to send in a role. -/
def sends (c : Call) (role : SlotRole) : Bool := role.isSent c.av && c.isWanted role

/-- The deeds of a call that concern our participation. -/
def outward (c : Call) : List CallDeed := c.journal.filter CallDeed.isOutward

end Call

/-- Where a call stands: its stage and its link to the relay, what we offer and send, and what it
did about our participation. -/
structure Standing where
  /-- The stage. -/
  state : CallState
  /-- The relay connection. -/
  relay : Option Nat
  /-- Whether our media are set up. -/
  installed : Bool
  /-- What we offer, and the IVs of our tracks. -/
  offer : Option (Sdp × SendIvs)
  /-- How the call is set up. -/
  config : CallConfig
  /-- What we want to send. -/
  av : AvFlags
  /-- Whether the relay wants our video in low resolution. -/
  vthumbWanted : Bool
  /-- Whether the relay wants our video in high resolution. -/
  hiresWanted : Bool
  /-- What was done. -/
  outward : List CallDeed

namespace Call

variable {c c' c'' : Call} {w : Surroundings}

/-- Where a call stands. -/
def standing (c : Call) : Standing where
  state := c.state
  relay := c.relay
  installed := c.slots.isSome
  offer := c.offer
  config := c.config
  av := c.av
  vthumbWanted := c.vthumbWanted
  hiresWanted := c.hiresWanted
  outward := c.outward

theorem standing_of_rewired (h : Rewired c c') : c'.standing = c.standing := by
  have hinstalled := h.installed
  rw [h.rest] at hinstalled ⊢
  simp only [standing, outward, Standing.mk.injEq, and_true, true_and]
  exact hinstalled

theorem speaker_of_rewired (h : Rewired c c') : c'.speaker = c.speaker := by rw [h.rest]

theorem outward_record (c : Call) (deed : CallDeed) :
    (c.record deed).outward = c.outward ++ if deed.isOutward then [deed] else [] := by
  rw [outward, record, List.filter_append]
  by_cases h : deed.isOutward = true <;> simp [h, outward]

/-- A deed that is not about our participation is of no concern here. -/
theorem standing_record {deed : CallDeed} (h : deed.isOutward = false) (c : Call) :
    (c.record deed).standing = c.standing := by
  have houtward := outward_record c deed
  rw [h] at houtward
  simp only [standing, houtward]
  simp [record]

/-! ## What leaves our tracks alone -/

/-- Our tracks do what they did, and the call stands where it stood. -/
structure Spares (c c' : Call) : Prop where
  /-- Where the call stands. -/
  standing : c'.standing = c.standing
  /-- Our slots still stand apart. -/
  seated : c.Seated → c'.Seated
  /-- Our tracks. -/
  output : c.Seated → c'.output? = c.output?

namespace Spares

theorem state_eq (h : Spares c c') : c'.state = c.state := congrArg Standing.state h.standing

theorem relay_eq (h : Spares c c') : c'.relay = c.relay := congrArg Standing.relay h.standing

theorem offer_eq (h : Spares c c') : c'.offer = c.offer := congrArg Standing.offer h.standing

theorem outward_eq (h : Spares c c') : c'.outward = c.outward :=
  congrArg Standing.outward h.standing

theorem refl (c : Call) : Spares c c := ⟨rfl, fun h => h, fun _ => rfl⟩

theorem trans (h : Spares c c') (h' : Spares c' c'') : Spares c c'' where
  standing := h'.standing.trans h.standing
  seated hc := h'.seated (h.seated hc)
  output hc := (h'.output (h.seated hc)).trans (h.output hc)

theorem foldl {α : Type} {f : Call → α → Call} (hf : ∀ c a, Spares c (f c a)) (l : List α)
    (c : Call) : Spares c (l.foldl f c) :=
  foldl_related refl trans hf l c

/-- Nothing about slots and tracks is different. -/
theorem of_sameMedia (h : c'.standing = c.standing) (hslots : c'.slots = c.slots)
    (htracks : c'.engine.tracks = c.engine.tracks) : Spares c c' where
  standing := h
  seated hc := by
    rw [Seated, hslots, htracks]
    exact hc
  output _ := by
    funext role
    rw [output?, own?, hslots, htracks]
    rfl

/-- The slots are others with our own among them, and something was done to tracks that are not
ours. -/
theorem of_slots {s s' : Slots} (h : Rewired c c') (hs : c.slots = some s)
    (hs' : c'.slots = some s') (hown : s'.own = s.own)
    (hplaced : s.Placed c.engine.tracks → s'.Placed c'.engine.tracks)
    (hother : s.Apart c.engine.tracks → ∀ role,
      c'.engine.tracks.get? (s.own role).track = c.engine.tracks.get? (s.own role).track) :
    Spares c c' where
  standing := standing_of_rewired h
  seated hc r hr := by
    cases hs'.symm.trans hr
    refine ⟨hplaced (hc s hs).toPlaced, ?_⟩
    rw [hown]
    exact (hc s hs).distinct
  output hc := by
    funext role
    simp only [output?, own?, hs, hs', Option.bind_some, hown, hother (hc s hs) role]

theorem record {deed : CallDeed} (h : deed.isOutward = false) (c : Call) :
    Spares c (c.record deed) :=
  of_sameMedia (standing_record h c) rfl rfl

theorem tell {news : CallNews} (h : (CallDeed.told news).isOutward = false) (c : Call) :
    Spares c (c.tell news) := record h c

/-! ### Tracks of others -/

theorem switch {mid : Mid} {slot : Slot} (hslot : c.recvSlot? mid = some slot) (on : Bool) :
    Spares c (c.switch slot on) := by
  obtain ⟨s, hs, hget⟩ := Option.bind_eq_some_iff.1 hslot
  refine of_slots (Rewired.switch c slot on) hs hs rfl
    (fun hplaced => hplaced.congr (MediaTracks.build_switch _ _ _)) fun hs role => ?_
  rw [Call.switch, withTracks, MediaTracks.get?_switch, if_neg (hs.ne_own hget role)]

theorem applyRole (c : Call) (s : Session) (role : SlotRole) : Spares c (c.applyRole s role) := by
  rw [Call.applyRole]
  split
  · exact refl c
  · rename_i slot hslot
    obtain ⟨mid, -, hget⟩ := Option.bind_eq_some_iff.1 hslot
    exact switch hget _

theorem applyRemoteAv (c : Call) (cid : Cid) : Spares c (c.applyRemoteAv cid) := by
  rw [Call.applyRemoteAv]
  split
  · exact refl c
  · exact ((applyRole c _ _).trans (applyRole _ _ _)).trans (applyRole _ _ _)

/-! ### Receive slots -/

theorem releaseSlot (c : Call) (mid : Mid) : Spares c (c.releaseSlot mid) := by
  have hrewired := Rewired.releaseSlot c mid
  cases hs : c.slots with
  | none =>
    have hsame : c.releaseSlot mid = c := by rw [Call.releaseSlot, onSlots, hs]
    rw [hsame]
    exact refl c
  | some s =>
    have hreleased : c.releaseSlot mid = { c with
        slots := some (s.release mid c.engine.tracks).1 }.withTracks
          (s.release mid c.engine.tracks).2 := by
      rw [Call.releaseSlot, onSlots, hs]
    rw [hreleased] at hrewired ⊢
    refine of_slots hrewired hs rfl ?_ (fun hp => hp.release mid) fun ha role => ?_
    · rw [Slots.release]
      split <;> rfl
    · rw [withTracks, Slots.release]
      split
      · rename_i slot hget
        simp only [Slots.put, Slot.get?_release, ha.ne_own hget role, false_and, if_false]
      · rfl

theorem releaseRole (c : Call) (cid : Cid) (role : SlotRole) :
    Spares c (c.releaseRole cid role).1 := by
  rw [Call.releaseRole]
  split
  · exact refl c
  · split
    · exact refl c
    · have hset : Spares c (c.setRole cid role none) :=
        of_sameMedia (standing_of_rewired (Rewired.setRole c cid role none)) rfl rfl
      exact hset.trans (releaseSlot _ _)

theorem releaseRoles (c : Call) (role : SlotRole) (cids : List Cid) :
    Spares c (c.releaseRoles role cids) :=
  foldl (fun c cid => releaseRole c cid role) cids c

theorem seize {s s' : Slots} {tracks : MediaTracks} {mid : Mid} {cid : Cid} {iv : InitVector}
    {session : Nat} {previous : Option Cid} (hs : c.slots = some s)
    (ha : s.assign mid cid iv session c.engine.tracks = some (previous, s', tracks)) :
    Spares c (c.seize s' tracks mid) := by
  refine of_slots (Rewired.seize hs ha) hs rfl ?_ (fun hp => hp.assign ha) fun hapart role => ?_ <;>
    obtain ⟨slot, hget, heq⟩ := Option.map_eq_some_iff.1 ha <;>
    obtain ⟨-, hput⟩ := Prod.mk.inj heq <;> obtain ⟨rfl, rfl⟩ := Prod.mk.inj hput
  · rfl
  · have hne := hapart.ne_own hget role
    simp only [Call.seize, forgetSlot, withTracks, Slot.get?_assign, hne, if_false]

theorem bindTrack (c : Call) (b : Binding) :
    Spares c (c.bindTrack b.cid b.track b.role).1 := by
  cases hb : c.binds b with
  | false =>
    rw [bindTrack_of_binds_eq_false hb]
    exact refl c
  | true =>
    obtain ⟨s, slots, previous, slots', tracks, hs, hslots, ha, heq⟩ := bindTrack_of_binds hb
    have hreleased := (seize hslots ha).trans (releaseRole _ b.cid b.role)
    rw [heq]
    refine (hreleased.trans ?_).trans (applyRemoteAv _ _)
    exact of_sameMedia (standing_of_rewired (Rewired.setRole _ b.cid b.role (some b.track.mid)))
      rfl rfl

theorem bindTracks (c : Call) (role : SlotRole) (tracks : List CidTrack) :
    Spares c (c.bindTracks role tracks).1 := by
  rw [bindTracks_fst]
  refine foldl (fun c t => ?_) tracks c
  have hbound := bindTrack c ⟨t.cid, role, t.track⟩
  rw [Call.bindListed]
  split <;> rename_i heq <;> rw [heq] at hbound
  · exact hbound
  · split
    · exact hbound.trans (releaseRole _ _ _)
    · exact hbound

/-! ### Participants -/

/-- Sessions are no matter of ours. -/
theorem withSessions (c : Call) (sessions : Table Cid Session) :
    Spares c { c with sessions := sessions } := of_sameMedia rfl rfl rfl

theorem setAv (c : Call) (cid : Cid) (av : AvFlags) : Spares c (c.setAv cid av) :=
  withSessions c _

theorem setSpeakRequested (c : Call) (cid : Cid) (requested : Bool) :
    Spares c (c.setSpeakRequested cid requested) := withSessions c _

theorem addSession (c : Call) (peer : PeerInfo) : Spares c (c.addSession peer).1 := by
  rw [Call.addSession]
  split
  · split
    · exact refl c
    · exact ((setAv c peer.cid peer.av).trans (tell rfl _)).trans (applyRemoteAv _ _)
  · exact (tell rfl c).trans (of_sameMedia rfl rfl rfl)

theorem removeSession (c : Call) (cid : Cid) : Spares c (c.removeSession cid) := by
  rw [Call.removeSession]
  split
  · exact refl c
  · exact ((withSessions c _).trans (foldl releaseSlot _ _)).trans (tell rfl _)

theorem clearSessions (c : Call) : Spares c c.clearSessions :=
  foldl removeSession c.sessions.keys c

theorem setModerator (c : Call) (user : UserId) (add : Bool) :
    Spares c (c.setModerator user add) := by
  have hset : ∀ moderators isModerator,
      Spares c { c with moderators := moderators, isModerator := isModerator } :=
    fun _ _ => of_sameMedia rfl rfl rfl
  simp only [Call.setModerator]
  split
  · exact (hset _ _).trans (tell rfl _)
  · exact hset _ _

/-! ### Users and connections -/

theorem addParticipant (c : Call) (user : UserId) : Spares c (c.addParticipant user).1 := by
  have hadded : Spares c { c with participants := c.participants.insert user () } :=
    of_sameMedia rfl rfl rfl
  exact addParticipant_invariant (refl c) (hadded.trans (tell rfl _))

theorem removeParticipant (c : Call) (user : UserId) :
    Spares c (c.removeParticipant user).1 := by
  have hremoved : Spares c { c with participants := c.participants.erase user } :=
    of_sameMedia rfl rfl rfl
  exact removeParticipant_invariant (refl c) (hremoved.trans (tell rfl _))

theorem abortReconnect (c : Call) : Spares c c.abortReconnect.1 :=
  abortReconnect_invariant (refl c) fun _ _ => record rfl c

/-! ### Speaking -/

/-- That we may speak shows in our track only once it is switched. -/
theorem setSpeaker (c : Call) (state : SpeakerState) : Spares c (c.setSpeaker state) := by
  rw [Call.setSpeaker]
  split
  · exact refl c
  · have hset : Spares c { c with speaker := state } := of_sameMedia rfl rfl rfl
    exact hset.trans (tell rfl _)

theorem admitSpeaker (c : Call) (cid : Cid) (track : TrackDescriptor) :
    Spares c (c.admitSpeaker cid track) := by
  rw [Call.admitSpeaker]
  split
  · exact setSpeaker c .active
  · exact bindTrack c ⟨cid, .audio, track⟩

theorem takeRoster (c : Call) (answer : Answer) : Spares c (c.takeRoster answer) := by
  have hours : Spares c { c with cid := answer.cid, startedAt := some answer.startedAt } :=
    of_sameMedia rfl rfl rfl
  exact ((hours.trans (foldl (fun c user => setModerator c user true) answer.moderators _)).trans
    (foldl addSession answer.peers _)).trans
      (foldl (fun c e => bindTrack c (Binding.filed .vthumb e)) answer.vthumbs.entries _)

/-! ### Keys and frames -/

theorem setRemote (c : Call) (w : Surroundings) (sdp : Sdp) : Spares c (c.setRemote w sdp).1 := by
  rw [Call.setRemote]
  split
  · exact refl c
  · simp only [MediaEngine.setRemote]
    cases w.faults.remote with
    | some reason => exact refl c
    | none => exact of_sameMedia rfl rfl rfl

theorem takeKey (c : Call) (w : Surroundings) (id : KeyId) (s : Session) (wrapped : List UInt8) :
    Spares c (c.takeKey w id s wrapped).1 := by
  obtain ⟨e, -, heq⟩ | ⟨plain, -, heq⟩ := c.takeKey_cases w id s wrapped <;> rw [heq]
  · exact refl c
  · exact withSessions c _

/-- A frame moves a counter on. -/
theorem handleFrame (c : Call) (place : Nat) (bytes : List UInt8) :
    Spares c (c.handleFrame place bytes).1 := by
  rw [Call.handleFrame]
  split
  · exact refl c
  · exact refl c
  · exact refl c
  · rename_i e heq
    split
    · exact refl c
    · rename_i frame next hencrypt
      obtain ⟨t, ht, hcrypto⟩ := Option.map_eq_some_iff.1 heq
      refine ⟨rfl, fun hc s hs => (hc s hs).congr (Wired.build_setEncryptor c place next),
        fun _ => ?_⟩
      funext role
      simp only [output?, own?]
      cases hs : c.slots with
      | none => simp [setEncryptor, hs]
      | some s =>
        have hs' : (c.setEncryptor place next).slots = some s := hs
        simp only [hs', Option.bind_some, Wired.get?_setEncryptor]
        split
        · -- the encryptor is another one with the same IV
          rename_i hplace
          simp [hplace, ht, MediaTrack.sendIv?, hcrypto, FrameEncryptor.iv_encrypt hencrypt]
        · rfl

end Spares

/-! ## Switching our tracks -/

theorem Seated.applyLocalAv (h : c.Seated) : c.applyLocalAv.Seated := by
  rw [Call.applyLocalAv]
  split
  · exact h
  · intro s hs
    exact (h s hs).congr (by simp [switch, withTracks])

/-- Each of our tracks is switched on exactly if we are to send in its role. -/
theorem output?_applyLocalAv (h : c.Seated) (role : SlotRole) :
    c.applyLocalAv.output? role = (c.output? role).map fun o => (c.sends role, o.2) := by
  rw [Call.applyLocalAv]
  split
  · rename_i hnone
    simp [output?, own?, hnone]
  · rename_i s hs
    have hdistinct : ∀ {r r' : SlotRole}, r ≠ r' → (s.own r).track ≠ (s.own r').track :=
      fun hne heq => hne ((h s hs).distinct _ _ heq)
    have hav : (s.own .audio).track ≠ (s.own .vthumb).track := hdistinct (by decide)
    have hah : (s.own .audio).track ≠ (s.own .hires).track := hdistinct (by decide)
    have hvh : (s.own .vthumb).track ≠ (s.own .hires).track := hdistinct (by decide)
    simp only [Slots.own] at hav hah hvh
    have hslots : ∀ a b d : MediaTracks,
        (((c.withTracks a).withTracks b).withTracks d).slots = some s := fun _ _ _ => hs
    simp only [output?, own?, switch, hslots, hs, Option.bind_some, Option.map_map]
    cases role <;>
      simp [Slots.own, withTracks, sends, isWanted, SlotRole.isSent, hav, hah, hvh, hav.symm,
        hah.symm, hvh.symm, Function.comp_def, MediaTrack.sendIv?]

end Call
end GroupCall
