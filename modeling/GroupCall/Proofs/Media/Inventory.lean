/-
# The inventory of a call

What a call holds of its engine is told by a small inventory: the tracks that were handed out,
how often the engine was closed, whether there are slots, what we offer, and what the requests
to join have described so far.  An engine hands out tracks one by one until one cannot be had,
under ascending numbers.  Almost nothing that happens to a call touches the inventory; here is
one lemma for each operation that does not.
-/
import GroupCall.Proofs.Link
import GroupCall.Proofs.Media.Offer

namespace GroupCall

/-! ## What an engine hands out -/

/-- The outlines of tracks, in their order. -/
def MediaTracks.outlines (ts : MediaTracks) : List TrackOutline := ts.all.map MediaTrack.outline

/-- Tracks as an engine hands them out, under ascending numbers. -/
def lineUp (asked : List (TrackKind × Direction)) : List TrackOutline :=
  asked.zipIdx.map fun a => ⟨UInt32.ofNat a.2, a.1.1, a.1.2⟩

/-- What is handed out of the tracks that are asked for, after so many requests: those in front
of the first one that cannot be had. -/
def EngineFaults.granted (faults : EngineFaults) (requested : Nat) :
    List (TrackKind × Direction) → List (TrackKind × Direction)
  | [] => []
  | a :: rest =>
    if (faults.track requested).isSome then [] else a :: faults.granted (requested + 1) rest

theorem lineUp_append_singleton (asked : List (TrackKind × Direction))
    (a : TrackKind × Direction) :
    lineUp (asked ++ [a]) = lineUp asked ++ [⟨UInt32.ofNat asked.length, a.1, a.2⟩] := by
  simp [lineUp, List.zipIdx_append]

theorem length_lineUp (asked : List (TrackKind × Direction)) :
    (lineUp asked).length = asked.length := by
  simp [lineUp]

theorem CallConfig.length_tracks (config : CallConfig) :
    config.tracks.length = 3 + config.videoSlots + config.audioSlots := by
  simp only [tracks, List.length_append, List.length_cons, List.length_nil, List.length_replicate]

namespace MediaTracks

/-- Tracks of the same build have the same outlines. -/
theorem outlines_eq_of_build {ts ts' : MediaTracks} (h : ts'.build = ts.build) :
    ts'.outlines = ts.outlines := by
  refine List.ext_getElem? fun place => ?_
  have hplace := congrArg (Option.map fun b : Option Mid × TrackKind × Direction =>
    (⟨b.1.getD 0, b.2.1, b.2.2⟩ : TrackOutline)) (congrFun h place)
  simp only [build, get?, Option.map_map] at hplace
  rw [outlines, outlines, List.getElem?_map, List.getElem?_map]
  exact hplace

end MediaTracks

namespace MediaEngine

variable {e e' : MediaEngine} {faults : EngineFaults} {handed : List (TrackKind × Direction)}

/-- An engine after one track more was had. -/
def handOut (e : MediaEngine) (a : TrackKind × Direction) : MediaEngine :=
  { e with
    tracks := e.tracks.add (.new (some (UInt32.ofNat e.tracks.all.length)) a.1 a.2)
    requested := e.requested + 1 }

theorem addTracks_cons_fst (e : MediaEngine) (faults : EngineFaults) (a : TrackKind × Direction)
    (rest : List (TrackKind × Direction)) :
    (e.addTracks faults (a :: rest)).1 =
      if (faults.track e.requested).isSome then { e with requested := e.requested + 1 }
      else ((e.handOut a).addTracks faults rest).1 := by
  rw [addTracks, addTrack]
  cases faults.track e.requested with
  | some reason => rfl
  | none =>
    dsimp only
    split <;> rename_i hrest <;> exact (congrArg Prod.fst hrest).symm

theorem outlines_handOut (h : e.tracks.outlines = lineUp handed) (a : TrackKind × Direction) :
    (e.handOut a).tracks.outlines = lineUp (handed ++ [a]) := by
  have hlength : e.tracks.all.length = handed.length := by
    have hlengths := congrArg List.length h
    rwa [MediaTracks.outlines, List.length_map, length_lineUp] at hlengths
  rw [lineUp_append_singleton, ← h, ← hlength]
  simp [handOut, MediaTracks.outlines, MediaTracks.add, MediaTrack.outline, MediaTrack.new]

/-- What is handed out stands behind what was handed out before. -/
theorem outlines_addTracks (h : e.tracks.outlines = lineUp handed) (faults : EngineFaults)
    (asked : List (TrackKind × Direction)) :
    (e.addTracks faults asked).1.tracks.outlines =
      lineUp (handed ++ faults.granted e.requested asked) := by
  induction asked generalizing e handed with
  | nil => rw [EngineFaults.granted, List.append_nil, ← h, addTracks]
  | cons a rest ih =>
    rw [addTracks_cons_fst, EngineFaults.granted]
    split
    · rw [List.append_nil]
      exact h
    · rw [ih (outlines_handOut h a), List.append_assoc]
      rfl

@[simp] theorem closes_addTracks (e : MediaEngine) (faults : EngineFaults)
    (asked : List (TrackKind × Direction)) :
    (e.addTracks faults asked).1.closes = e.closes := by
  induction asked generalizing e with
  | nil => rfl
  | cons a rest ih =>
    rw [addTracks_cons_fst]
    split
    · rfl
    · exact ih (e.handOut a)

/-- The places of tracks are given back if every track could be had, and only then. -/
theorem isOk_addTracks_iff (e : MediaEngine) (faults : EngineFaults)
    (asked : List (TrackKind × Direction)) :
    (e.addTracks faults asked).2.isOk = true ↔ faults.granted e.requested asked = asked := by
  -- the numbers of requests go on with the engine, so the engine is not fixed
  induction asked generalizing e with
  | nil => simp [addTracks, EngineFaults.granted, Except.isOk, Except.toBool]
  | cons a rest ih =>
    rw [addTracks, addTrack, EngineFaults.granted]
    cases htrack : faults.track e.requested with
    | some reason => simp [Except.isOk, Except.toBool]
    | none =>
      have hrest := ih (e.handOut a)
      rw [show (e.handOut a).requested = e.requested + 1 from rfl] at hrest
      rw [if_neg (by simp), List.cons.injEq, eq_self, true_and, ← hrest]
      dsimp only
      split <;> rename_i hadd
      · rw [show (e.handOut a).addTracks faults rest = _ from hadd]
      · rw [show (e.handOut a).addTracks faults rest = _ from hadd]
        rfl

end MediaEngine

/-! ## Inventories -/

/-- The description in a request to join that was handed to a relay connection. -/
def CallDeed.described? : CallDeed → Option Sdp
  | .posted _ (.join (.join sdp _ _ _ _)) => some sdp
  | _ => none

/-- What a call holds of its engine, and what it has told of it. -/
structure Stock where
  /-- How the call is set up. -/
  config : CallConfig
  /-- The tracks that the engine has handed out. -/
  tracks : List TrackOutline
  /-- How often the engine was closed. -/
  closes : Nat
  /-- Whether there are slots. -/
  installed : Bool
  /-- What we offer. -/
  offer : Option (Sdp × SendIvs)
  /-- What the requests to join have described, first request first. -/
  described : List Sdp

namespace Call

variable {c : Call} {w : Surroundings}

/-- What the requests to join of a call have described, first request first. -/
def described (c : Call) : List Sdp := c.journal.filterMap CallDeed.described?

/-- The inventory of a call. -/
def stock (c : Call) : Stock where
  config := c.config
  tracks := c.engine.tracks.outlines
  closes := c.engine.closes
  installed := c.slots.isSome
  offer := c.offer
  described := c.described

/-! ### Deeds -/

theorem stock_record {deed : CallDeed} (h : deed.described? = none) (c : Call) :
    (c.record deed).stock = c.stock := by
  simp [stock, described, record, h]

@[simp] theorem stock_tell (c : Call) (news : CallNews) : (c.tell news).stock = c.stock :=
  stock_record rfl c

@[simp] theorem stock_report (c : Call) (error : CallError) : (c.report error).stock = c.stock :=
  stock_tell c _

/-- A command describes nothing. -/
@[simp] theorem stock_post_send (c : Call) (relay : Nat) (command : OutboundCommand) :
    (c.post relay (.send command)).stock = c.stock := stock_record rfl c

@[simp] theorem stock_setState (c : Call) (next : CallState) :
    (c.setState next).1.stock = c.stock := by
  rw [setState]
  split
  · exact stock_tell _ _
  · rfl

@[simp] theorem stock_moveTo (c : Call) (next : CallState) : (c.moveTo next).stock = c.stock :=
  stock_setState c next

@[simp] theorem stock_setSpeaker (c : Call) (state : SpeakerState) :
    (c.setSpeaker state).stock = c.stock := by
  rw [setSpeaker]
  split
  · rfl
  · exact stock_tell _ _

@[simp] theorem stock_setModerator (c : Call) (user : UserId) (add : Bool) :
    (c.setModerator user add).stock = c.stock := by
  simp only [setModerator]
  split
  · exact stock_tell _ _
  · rfl

/-! ### Tracks -/

/-- Whatever is done to tracks, their outlines are as before. -/
theorem stock_withTracks {ts : MediaTracks} (h : ts.build = c.engine.tracks.build) :
    (c.withTracks ts).stock = c.stock := by
  simp [stock, described, withTracks, MediaTracks.outlines_eq_of_build h]

@[simp] theorem stock_switch (c : Call) (slot : Slot) (on : Bool) :
    (c.switch slot on).stock = c.stock := stock_withTracks (MediaTracks.build_switch _ _ _)

@[simp] theorem stock_applyLocalAv (c : Call) : c.applyLocalAv.stock = c.stock := by
  rw [applyLocalAv]
  split <;> simp

@[simp] theorem stock_applyRole (c : Call) (s : Session) (role : SlotRole) :
    (c.applyRole s role).stock = c.stock := by
  rw [applyRole]
  split <;> simp

@[simp] theorem stock_applyRemoteAv (c : Call) (cid : Cid) :
    (c.applyRemoteAv cid).stock = c.stock := by
  rw [applyRemoteAv]
  split <;> simp

/-! ### Slots -/

/-- Slots take the place of others, and tracks that of others of the same build. -/
theorem stock_rewire {s s' : Slots} {ts : MediaTracks} (hs : c.slots = some s)
    (h : ts.build = c.engine.tracks.build) :
    ({ c with slots := some s' }.withTracks ts).stock = c.stock := by
  refine (stock_withTracks (c := { c with slots := some s' }) h).trans ?_
  simp [stock, described, hs]

theorem stock_onSlots {f : Slots → MediaTracks → Slots × MediaTracks}
    (h : ∀ s ts, (f s ts).2.build = ts.build) (c : Call) : (c.onSlots f).stock = c.stock := by
  rw [onSlots]
  split
  · rfl
  · rename_i slots hs
    exact stock_rewire hs (h slots c.engine.tracks)

theorem build_release (s : Slots) (mid : Mid) (ts : MediaTracks) :
    (s.release mid ts).2.build = ts.build := by
  rw [Slots.release]
  split
  · simp [Slots.put]
  · rfl

@[simp] theorem stock_releaseSlot (c : Call) (mid : Mid) : (c.releaseSlot mid).stock = c.stock :=
  stock_onSlots (fun s ts => build_release s mid ts) c

@[simp] theorem stock_setRole (c : Call) (cid : Cid) (role : SlotRole) (mid : Option Mid) :
    (c.setRole cid role mid).stock = c.stock := rfl

@[simp] theorem stock_setAv (c : Call) (cid : Cid) (av : AvFlags) :
    (c.setAv cid av).stock = c.stock := rfl

@[simp] theorem stock_setSpeakRequested (c : Call) (cid : Cid) (requested : Bool) :
    (c.setSpeakRequested cid requested).stock = c.stock := rfl

@[simp] theorem stock_forgetSlot (c : Call) (mid : Mid) : (c.forgetSlot mid).stock = c.stock := rfl

@[simp] theorem stock_releaseRole (c : Call) (cid : Cid) (role : SlotRole) :
    (c.releaseRole cid role).1.stock = c.stock := by
  rw [releaseRole]
  split
  · rfl
  · split <;> simp

theorem build_assign {s s' : Slots} {mid : Mid} {cid : Cid} {iv : InitVector} {session : Nat}
    {ts ts' : MediaTracks} {previous : Option Cid}
    (h : s.assign mid cid iv session ts = some (previous, s', ts')) : ts'.build = ts.build := by
  obtain ⟨slot, -, heq⟩ := Option.map_eq_some_iff.1 h
  cases heq
  simp

@[simp] theorem stock_bindTrack (c : Call) (cid : Cid) (track : TrackDescriptor)
    (role : SlotRole) : (c.bindTrack cid track role).1.stock = c.stock := by
  rw [bindTrack]
  split
  · rename_i slots _ hs
    split
    · rfl
    · rename_i previous slots' tracks hassign
      simp only [stock_applyRemoteAv, stock_setRole, stock_releaseRole, stock_forgetSlot]
      exact stock_rewire hs (build_assign hassign)
  · rfl

@[simp] theorem stock_bindListed (c : Call) (role : SlotRole) (t : CidTrack) :
    (c.bindListed role t).1.stock = c.stock := by
  have hbound := stock_bindTrack c t.cid t.track role
  rw [bindListed]
  split <;> rename_i heq <;> rw [heq] at hbound
  · exact hbound
  · split
    · exact (stock_releaseRole _ _ _).trans hbound
    · exact hbound

@[simp] theorem stock_bindTracks (c : Call) (role : SlotRole) (tracks : List CidTrack) :
    (c.bindTracks role tracks).1.stock = c.stock := by
  induction tracks generalizing c with
  | nil => rfl
  | cons t rest ih => exact (ih _).trans (stock_bindListed c role t)

/-! ### Sessions -/

/-- What touches the inventory at no element of a list does not touch it at all. -/
theorem stock_foldl {α : Type} {f : Call → α → Call} (hf : ∀ c a, (f c a).stock = c.stock)
    (l : List α) (c : Call) : (l.foldl f c).stock = c.stock :=
  foldl_related (R := fun c c' => c'.stock = c.stock) (fun _ => rfl) (fun h h' => h'.trans h) hf l c

@[simp] theorem stock_addSession (c : Call) (peer : PeerInfo) :
    (c.addSession peer).1.stock = c.stock := by
  rw [addSession]
  split
  · split <;> simp
  · exact stock_tell c (.sessionAdded peer.cid peer.userId)

@[simp] theorem stock_removeSession (c : Call) (cid : Cid) :
    (c.removeSession cid).stock = c.stock := by
  rw [removeSession]
  split
  · rfl
  · exact (stock_tell _ _).trans (stock_foldl stock_releaseSlot _ _)

@[simp] theorem stock_clearSessions (c : Call) : c.clearSessions.stock = c.stock :=
  stock_foldl stock_removeSession _ c

@[simp] theorem stock_releaseRoles (c : Call) (role : SlotRole) (cids : List Cid) :
    (c.releaseRoles role cids).stock = c.stock :=
  stock_foldl (fun c cid => stock_releaseRole c cid role) cids c

/-! ### Keys -/

@[simp] theorem stock_rotateKey (c : Call) (w : Surroundings) :
    (c.rotateKey w).1.stock = c.stock := by
  obtain ⟨e, heq, -⟩ | ⟨relay, wrapped, -, heq⟩ := c.rotateKey_cases w <;> rw [heq]
  exact stock_post_send c relay _

@[simp] theorem stock_rotateOrReport (c : Call) (w : Surroundings) :
    (c.rotateOrReport w).stock = c.stock := by
  have hrotated := stock_rotateKey c w
  rw [rotateOrReport]
  split <;> rename_i heq <;> rw [heq] at hrotated
  · exact hrotated
  · exact (stock_report _ _).trans hrotated

@[simp] theorem stock_sendKeyTo (c : Call) (w : Surroundings) (cid : Cid) :
    (c.sendKeyTo w cid).1.stock = c.stock := by
  obtain ⟨-, heq⟩ | ⟨e, heq⟩ | ⟨s, id, plain, relay, bytes, -, -, -, -, heq⟩ :=
    c.sendKeyTo_cases w cid <;> rw [heq]
  exact stock_post_send c relay _

@[simp] theorem stock_takeKey (c : Call) (w : Surroundings) (id : KeyId) (s : Session)
    (wrapped : List UInt8) : (c.takeKey w id s wrapped).1.stock = c.stock := by
  obtain ⟨e, -, heq⟩ | ⟨plain, -, heq⟩ := c.takeKey_cases w id s wrapped <;> rw [heq]
  rfl

/-! ### Commands of the relay -/

theorem stock_inCall {apply : Call → Call × Bool} (h : ∀ c, (apply c).1.stock = c.stock)
    (c : Call) : (c.inCall apply).1.stock = c.stock := by
  rw [inCall]
  split
  · exact h c
  · rfl

@[simp] theorem stock_setRemote (c : Call) (w : Surroundings) (sdp : Sdp) :
    (c.setRemote w sdp).1.stock = c.stock := by
  rw [setRemote]
  split
  · rfl
  · rw [MediaEngine.setRemote]
    split <;> rename_i heq <;> split at heq <;> cases heq <;> rfl

@[simp] theorem stock_takeRoster (c : Call) (answer : Answer) :
    (c.takeRoster answer).stock = c.stock := by
  rw [takeRoster]
  refine (stock_foldl (fun c (e : Cid × TrackDescriptor) =>
    stock_bindTrack c e.1 e.2 .vthumb) _ _).trans ?_
  refine (stock_foldl (fun c peer => stock_addSession c peer) _ _).trans ?_
  exact stock_foldl (fun c user => stock_setModerator c user true) _ _

@[simp] theorem stock_admitSpeaker (c : Call) (cid : Cid) (track : TrackDescriptor) :
    (c.admitSpeaker cid track).stock = c.stock := by
  rw [admitSpeaker]
  split <;> simp

@[simp] theorem stock_enter (c : Call) (w : Surroundings) : (c.enter w).1.stock = c.stock := by
  have hset := stock_setState c .inProgress
  rw [enter]
  split <;> rename_i heq <;> rw [heq] at hset
  · exact hset
  · simpa using hset

theorem stock_onAnswer (w : Surroundings) (answer : Answer) (c : Call) :
    (c.onAnswer w answer).1.stock = c.stock := by
  have hremote := stock_setRemote c w answer.sdp
  rw [onAnswer]
  split
  · split <;> rename_i heq <;> rw [heq] at hremote
    · exact (stock_report _ _).trans hremote
    · refine (stock_enter _ w).trans ?_
      refine (stock_foldl (fun c (e : Cid × TrackDescriptor) =>
        stock_admitSpeaker c e.1 e.2) _ _).trans ?_
      exact (stock_takeRoster _ answer).trans hremote
  · rfl

theorem stock_onAv (cid : Cid) (av : AvFlags) (c : Call) : (c.onAv cid av).1.stock = c.stock := by
  refine stock_inCall (fun c => ?_) c
  split <;> simp

theorem stock_onPeerJoin (w : Surroundings) (peer : PeerInfo) (c : Call) :
    (c.onPeerJoin w peer).1.stock = c.stock := by
  refine stock_inCall (fun c => ?_) c
  have hadded := stock_addSession c peer
  split <;> rename_i heq <;> rw [heq] at hadded
  · exact hadded
  · rename_i d
    have hsent := stock_sendKeyTo d w peer.cid
    split <;> rename_i heq' <;> rw [heq'] at hsent
    · exact hsent.trans hadded
    · exact ((stock_report _ _).trans hsent).trans hadded

theorem stock_onPeerLeft (w : Surroundings) (cid : Cid) (c : Call) :
    (c.onPeerLeft w cid).1.stock = c.stock := by
  refine stock_inCall (fun c => ?_) c
  split <;> simp

theorem stock_onKey (w : Surroundings) (id : KeyId) (sender : Cid) (bytes : List UInt8)
    (c : Call) : (c.onKey w id sender bytes).1.stock = c.stock := by
  refine stock_inCall (fun c => ?_) c
  split
  · rfl
  · rename_i s _
    have htaken := stock_takeKey c w id s bytes
    split <;> rename_i heq <;> rw [heq] at htaken
    · exact htaken
    · exact (stock_report _ _).trans htaken

@[simp] theorem stock_noteSpeakRequest (c : Call) (cid : Cid) :
    (c.noteSpeakRequest cid).stock = c.stock := by
  rw [noteSpeakRequest]
  split
  · split <;> simp
  · simp

theorem stock_onSpeakReqs (cids : List Cid) (c : Call) :
    (c.onSpeakReqs cids).1.stock = c.stock :=
  stock_inCall (fun c => (stock_tell _ _).trans (stock_foldl stock_noteSpeakRequest cids c)) c

theorem stock_onSpeakReqDel (cid : Cid) (c : Call) :
    (c.onSpeakReqDel cid).1.stock = c.stock := by
  rw [onSpeakReqDel]
  split
  · split <;> simp
  · simp

@[simp] theorem stock_speak (c : Call) (state : SpeakerState) :
    (c.speak state).stock = c.stock := by
  simp [speak]

theorem stock_onSpeakOn (cid : Option Cid) (audio : Option TrackDescriptor) (c : Call) :
    (c.onSpeakOn cid audio).1.stock = c.stock := by
  refine stock_inCall (fun c => ?_) c
  split
  · simp
  · rename_i cid' _
    split
    · rfl
    · rename_i track
      have hbound := stock_bindTrack c cid' track .audio
      split <;> rename_i heq <;> rw [heq] at hbound
      · exact hbound
      · exact hbound

theorem stock_onSpeakOff (cid : Option Cid) (c : Call) :
    (c.onSpeakOff cid).1.stock = c.stock := by
  rw [onSpeakOff]
  split <;> simp

/-- No command but the last one touches the inventory. -/
theorem stock_deliverCommand (w : Surroundings) {command : Command}
    (h : RelayNews.endsParticipation (.frame (.command command)) = false) (c : Call) :
    ((receiver w).deliverCommand command c).1.stock = c.stock := by
  cases command with
  | av cid flags => exact stock_onAv cid flags c
  | answer answer => exact stock_onAnswer w answer c
  | key id sender bytes => exact stock_onKey w id sender bytes c
  | vthumbs tracks => exact stock_inCall (fun c => stock_bindTracks c .vthumb tracks) c
  | hires tracks => exact stock_inCall (fun c => stock_bindTracks c .hires tracks) c
  | vthumbStart => exact stock_applyLocalAv { c with vthumbWanted := true }
  | vthumbStop => exact stock_applyLocalAv { c with vthumbWanted := false }
  | hiresStart => exact stock_applyLocalAv { c with hiresWanted := true }
  | hiresStop => exact stock_applyLocalAv { c with hiresWanted := false }
  | speakReqs cids => exact stock_onSpeakReqs cids c
  | speakReqDel cid => exact stock_onSpeakReqDel cid c
  | speakOn cid audio => exact stock_onSpeakOn cid audio c
  | speakOff cid => exact stock_onSpeakOff cid c
  | peerJoin peer => exact stock_onPeerJoin w peer c
  | peerLeft cid => exact stock_onPeerLeft w cid c
  | modAdd user => exact stock_setModerator c user true
  | modDel user => exact stock_setModerator c user false
  | bye reason => cases h

@[simp] theorem stock_linkLost (c : Call) : c.linkLost.stock = c.stock := by
  rw [linkLost]
  split
  · refine (stock_moveTo _ _).trans ?_
    refine (stock_applyLocalAv _).trans ?_
    exact (stock_setSpeaker _ _).trans (stock_clearSessions c)
  · rfl

/-! ### Requests -/

/-- What we ask of the relay as a command describes nothing. -/
theorem stock_command {operation : String} {find : Call → Except CallError OutboundCommand}
    {follow : Call → Call} (h : ∀ c, (follow c).stock = c.stock) :
    (c.attempt (command w operation find follow)).1.stock = c.stock :=
  command_invariant (P := fun c' => c'.stock = c.stock) rfl fun relay found _ _ _ =>
    (h _).trans (stock_post_send c relay found)

theorem stock_moderate {operation : String} {find : Call → Except CallError OutboundCommand}
    {follow : Call → Call} (h : ∀ c, (follow c).stock = c.stock) :
    (c.attempt (moderate w operation find follow)).1.stock = c.stock :=
  moderate_invariant (P := fun c' => c'.stock = c.stock) rfl fun _ => stock_command h

theorem stock_requestSpeaker (c : Call) (w : Surroundings) (add : Bool) :
    (c.requestSpeaker w add).1.stock = c.stock := by
  rw [requestSpeaker]
  split
  · refine stock_command fun c => ?_
    split <;> simp
  · refine stock_command fun c => ?_
    split <;> simp

theorem stock_stopSpeak (c : Call) (w : Surroundings) (cid : Cid) :
    (c.stopSpeak w cid).1.stock = c.stock := by
  rw [stopSpeak]
  split
  · exact stock_command fun c => by rw [stock_applyLocalAv, stock_setSpeaker]
  · exact stock_moderate fun _ => rfl

/-- Requests that are passed on to the relay do not touch the inventory. -/
theorem stock_perform (c : Call) (w : Surroundings) {request : CallRequest}
    (h : request.isForRelay = true) : (c.perform w request).1.stock = c.stock := by
  cases request with
  | requestSpeaker add => exact stock_requestSpeaker c w add
  | approveSpeakRequest cid allow =>
    exact stock_moderate fun c => stock_setSpeakRequested c cid false
  | stopSpeak cid => exact stock_stopSpeak c w cid
  | delHires cids => exact stock_command fun c => stock_releaseRoles c .hires cids
  | delVthumbs cids => exact stock_command fun c => stock_releaseRoles c .vthumb cids
  | getHires _ _ | getVthumbs _ | setHiresQuality _ _ | setLayer _ _ _ =>
    exact stock_command fun _ => rfl
  | _ => cases h

theorem stock_updateAv (c : Call) (w : Surroundings) (av : AvFlags) :
    (c.updateAv w av).1.stock = c.stock := by
  have hset : (c.withFlags av).stock = c.stock := stock_applyLocalAv _
  exact updateAv_invariant (P := fun c' => c'.stock = c.stock) rfl hset fun relay _ _ =>
    (stock_post_send _ relay _).trans hset

theorem stock_addParticipant (c : Call) (user : UserId) :
    (c.addParticipant user).1.stock = c.stock :=
  addParticipant_invariant (P := fun c' => c'.stock = c.stock) rfl (stock_tell _ _)

theorem stock_removeParticipant (c : Call) (user : UserId) :
    (c.removeParticipant user).1.stock = c.stock :=
  removeParticipant_invariant (P := fun c' => c'.stock = c.stock) rfl (stock_tell _ _)

theorem stock_abortReconnect (c : Call) : c.abortReconnect.1.stock = c.stock :=
  abortReconnect_invariant (P := fun c' => c'.stock = c.stock) rfl fun _ _ => stock_record rfl c

/-- A frame changes an encryptor at most. -/
theorem stock_handleFrame (c : Call) (place : Nat) (bytes : List UInt8) :
    (c.handleFrame place bytes).1.stock = c.stock := by
  rw [handleFrame]
  split
  · rfl
  · rfl
  · rfl
  · split
    · rfl
    · rename_i frame next _
      let encrypting (t : MediaTrack) : MediaTrack := { t with crypto := some (.encrypt next) }
      have hbuild : (⟨c.engine.tracks.all.modify place encrypting,
          c.engine.tracks.log⟩ : MediaTracks).build = c.engine.tracks.build := by
        funext q
        simp only [MediaTracks.build, MediaTracks.get?, List.getElem?_modify]
        cases c.engine.tracks.all[q]? with
        | none => rfl
        | some t => by_cases hq : place = q <;> simp [hq, encrypting]
      exact stock_withTracks hbuild

end Call
end GroupCall
