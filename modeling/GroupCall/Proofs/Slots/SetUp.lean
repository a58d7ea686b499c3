/-
# Media set up and released

Setting up our media hands out fresh tracks, which do nothing yet, and puts them into slots
that carry nothing; releasing them removes the slots.  Both happen while no session has a
slot, so sessions and slots agree afterwards.
-/
import GroupCall.Proofs.Run
import GroupCall.Proofs.Slots.Roster
import Mathlib.Data.List.Forall2

namespace GroupCall

/-! ## Fresh tracks -/

namespace MediaEngine

/-- A track of the given kind and direction stands at a place and does nothing yet. -/
def Fresh (e : MediaEngine) (asked : TrackKind × Direction) (place : Nat) : Prop :=
  e.tracks.get? place = some (.new (some (UInt32.ofNat place)) asked.1 asked.2)

variable {e e' : MediaEngine} {faults : EngineFaults}

theorem addTrack_fst_get? (e : MediaEngine) (faults : EngineFaults) (kind : TrackKind)
    (direction : Direction) {place : Nat} {t : MediaTrack} (h : e.tracks.get? place = some t) :
    (e.addTrack faults kind direction).1.tracks.get? place = some t := by
  obtain ⟨hlt, rfl⟩ := List.getElem?_eq_some_iff.1 h
  rw [addTrack]
  split
  · exact h
  · simp [MediaTracks.add, MediaTracks.get?, List.getElem?_append_left hlt]

/-- Tracks that were handed out before stay as they are. -/
theorem addTracks_fst_get? (e : MediaEngine) (faults : EngineFaults)
    (asked : List (TrackKind × Direction)) {place : Nat} {t : MediaTrack}
    (h : e.tracks.get? place = some t) :
    (e.addTracks faults asked).1.tracks.get? place = some t := by
  induction asked generalizing e with
  | nil => exact h
  | cons a rest ih =>
    have hfirst := addTrack_fst_get? e faults a.1 a.2 h
    simp only [addTracks]
    split
    · rename_i e₁ _ heq
      rw [heq] at hfirst
      exact hfirst
    · rename_i e₁ _ heq
      rw [heq] at hfirst
      have hrest := ih e₁ hfirst
      split <;> rename_i heq' <;> rw [heq'] at hrest <;> exact hrest

/-- Every place was given back for a track that was asked for. -/
theorem exists_asked {asked : List (TrackKind × Direction)} {places : List Nat}
    (h : List.Forall₂ e.Fresh asked places) {place : Nat} (hplace : place ∈ places) :
    ∃ a ∈ asked, e.Fresh a place := by
  induction h with
  | nil => simp at hplace
  | cons hfirst _ ih =>
    rcases List.mem_cons.1 hplace with rfl | hrest
    · exact ⟨_, List.mem_cons_self, hfirst⟩
    · obtain ⟨a, ha, hfresh⟩ := ih hrest
      exact ⟨a, List.mem_cons_of_mem _ ha, hfresh⟩

/-- The tracks that were asked for stand at the places that are given back. -/
theorem addTracks_fresh (asked : List (TrackKind × Direction)) (e : MediaEngine)
    {places : List Nat} (h : e.addTracks faults asked = (e', .ok places)) :
    List.Forall₂ e'.Fresh asked places := by
  induction asked generalizing e places with
  | nil =>
    cases h
    exact .nil
  | cons a rest ih =>
    simp only [addTracks] at h
    split at h
    · cases h
    · rename_i e₁ place hadd
      have hfresh : e₁.Fresh a place := by
        rw [addTrack] at hadd
        split at hadd
        · cases hadd
        · cases hadd
          simp [Fresh, MediaTracks.add, MediaTracks.get?]
      split at h
      · cases h
      · rename_i e₂ others hrest
        cases h
        refine .cons ?_ (ih e₁ hrest)
        have hkept := addTracks_fst_get? e₁ faults rest hfresh
        rw [hrest] at hkept
        exact hkept

end MediaEngine

/-! ## Slots of fresh tracks -/

namespace Slots

variable {ts : MediaTracks} {vthumb hires audio : Nat} {recv : List Nat}

/-- A new receive slot carries nothing, and its track stands where it was put. -/
theorem get?_recv_new {mid : Mid} {slot : Slot}
    (h : (new vthumb hires audio recv ts).recv.get? mid = some slot) :
    ∃ place ∈ recv, slot = .new place ∧ (ts.get? place).bind MediaTrack.mid = some mid := by
  have hmem := Table.mem_of_get?_ofList h
  obtain ⟨place, hplace, hmid⟩ := List.mem_filterMap.1 hmem
  obtain ⟨mid', hmid', heq⟩ := Option.map_eq_some_iff.1 hmid
  cases heq
  exact ⟨place, hplace, rfl, hmid'⟩

/-- Slots of fresh tracks have tracks of their own. -/
theorem placed_new (hsends : ∀ place ∈ [vthumb, hires, audio], ∃ mid kind,
      ts.build place = some (mid, kind, .sendRecv))
    (hrecv : ∀ place ∈ recv, ∃ mid kind, ts.build place = some (mid, kind, .recvOnly)) :
    (new vthumb hires audio recv ts).Placed ts where
  recv mid slot h := by
    obtain ⟨place, hplace, rfl, hmid⟩ := get?_recv_new h
    obtain ⟨mid', kind, hb⟩ := hrecv place hplace
    obtain ⟨t, ht, heq⟩ := Option.map_eq_some_iff.1 hb
    rw [ht, Option.bind_some] at hmid
    obtain rfl : mid' = some mid := (Prod.mk.inj heq).1.symm.trans hmid
    exact ⟨kind, hb⟩
  sends own hown := hsends own.track (List.mem_map_of_mem (f := Slot.track) hown)

/-- Giving our slots their IVs leaves the tracks where they are. -/
theorem Placed.bindLocal {s : Slots} (h : s.Placed ts) (ivs : SendIvs) :
    (s.bindLocal ivs ts).1.Placed (s.bindLocal ivs ts).2 := by
  have hb : (s.bindLocal ivs ts).2.build = ts.build := by simp [Slots.bindLocal, Slot.bindLocal]
  refine ⟨by rw [hb]; exact h.recv, fun own hown => ?_⟩
  have htracks : own.track ∈ s.sends.map Slot.track :=
    List.mem_map_of_mem (l := (s.bindLocal ivs ts).1.sends) hown
  obtain ⟨own', hown', heq⟩ := List.mem_map.1 htracks
  rw [hb, ← heq]
  exact h.sends own' hown'

/-- Only our own tracks are given encryptors. -/
theorem reception?_bindLocal {s : Slots} (h : s.Placed ts) (ivs : SendIvs) (mid : Mid) :
    (s.bindLocal ivs ts).1.reception? (s.bindLocal ivs ts).2 mid = s.reception? ts mid := by
  simp only [reception?]
  refine Option.bind_congr fun slot hget => ?_
  have hne : ∀ own ∈ s.sends, slot.track ≠ own.track := fun own => h.ne_send hget
  simp only [sends, List.mem_cons, List.not_mem_nil, or_false, forall_eq_or_imp, forall_eq] at hne
  simp [bindLocal, Slot.bindLocal, hne]

end Slots

namespace Call

variable {c : Call} {history : List Binding}

/-! ## Calls without slots -/

/-- Without slots nobody has one. -/
theorem Wired.slot_eq_none (h : Wired history [] [] c) (hs : c.slots = none) {cid : Cid}
    {s : Session} (hget : c.sessions.get? cid = some s) (role : SlotRole) : s.slot role = none := by
  cases hslot : s.slot role with
  | none => rfl
  | some mid =>
    obtain ⟨r, _, hr, _⟩ := h.held cid s role mid hget hslot
    simp [reception?, hs] at hr

/-- Sessions that have no slots agree with slots that carry nothing. -/
theorem Wired.of_vacant (henrolled : Enrolled c.sessions c.nextSerial)
    (hplaced : ∀ s, c.slots = some s → s.Placed c.engine.tracks)
    (hslots : ∀ cid s role, c.sessions.get? cid = some s → s.slot role = none)
    (hvacant : ∀ mid r, c.reception? mid = some r → r.1.cid = none ∧ r.1.iv = none ∧
      r.2.crypto = none ∧ r.2.sink = none ∧ r.2.enabled = false) : Wired history [] [] c where
  placed := hplaced
  enrolled := henrolled
  held cid s role mid hs hslot := by
    rw [hslots cid s role hs] at hslot
    cases hslot
  vacant mid r hr _ := (hvacant mid r hr).2
  owned mid r cid hr hcid _ := by
    rw [(hvacant mid r hr).1] at hcid
    cases hcid
  unheld mid hmid := by simp at hmid

theorem Wired.of_slots_eq_none (henrolled : Enrolled c.sessions c.nextSerial)
    (hs : c.slots = none)
    (hslots : ∀ cid s role, c.sessions.get? cid = some s → s.slot role = none) :
    Wired history [] [] c :=
  .of_vacant henrolled (by simp [hs]) hslots (by simp [reception?, hs])

/-! ## Setting up -/

/-- The places at which the tracks of a call may be installed: three tracks of our own, and
receive tracks behind them. -/
def Installable (e : MediaEngine) (config : CallConfig) (places : List Nat) : Prop :=
  List.Forall₂ e.Fresh config.tracks places

theorem Installable.parts {e : MediaEngine} {config : CallConfig} {places : List Nat}
    (h : Installable e config places) :
    ∃ vthumb hires audio recv, places = vthumb :: hires :: audio :: recv ∧
      (∀ place ∈ [vthumb, hires, audio], ∃ kind, e.Fresh (kind, .sendRecv) place) ∧
      ∀ place ∈ recv, ∃ kind, e.Fresh (kind, .recvOnly) place := by
  rw [Installable, CallConfig.tracks, List.append_assoc] at h
  simp only [List.cons_append, List.nil_append] at h
  -- three tracks of our own were asked for first
  obtain _ | ⟨hv, _ | ⟨hh, _ | ⟨ha, hrecv⟩⟩⟩ := h
  rename_i vthumb hires audio recv
  refine ⟨vthumb, hires, audio, recv, rfl, ?_, fun place hplace => ?_⟩
  · simp only [List.mem_cons, List.not_mem_nil, or_false]
    rintro place (rfl | rfl | rfl)
    · exact ⟨_, hv⟩
    · exact ⟨_, hh⟩
    · exact ⟨_, ha⟩
  · obtain ⟨asked, hasked, hfresh⟩ := MediaEngine.exists_asked hrecv hplace
    have hdirection : asked.2 = .recvOnly := by
      rcases List.mem_append.1 hasked with hmem | hmem <;> simp [(List.mem_replicate.1 hmem).2]
    exact ⟨asked.1, by rwa [← hdirection]⟩

/-- Slots of tracks that were just handed out have tracks of their own. -/
theorem placed_of_fresh {e : MediaEngine} {vthumb hires audio : Nat} {recv : List Nat}
    (hsends : ∀ place ∈ [vthumb, hires, audio], ∃ kind, e.Fresh (kind, .sendRecv) place)
    (hrecv : ∀ place ∈ recv, ∃ kind, e.Fresh (kind, .recvOnly) place) :
    (Slots.new vthumb hires audio recv e.tracks).Placed e.tracks := by
  refine Slots.placed_new (fun place hplace => ?_) (fun place hplace => ?_)
  · obtain ⟨kind, ht⟩ := hsends place hplace
    exact ⟨_, kind, by rw [MediaTracks.build, ht]; rfl⟩
  · obtain ⟨kind, ht⟩ := hrecv place hplace
    exact ⟨_, kind, by rw [MediaTracks.build, ht]; rfl⟩

namespace Wired

/-- Installed media carry nothing. -/
theorem installMedia (h : Wired history [] [] c) (hs : c.slots = none) {places : List Nat}
    (hp : Installable c.engine c.config places) (sdp : Sdp) (ivs : SendIvs) :
    Wired history [] [] (c.installMedia sdp ivs places) := by
  obtain ⟨vthumb, hires, audio, recv, rfl, hsends, hrecv⟩ := hp.parts
  simp only [Call.installMedia]
  refine applyLocalAv ?_
  have hplaced := placed_of_fresh hsends hrecv
  refine .of_vacant h.enrolled ?_ (fun cid s role hget => h.slot_eq_none hs hget role) ?_
  · rintro s hs'
    cases Option.some.inj hs'
    exact hplaced.bindLocal ivs
  · -- what is received is received on a track that was just added
    intro mid r hr
    obtain ⟨slot, hget, hr⟩ := Option.bind_eq_some_iff.1
      ((Slots.reception?_bindLocal hplaced ivs mid).symm.trans hr)
    obtain ⟨place, hplace, rfl, -⟩ := Slots.get?_recv_new hget
    obtain ⟨kind, ht⟩ := hrecv place hplace
    obtain ⟨t, ht', rfl⟩ := Option.map_eq_some_iff.1 hr
    cases ht.symm.trans ht'
    exact ⟨rfl, rfl, rfl, rfl, rfl⟩

/-- Whatever the engine does is of no concern while there are no slots. -/
theorem withEngine (h : Wired history [] [] c) (hs : c.slots = none) (engine : MediaEngine) :
    Wired history [] [] { c with engine := engine } :=
  .of_slots_eq_none h.enrolled hs fun _ _ role hget => h.slot_eq_none hs hget role

theorem setUpMedia (h : Wired history [] [] c) (hs : c.slots = none) (w : Surroundings) :
    Wired history [] [] (c.setUpMedia w).1 := by
  have hadded := h.withEngine hs (c.engine.addTracks w.faults c.config.tracks).1
  obtain ⟨e, heq⟩ | ⟨places, sdp, hadd, -, heq⟩ := c.setUpMedia_cases w <;> rw [heq]
  · exact hadded
  · exact hadded.installMedia hs (MediaEngine.addTracks_fresh _ _ hadd) sdp w.ivs

theorem ensureMedia (h : Wired history [] [] c) (w : Surroundings) :
    Wired history [] [] (c.ensureMedia w).1 := by
  rw [Call.ensureMedia]
  split
  · rename_i hs
    exact h.setUpMedia hs w
  · exact h

end Wired

/-! ## Leaving -/

theorem get?_sessions_removeSession (c : Call) (cid y : Cid) :
    (c.removeSession cid).sessions.get? y = if y = cid then none else c.sessions.get? y := by
  rw [removeSession]
  split
  · rename_i hnone
    by_cases hy : y = cid <;> simp [hy, hnone]
  · -- releasing slots leaves the sessions alone
    have hfold : ∀ (mids : List Mid) (c : Call),
        (mids.foldl releaseSlot c).sessions = c.sessions := by
      intro mids
      induction mids with
      | nil => exact fun _ => rfl
      | cons mid rest ih => exact fun c => (ih _).trans (sessions_onSlots c _)
    refine Eq.trans (congrArg (fun t : Table Cid Session => t.get? y) (hfold _ _)) ?_
    simp

@[simp] theorem get?_sessions_clearSessions (c : Call) (y : Cid) :
    c.clearSessions.sessions.get? y = none := by
  have hfold : ∀ (cids : List Cid) (c : Call), (cids.foldl removeSession c).sessions.get? y =
      if y ∈ cids then none else c.sessions.get? y := by
    intro cids
    induction cids with
    | nil => simp
    | cons cid rest ih =>
      intro c
      rw [List.foldl_cons, ih, get?_sessions_removeSession]
      by_cases hy : y = cid <;> simp [hy]
  rw [clearSessions, hfold]
  split
  · rfl
  · -- whoever has a session is among those that were removed
    rename_i hy
    by_contra hne
    exact hy (Table.mem_keys_iff.2 (Option.isSome_iff_ne_none.2 hne))

/-- Closing the media takes the slots away and does what it likes with the engine. -/
theorem closeMedia_eq (c : Call) :
    ∃ engine, c.closeMedia = { c with slots := none, engine := engine } := by
  rw [closeMedia]
  split
  · rename_i hs
    exact ⟨c.engine, by rw [← hs]⟩
  · rename_i slots hs
    simp only [onSlots, hs, switch, withTracks]
    exact ⟨_, rfl⟩

/-- A participation is over: everything that belongs to it is given up. -/
def quit (c : Call) (code : TermCode) : Call :=
  (((c.dropRelay.clearSessions.closeMedia.forgetParticipation).setSpeaker .none).moveTo
    .clientNotParticipating).tell (.terminated code)

/-- Whoever takes part begins to leave. -/
def leaving (c : Call) : Call :=
  if c.state.isParticipating then c.moveTo .terminatingParticipation else c

theorem leave_eq (c : Call) (code : TermCode) :
    c.leave code =
      if c.leaving.state = .terminatingParticipation then c.leaving.quit code else c.leaving := rfl

/-- Whoever takes part has left. -/
def departed (c : Call) : Call := if c.state.isParticipating then c.leave .userHangup else c

theorem destroy_eq (c : Call) :
    c.destroy =
      if c.state.isDestroyed then c
      else
        if (c.departed.setState .destroyed).2.isOk then (c.departed.setState .destroyed).1.cancel
        else (c.departed.setState .destroyed).1 := by
  rw [destroy, ← departed]
  refine if_congr Iff.rfl rfl ?_
  dsimp only
  obtain ⟨d, result⟩ := c.departed.setState .destroyed
  cases result <;> rfl

theorem SameMedia.forgetParticipation (c : Call) : SameMedia c c.forgetParticipation :=
  ⟨rfl, rfl, rfl, rfl⟩

namespace Wired

/-- Slots are released after all sessions are gone. -/
theorem closeMedia (h : Wired history [] [] c) (hnone : ∀ cid, c.sessions.get? cid = none) :
    Wired history [] [] c.closeMedia := by
  obtain ⟨engine, heq⟩ := c.closeMedia_eq
  rw [heq]
  refine .of_slots_eq_none h.enrolled rfl fun cid s role hs => ?_
  cases (hnone cid).symm.trans hs

theorem quit (h : Wired history [] [] c) (code : TermCode) :
    Wired history [] [] (c.quit code) := by
  have hcleared := (h.of_sameMedia (SameMedia.dropRelay c)).clearSessions
  have hclosed := hcleared.closeMedia (get?_sessions_clearSessions c.dropRelay)
  have hforgot := hclosed.of_sameMedia (SameMedia.forgetParticipation _)
  have hsilent := hforgot.of_sameMedia (SameMedia.setSpeaker _ .none)
  exact (hsilent.of_sameMedia (SameMedia.moveTo _ _)).of_sameMedia (SameMedia.tell _ _)

theorem leave (h : Wired history [] [] c) (code : TermCode) :
    Wired history [] [] (c.leave code) := by
  have hleaving : Wired history [] [] c.leaving := by
    rw [leaving]
    split
    · exact h.of_sameMedia (SameMedia.moveTo c _)
    · exact h
  rw [leave_eq]
  split
  · exact hleaving.quit code
  · exact hleaving

theorem hangup (h : Wired history [] [] c) : Wired history [] [] c.hangup.1 := by
  rw [Call.hangup]
  split
  · exact h.leave _
  · exact h

theorem destroy (h : Wired history [] [] c) : Wired history [] [] c.destroy := by
  have hdeparted : Wired history [] [] c.departed := by
    rw [departed]
    split
    · exact h.leave _
    · exact h
  have hset := hdeparted.of_sameMedia (SameMedia.setState _ .destroyed)
  rw [destroy_eq]
  split
  · exact h
  · split
    · exact hset.of_sameMedia ⟨rfl, rfl, rfl, rfl⟩
    · exact hset

/-! ## Joining -/

theorem connect (h : Wired history [] [] c) (w : Surroundings) (answer : Except String String) :
    Wired history [] [] (c.connect w answer).1 := by
  cases answer with
  | error reason => exact h.leave _
  | ok url =>
    have hsought := h.of_sameMedia (d := c.record (.sought url)) ⟨rfl, rfl, rfl, rfl⟩
    simp only [Call.connect]
    split
    · exact hsought.leave _
    · exact hsought.of_sameMedia ⟨rfl, rfl, rfl, rfl⟩

theorem join (h : Wired history [] [] c) (w : Surroundings) (av : AvFlags) :
    Wired history [] [] (c.join w av).1 := by
  have hbegun : Wired history [] [] (c.beginJoin av).1 := by
    rw [beginJoin]
    split
    · exact (h.of_sameMedia (d := { c with av := av }) ⟨rfl, rfl, rfl, rfl⟩).of_sameMedia
        (SameMedia.setState _ _)
    · exact h
  rw [Call.join]
  split <;> rename_i heq <;> rw [heq] at hbegun
  · exact hbegun
  · split
    · exact hbegun.connect w _
    · exact hbegun

/-! ## The link -/

theorem linkUp (h : Wired history [] [] c) (w : Surroundings) :
    Wired history [] [] (c.linkUp w).1 := by
  rw [Call.linkUp]
  split
  · have hmedia := h.ensureMedia w
    split <;> rename_i heq <;> rw [heq] at hmedia
    · exact hmedia
    · rename_i d
      obtain ⟨e, heq⟩ | ⟨relay, sdp, ivs, -, -, heq⟩ := d.sendJoin_cases w <;> rw [heq]
      · exact hmedia
      · exact (hmedia.of_sameMedia (SameMedia.post _ _ _)).of_sameMedia (SameMedia.setState _ _)
  · exact h

theorem linkLost (h : Wired history [] [] c) : Wired history [] [] c.linkLost := by
  rw [Call.linkLost]
  split
  · have hcleared := h.clearSessions.of_sameMedia
      (d := { c.clearSessions with vthumbWanted := false, hiresWanted := false })
      ⟨rfl, rfl, rfl, rfl⟩
    exact (hcleared.of_sameMedia (SameMedia.setSpeaker _ _)).applyLocalAv.of_sameMedia
      (SameMedia.moveTo _ _)
  · exact h

end Wired
end Call
end GroupCall
