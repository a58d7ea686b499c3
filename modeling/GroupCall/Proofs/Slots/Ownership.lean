/-
# Who is received where

After every run, a slot that a session has is bound to its participant, and a bound slot is
had by one role of one session, that of its participant.  The track of a bound slot decrypts
under the IV of the last binding of the slot with the keys of that session, is shown as the
participant, and is switched on while the participant sends what the role carries; the track
of any other receive slot does nothing.
-/
import GroupCall.Proofs.Slots.Steps

namespace GroupCall
namespace Call

variable {c : Call} {history : List Binding}

/-! ## Ownership -/

/-- Sessions and receive slots own each other. -/
structure Owned (c : Call) : Prop where
  /-- A session is the one that is filed under its participant. -/
  filed : ∀ s ∈ c.sessions.values, c.sessions.get? s.cid = some s
  /-- A slot that a session has is there and bound to its participant. -/
  bound : ∀ s ∈ c.sessions.values, ∀ role mid, s.slot role = some mid →
    ∃ slot, c.recvSlot? mid = some slot ∧ slot.cid = some s.cid
  /-- A bound slot is had by one role of the session of its participant, and by nobody else. -/
  holder : ∀ mid slot cid, c.recvSlot? mid = some slot → slot.cid = some cid →
    ∃ s ∈ c.sessions.values, ∃ role, s.cid = cid ∧ s.slot role = some mid ∧
      ∀ s' ∈ c.sessions.values, ∀ role', s'.slot role' = some mid → s' = s ∧ role' = role
  /-- No number is had by two sessions or in two roles. -/
  once : ∀ s ∈ c.sessions.values, ∀ s' ∈ c.sessions.values, ∀ role role' mid,
    s.slot role = some mid → s'.slot role' = some mid → s = s' ∧ role = role'

theorem recvSlot?_of_reception? {mid : Mid} {r : Slot × MediaTrack}
    (h : c.reception? mid = some r) :
    c.recvSlot? mid = some r.1 ∧ c.engine.tracks.get? r.1.track = some r.2 := by
  obtain ⟨slots, hslots, h⟩ := Option.bind_eq_some_iff.1 h
  obtain ⟨slot, hslot, h⟩ := Option.bind_eq_some_iff.1 h
  obtain ⟨t, ht, rfl⟩ := Option.map_eq_some_iff.1 h
  exact ⟨by rw [recvSlot?, hslots]; exact hslot, ht⟩

/-- Every receive slot has a track. -/
theorem Wired.exists_reception (h : Wired history [] [] c) {mid : Mid} {slot : Slot}
    (hslot : c.recvSlot? mid = some slot) : ∃ t, c.reception? mid = some (slot, t) := by
  obtain ⟨slots, hslots, hget⟩ := Option.bind_eq_some_iff.1 hslot
  obtain ⟨t, ht⟩ := (h.placed slots hslots).exists_track hget
  exact ⟨t, by rw [reception?, hslots]; exact ht⟩

theorem Wired.owns (h : Wired history [] [] c) : Owned c := by
  have hget : ∀ s ∈ c.sessions.values, c.sessions.get? s.cid = some s :=
    fun s hs => h.enrolled.get?_of_mem hs
  have honce : ∀ s ∈ c.sessions.values, ∀ s' ∈ c.sessions.values, ∀ role role' mid,
      s.slot role = some mid → s'.slot role' = some mid → s = s' ∧ role = role' := by
    intro s hs s' hs' role role' mid hslot hslot'
    obtain ⟨hcid, hrole⟩ := h.held_once (hget s hs) (hget s' hs') hslot hslot'
    have hsame := hget s hs
    rw [hcid, hget s' hs'] at hsame
    exact ⟨(Option.some.inj hsame).symm, hrole⟩
  refine ⟨hget, fun s hs role mid hslot => ?_, fun mid slot cid hslot hcid => ?_, honce⟩
  · obtain ⟨r, b, hr, -, hb, -, hc, -⟩ := h.held s.cid s role mid (hget s hs) hslot
    exact ⟨r.1, (recvSlot?_of_reception? hr).1, by rw [hc.cid, hb]⟩
  · obtain ⟨t, hr⟩ := h.exists_reception hslot
    obtain ⟨s, role, hs, hmid⟩ := h.owned mid (slot, t) cid hr hcid (by simp)
    have hmem := h.enrolled.sorted.mem_values_iff.2 ⟨cid, hs⟩
    exact ⟨s, hmem, role, h.enrolled.cid_eq cid s hs, hmid,
      fun s' hs' role' hmid' => honce s' hs' s hmem role' role mid hmid' hmid⟩

/-- Sessions and receive slots own each other after every run. -/
theorem ownership_along_runs (id : CallId) (chat : ChatId) (us : UserId) (config : CallConfig)
    (secret : IdentitySecret) (callKey : Option MediaKey)
    (steps : List (Surroundings × CallStep)) :
    Owned ((new id chat us config secret callKey).run steps) :=
  ((wired_new id chat us config secret callKey).run steps).owns

/-! ## What the tracks do -/

/-- The track of a slot carries a session as the last binding of its number asked for. -/
structure Receives (c : Call) (history : List Binding) (mid : Mid) (b : Binding) (s : Session)
    (t : MediaTrack) : Prop where
  /-- Nothing was bound to the number since. -/
  last : lastBinding? history mid = some b
  /-- The session is the one of the participant now. -/
  session : c.sessions.get? b.cid = some s
  /-- It has the number in the role. -/
  slot : s.slot b.role = some mid
  /-- The track decrypts under the IV of the binding, and nothing else is done with its frames. -/
  crypto : t.crypto = some (.decrypt b.track.iv s.serial)
  /-- The keys that the context uses are those of the session. -/
  keys : c.keysOf s.serial = s.keys
  /-- The track is shown as the participant. -/
  sink : t.sink = some b.cid
  /-- The track is switched on while the participant sends what the role carries. -/
  enabled : t.enabled = true ↔ s.av.onHold = false ∧
    match b.role with
    | .audio => s.av.audio = true
    | .vthumb => s.av.video = true
    | .hires => s.av.video = true

/-- A track does nothing. -/
structure Silent (t : MediaTrack) : Prop where
  /-- Nothing handles its frames. -/
  crypto : t.crypto = none
  /-- It is shown as nobody. -/
  sink : t.sink = none
  /-- It is switched off. -/
  enabled : t.enabled = false

/-- The track of every receive slot does what its binding asks for, or nothing. -/
structure Received (c : Call) (history : List Binding) : Prop where
  /-- Every receive slot has a track. -/
  track : ∀ mid slot, c.recvSlot? mid = some slot →
    ∃ t, c.engine.tracks.get? slot.track = some t
  /-- The track of a bound slot carries its participant. -/
  bound : ∀ mid slot t cid, c.recvSlot? mid = some slot →
    c.engine.tracks.get? slot.track = some t → slot.cid = some cid →
      ∃ b s, b.cid = cid ∧ Receives c history mid b s t
  /-- The track of a slot that is bound to nobody does nothing. -/
  unbound : ∀ mid slot t, c.recvSlot? mid = some slot →
    c.engine.tracks.get? slot.track = some t → slot.cid = none → Silent t

/-- The serial number of a session finds its keys. -/
theorem Wired.keysOf (h : Wired history [] [] c) {cid : Cid} {s : Session}
    (hs : c.sessions.get? cid = some s) : c.keysOf s.serial = s.keys := by
  have hmem := h.enrolled.sorted.mem_values_iff.2 ⟨cid, hs⟩
  rw [Call.keysOf]
  cases hfind : c.sessions.values.find? fun s' => s'.serial = s.serial with
  | none =>
    have hnone := List.find?_eq_none.1 hfind s hmem
    simp at hnone
  | some s' =>
    obtain ⟨cid', hs'⟩ := h.enrolled.sorted.mem_values_iff.1 (List.mem_of_find?_eq_some hfind)
    have hserial : s'.serial = s.serial := by simpa using List.find?_some hfind
    obtain rfl := h.enrolled.serial_inj cid' cid s' s hs' hs hserial
    cases hs.symm.trans hs'
    rfl

theorem isSent_iff (role : SlotRole) (av : AvFlags) :
    role.isSent av = true ↔ av.onHold = false ∧
      match role with
      | .audio => av.audio = true
      | .vthumb => av.video = true
      | .hires => av.video = true := by
  cases role <;> simp [SlotRole.isSent, AvFlags.audible, AvFlags.visible, and_comm]

theorem Wired.receives (h : Wired history [] [] c) : Received c history := by
  have hreception : ∀ {mid slot t}, c.recvSlot? mid = some slot →
      c.engine.tracks.get? slot.track = some t → c.reception? mid = some (slot, t) := by
    intro mid slot t hslot ht
    obtain ⟨t', hr⟩ := h.exists_reception hslot
    cases ht.symm.trans (recvSlot?_of_reception? hr).2
    exact hr
  refine ⟨fun mid slot hslot => ?_, fun mid slot t cid hslot ht hcid => ?_,
    fun mid slot t hslot ht hcid => ?_⟩
  · obtain ⟨t, hr⟩ := h.exists_reception hslot
    exact ⟨t, (recvSlot?_of_reception? hr).2⟩
  · have hr := hreception hslot ht
    obtain ⟨s, role, hs, hmid⟩ := h.owned mid (slot, t) cid hr hcid (by simp)
    obtain ⟨r, b, hr', hlast, rfl, rfl, hc, hon⟩ := h.held cid s role mid hs hmid
    cases hr.symm.trans hr'
    refine ⟨b, s, rfl, hlast, hs, hmid, hc.crypto, h.keysOf hs, hc.sink, ?_⟩
    rw [hon (by simp), isSent_iff]
  · obtain ⟨-, hcrypto, hsink, henabled⟩ := h.vacant mid (slot, t) (hreception hslot ht) hcid
    exact ⟨hcrypto, hsink, henabled⟩

/-- The tracks of all receive slots do what was last asked for after every run. -/
theorem reception_along_runs (id : CallId) (chat : ChatId) (us : UserId) (config : CallConfig)
    (secret : IdentitySecret) (callKey : Option MediaKey)
    (steps : List (Surroundings × CallStep)) :
    Received ((new id chat us config secret callKey).run steps)
      ((new id chat us config secret callKey).history steps) :=
  ((wired_new id chat us config secret callKey).run steps).receives

/-- Surroundings in which nothing goes wrong. -/
def calm (relay : RelayState) : Surroundings where
  relay := relay
  relayEnds := false
  publicKey _ := some (9 :: List.replicate 31 0)
  url := some (.ok "wss://relay.example.com/ws")
  connect _ := .ok 1
  ivs := ⟨⟨1⟩, ⟨2⟩, ⟨3⟩⟩
  key := Vector.replicate 16 0
  faults := { EngineFaults.none with offer := some (.ok "v=0\r\nm=audio 9 x\r\na=mid:0\r\n") }

/-- Two participants are met, of whom one is received under number 3; then the other one is. -/
def handedOver : List (Surroundings × CallStep) :=
  [(calm .new, .request (.join ⟨1⟩)),
    (calm .connected, .event ⟨1, .stateChanged .connected⟩),
    (calm .joined, .event ⟨1, .frame (.command (.answer
      ⟨1, ⟨"v=0\r\n", none, none, []⟩, 0, [⟨9, ⟨"U2"⟩, ⟨2⟩⟩, ⟨10, ⟨"U3"⟩, ⟨2⟩⟩], .empty,
        .ofList [(9, ⟨3, ⟨7⟩, false⟩)], []⟩))⟩),
    (calm .joined, .event ⟨1, .frame (.command (.hires [⟨10, ⟨3, ⟨8⟩, false⟩⟩]))⟩)]

example :
    let c := (new ⟨"call"⟩ ⟨"chat"⟩ ⟨"U0"⟩ ⟨1, 16, 1, 1, none⟩ (Vector.replicate 32 1) none).run
      handedOver
    (c.reception? 3).map (fun r => (r.1.cid, r.2.sink, r.2.enabled)) =
        some (some 10, some 10, true) ∧
      (c.sessions.get? 10).map (fun s => s.slot .hires) = some (some 3) ∧
      (c.sessions.get? 9).map (fun s => s.slot .vthumb) = some none := by
  decide +kernel

end Call
end GroupCall
