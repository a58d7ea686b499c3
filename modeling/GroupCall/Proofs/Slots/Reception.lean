/-
# What arrives where

A receive slot and its track are looked at together here, as what is received under a
number.  This is possible because no two slots share a track: a receive track carries the
number of its slot and only receives, and our own tracks send too.  So whatever is done to
one slot leaves what is received under every other number alone.
-/
import GroupCall.Call.Roster

namespace GroupCall

namespace MediaTrack

/-- A track that decrypts frames, is shown as a participant and is switched on. -/
def receiving (t : MediaTrack) (iv : InitVector) (session : Nat) (sink : Option Cid) : MediaTrack :=
  { t with crypto := some (.decrypt iv session), sink := sink, enabled := true }

/-- A track that does nothing. -/
def idle (t : MediaTrack) : MediaTrack := { t with crypto := none, sink := none, enabled := false }

end MediaTrack

/-! ## Single tracks -/

namespace MediaTracks

@[simp] theorem get?_call (ts : MediaTracks) (place q : Nat) (c : TrackCall) :
    (ts.call place c).get? q = if q = place then (ts.get? q).map (·.apply c) else ts.get? q := by
  simp only [get?, call, List.getElem?_modify]
  by_cases h : place = q
  · simp [h]
  · simp [h, Ne.symm h]

@[simp] theorem get?_switch (ts : MediaTracks) (place q : Nat) (on : Bool) :
    (ts.switch place on).get? q =
      if q = place then (ts.get? q).map fun t => { t with enabled := on } else ts.get? q := by
  rw [switch]
  split
  · rename_i h
    split
    · rename_i hq
      subst hq
      -- the track is switched so already
      cases ht : ts.get? q with
      | none => rfl
      | some t =>
        have hon : t.enabled = on := by simpa [isEnabled, ht] using h
        simp [← hon]
    · rfl
  · rw [get?_call]
    rfl

/-- What never changes of the track at a place: its number, its kind and its direction. -/
def build (ts : MediaTracks) (place : Nat) : Option (Option Mid × TrackKind × Direction) :=
  (ts.get? place).map fun t => (t.mid, t.kind, t.direction)

@[simp] theorem build_call (ts : MediaTracks) (place : Nat) (c : TrackCall) :
    (ts.call place c).build = ts.build := by
  funext q
  simp only [build, get?_call]
  split
  · cases c <;> simp [MediaTrack.apply, Function.comp_def]
  · rfl

@[simp] theorem build_switch (ts : MediaTracks) (place : Nat) (on : Bool) :
    (ts.switch place on).build = ts.build := by
  rw [switch]
  split
  · rfl
  · exact build_call ts place _

end MediaTracks

/-! ## Single slots -/

namespace Slot

@[simp] theorem build_attach (s : Slot) (cid : Cid) (ts : MediaTracks) :
    (s.attach cid ts).build = ts.build := by
  rw [attach]
  split
  · simp
  · split <;> simp

theorem get?_attach (s : Slot) (cid : Cid) (ts : MediaTracks) (q : Nat) :
    (s.attach cid ts).get? q =
      if q = s.track then
        (ts.get? q).map fun t => { t with sink := if s.cid = some cid then t.sink else some cid }
      else ts.get? q := by
  rw [attach]
  split
  · rename_i h
    by_cases hq : q = s.track <;> simp [hq, h, MediaTrack.apply]
  · rename_i previous h
    split
    · rename_i heq
      by_cases hq : q = s.track <;> simp [hq, h, heq]
    · rename_i hne
      by_cases hq : q = s.track <;> simp [hq, h, hne, MediaTrack.apply, Function.comp_def]

theorem assign_fst (s : Slot) (cid : Cid) (iv : InitVector) (session : Nat) (ts : MediaTracks) :
    (s.assign cid iv session ts).1 = { s with cid := some cid, iv := some iv } := rfl

/-- Assigning a slot replaces what its track does, and touches no other track. -/
theorem get?_assign (s : Slot) (cid : Cid) (iv : InitVector) (session : Nat) (ts : MediaTracks)
    (q : Nat) :
    (s.assign cid iv session ts).2.get? q =
      if q = s.track then
        (ts.get? q).map fun t =>
          t.receiving iv session (if s.cid = some cid then t.sink else some cid)
      else ts.get? q := by
  by_cases hq : q = s.track <;>
    simp [assign, get?_attach, hq, MediaTrack.apply, MediaTrack.receiving, Function.comp_def]

@[simp] theorem build_assign (s : Slot) (cid : Cid) (iv : InitVector) (session : Nat)
    (ts : MediaTracks) : (s.assign cid iv session ts).2.build = ts.build := by
  simp [assign]

/-- Releasing a slot that carries something silences its track, and touches no other. -/
theorem get?_release (s : Slot) (ts : MediaTracks) (q : Nat) :
    (s.release ts).2.get? q =
      if q = s.track ∧ s.cid.isSome then (ts.get? q).map MediaTrack.idle else ts.get? q := by
  rw [release]
  split
  · rename_i h
    simp [h]
  · rename_i h
    by_cases hq : q = s.track
    · simp only [h, hq, MediaTracks.get?_switch, MediaTracks.get?_call, Option.map_map, if_true,
        Option.isSome_some, and_self]
      rfl
    · simp [hq]

@[simp] theorem build_release (s : Slot) (ts : MediaTracks) :
    (s.release ts).2.build = ts.build := by
  rw [release]
  split <;> simp

@[simp] theorem track_release (s : Slot) (ts : MediaTracks) : (s.release ts).1.track = s.track := by
  rw [release]
  split <;> rfl

/-- A slot that carries nothing. -/
def vacated (s : Slot) : Slot := if s.cid.isSome then { s with cid := none, iv := none } else s

theorem release_fst (s : Slot) (ts : MediaTracks) : (s.release ts).1 = s.vacated := by
  rw [release, vacated]
  split <;> rename_i h <;> simp [h]

end Slot

/-! ## The slots of a call -/

namespace Slots

/-- The slots have tracks of their own: those of receive slots carry their numbers and only
receive, and ours send too. -/
structure Placed (s : Slots) (ts : MediaTracks) : Prop where
  /-- The track of a receive slot. -/
  recv : ∀ mid slot, s.recv.get? mid = some slot →
    ∃ kind, ts.build slot.track = some (some mid, kind, .recvOnly)
  /-- Our tracks. -/
  sends : ∀ slot ∈ s.sends, ∃ mid kind, ts.build slot.track = some (mid, kind, .sendRecv)

/-- What is received under a number: the slot and its track. -/
def reception? (s : Slots) (ts : MediaTracks) (mid : Mid) : Option (Slot × MediaTrack) :=
  (s.recv.get? mid).bind fun slot => (ts.get? slot.track).map fun t => (slot, t)

variable {s : Slots} {ts ts' : MediaTracks}

theorem Placed.track_inj (h : s.Placed ts) {mid other : Mid} {slot slot' : Slot}
    (hm : s.recv.get? mid = some slot) (ho : s.recv.get? other = some slot')
    (heq : slot.track = slot'.track) : mid = other := by
  obtain ⟨_, hb⟩ := h.recv mid slot hm
  obtain ⟨_, hb'⟩ := h.recv other slot' ho
  rw [heq, hb'] at hb
  simp only [Option.some.injEq, Prod.mk.injEq] at hb
  exact hb.1.symm

theorem Placed.ne_send (h : s.Placed ts) {mid : Mid} {slot own : Slot}
    (hm : s.recv.get? mid = some slot) (ho : own ∈ s.sends) : slot.track ≠ own.track := by
  intro heq
  obtain ⟨_, hb⟩ := h.recv mid slot hm
  obtain ⟨_, _, hb'⟩ := h.sends own ho
  rw [heq, hb'] at hb
  simp at hb

/-- Every receive slot has a track. -/
theorem Placed.exists_track (h : s.Placed ts) {mid : Mid} {slot : Slot}
    (hm : s.recv.get? mid = some slot) : ∃ t, s.reception? ts mid = some (slot, t) := by
  obtain ⟨_, hb⟩ := h.recv mid slot hm
  obtain ⟨t, ht, -⟩ := Option.map_eq_some_iff.1 hb
  exact ⟨t, by simp [reception?, hm, ht]⟩

theorem Placed.congr (h : s.Placed ts) (hb : ts'.build = ts.build) : s.Placed ts' :=
  ⟨by rw [hb]; exact h.recv, by rw [hb]; exact h.sends⟩

theorem Placed.put (h : s.Placed ts) {mid : Mid} {slot : Slot} (done : Slot × MediaTracks)
    (hm : s.recv.get? mid = some slot) (ht : done.1.track = slot.track)
    (hb : done.2.build = ts.build) : (s.put mid done).1.Placed done.2 := by
  refine ⟨fun y slot' hy => ?_, ?_⟩
  · rw [hb]
    simp only [Slots.put, Table.get?_insert] at hy
    split at hy
    · rename_i heq
      cases Option.some.inj hy
      rw [ht, heq]
      exact h.recv mid slot hm
    · exact h.recv y slot' hy
  · rw [hb]
    exact h.sends

/-- Something is done to one receive slot and its track: nothing else is received otherwise. -/
theorem reception?_put (h : s.Placed ts) {mid : Mid} {slot : Slot} (done : Slot × MediaTracks)
    (hm : s.recv.get? mid = some slot) (ht : done.1.track = slot.track)
    (hframe : ∀ q, q ≠ slot.track → done.2.get? q = ts.get? q) (y : Mid) :
    (s.put mid done).1.reception? done.2 y =
      if y = mid then (done.2.get? slot.track).map fun t => (done.1, t)
      else s.reception? ts y := by
  simp only [reception?, Slots.put, Table.get?_insert]
  split
  · simp [ht]
  · rename_i hy
    cases hget : s.recv.get? y with
    | none => rfl
    | some slot' =>
      have hne : slot'.track ≠ slot.track := fun heq => hy (h.track_inj hget hm heq)
      simp [hframe _ hne]

/-- Assigning a slot. -/
theorem reception?_assign (h : s.Placed ts) {mid : Mid} {cid : Cid} {iv : InitVector}
    {session : Nat} {previous : Option Cid} {s' : Slots}
    (ha : s.assign mid cid iv session ts = some (previous, s', ts')) (y : Mid) :
    s'.reception? ts' y =
      if y = mid then (s.reception? ts mid).map fun r =>
        ({ r.1 with cid := some cid, iv := some iv },
          r.2.receiving iv session (if r.1.cid = some cid then r.2.sink else some cid))
      else s.reception? ts y := by
  obtain ⟨slot, hm, heq⟩ := Option.map_eq_some_iff.1 ha
  obtain ⟨-, hput⟩ := Prod.mk.inj heq
  obtain ⟨rfl, rfl⟩ := Prod.mk.inj hput
  refine (reception?_put h (slot.assign cid iv session ts) hm rfl
    (fun q hq => by simp [Slot.get?_assign, hq]) y).trans ?_
  simp [reception?, hm, Slot.get?_assign, Slot.assign_fst, Function.comp_def]

theorem Placed.assign (h : s.Placed ts) {mid : Mid} {cid : Cid} {iv : InitVector}
    {session : Nat} {previous : Option Cid} {s' : Slots}
    (ha : s.assign mid cid iv session ts = some (previous, s', ts')) : s'.Placed ts' := by
  obtain ⟨slot, hm, heq⟩ := Option.map_eq_some_iff.1 ha
  obtain ⟨-, hput⟩ := Prod.mk.inj heq
  obtain ⟨rfl, rfl⟩ := Prod.mk.inj hput
  exact h.put (slot.assign cid iv session ts) hm rfl (by simp)

/-- Releasing a slot. -/
theorem reception?_release (h : s.Placed ts) (mid y : Mid) :
    (s.release mid ts).1.reception? (s.release mid ts).2 y =
      if y = mid then (s.reception? ts mid).map fun r =>
        (r.1.vacated, if r.1.cid.isSome then r.2.idle else r.2)
      else s.reception? ts y := by
  rw [release]
  split
  · rename_i slot hm
    refine (reception?_put h (slot.release ts) hm (Slot.track_release slot ts)
      (fun q hq => by simp [Slot.get?_release, hq]) y).trans ?_
    by_cases hc : slot.cid.isSome = true <;>
      simp [reception?, hm, Slot.get?_release, Slot.release_fst, hc, Function.comp_def]
  · rename_i hm
    by_cases hy : y = mid <;> simp [hy, reception?, hm]

theorem Placed.release (h : s.Placed ts) (mid : Mid) :
    (s.release mid ts).1.Placed (s.release mid ts).2 := by
  rw [Slots.release]
  split
  · rename_i slot hm
    exact h.put (slot.release ts) hm (Slot.track_release slot ts) (Slot.build_release slot ts)
  · exact h

end Slots
end GroupCall
