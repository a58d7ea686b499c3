/-
# What wiring leaves alone

Binding and releasing slots, switching tracks and taking flags concern the wiring of a call:
the flags and slots of its sessions, the slots and the engine.  Everything else is as before,
the same participants are connected, and there are slots under the same numbers.
-/
import GroupCall.Proofs.Slots.Roster

namespace GroupCall

/-- What wiring leaves of a session: its number, its participant and user, and its keys. -/
def Session.core (s : Session) : Nat × Cid × UserId × KeyRing := (s.serial, s.cid, s.userId, s.keys)

@[simp] theorem Session.core_setSlot (s : Session) (role : SlotRole) (mid : Option Mid) :
    (s.setSlot role mid).core = s.core := by cases role <;> rfl

@[simp] theorem Session.core_forget (s : Session) (mid : Mid) : (s.forget mid).core = s.core := by
  rw [forget]
  generalize s.rolesOf mid = roles
  induction roles generalizing s with
  | nil => rfl
  | cons role rest ih => exact (ih _).trans (core_setSlot s role none)

namespace Call

/-- A relation that holds of doing nothing, and of one thing after the other, holds along a
fold. -/
theorem foldl_related {α : Type} {f : Call → α → Call} {R : Call → Call → Prop}
    (hrefl : ∀ c, R c c) (htrans : ∀ {c c' c''}, R c c' → R c' c'' → R c c'')
    (hf : ∀ c a, R c (f c a)) (l : List α) (c : Call) : R c (l.foldl f c) := by
  induction l generalizing c with
  | nil => exact hrefl c
  | cons a rest ih => exact htrans (hf c a) (ih _)

/-- Only the wiring is different. -/
structure Rewired (c c' : Call) : Prop where
  /-- Nothing but sessions, slots and the engine is different. -/
  rest : c' = { c with sessions := c'.sessions, slots := c'.slots, engine := c'.engine }
  /-- The same participants are connected. -/
  sessions : ∀ cid, (c'.sessions.get? cid).map Session.core = (c.sessions.get? cid).map Session.core
  /-- There are slots under the same numbers. -/
  slots : ∀ mid, (c'.recvSlot? mid).isSome = (c.recvSlot? mid).isSome
  /-- Our media are set up as they were, or are not. -/
  installed : c'.slots.isSome = c.slots.isSome

namespace Rewired

variable {c c' c'' : Call}

theorem refl (c : Call) : Rewired c c := ⟨rfl, fun _ => rfl, fun _ => rfl, rfl⟩

theorem trans (h : Rewired c c') (h' : Rewired c' c'') : Rewired c c'' where
  rest := by
    have hrest := h'.rest
    rw [h.rest] at hrest
    exact hrest
  sessions cid := (h'.sessions cid).trans (h.sessions cid)
  slots mid := (h'.slots mid).trans (h.slots mid)
  installed := h'.installed.trans h.installed

theorem state_eq (h : Rewired c c') : c'.state = c.state := by rw [h.rest]

theorem cid_eq (h : Rewired c c') : c'.cid = c.cid := by rw [h.rest]

theorem isUs_eq (h : Rewired c c') (cid : Cid) : c'.isUs cid = c.isUs cid := by
  rw [isUs, isUs, h.state_eq, h.cid_eq]

/-- A participant that is connected afterwards was connected before. -/
theorem session (h : Rewired c c') {cid : Cid} {s' : Session}
    (hs : c'.sessions.get? cid = some s') :
    ∃ s, c.sessions.get? cid = some s ∧ s'.core = s.core := by
  have hmap := h.sessions cid
  rw [hs] at hmap
  obtain ⟨s, hs, heq⟩ := Option.map_eq_some_iff.1 hmap.symm
  exact ⟨s, hs, heq.symm⟩

theorem contains_eq (h : Rewired c c') (cid : Cid) :
    c'.sessions.contains cid = c.sessions.contains cid := by
  have hmap := congrArg Option.isSome (h.sessions cid)
  simpa [Table.contains] using hmap

theorem binds_eq (h : Rewired c c') (b : Binding) : c'.binds b = c.binds b := by
  rw [binds, binds, h.contains_eq, h.slots]

/-! ## Tracks -/

/-- Only tracks are different. -/
theorem of_engine (c : Call) (engine : MediaEngine) : Rewired c { c with engine := engine } :=
  ⟨rfl, fun _ => rfl, fun _ => rfl, rfl⟩

theorem switch (c : Call) (slot : Slot) (on : Bool) : Rewired c (c.switch slot on) :=
  of_engine c _

theorem applyLocalAv (c : Call) : Rewired c c.applyLocalAv := by
  rw [Call.applyLocalAv]
  split
  · exact refl c
  · exact ((switch c _ _).trans (switch _ _ _)).trans (switch _ _ _)

theorem applyRole (c : Call) (s : Session) (role : SlotRole) : Rewired c (c.applyRole s role) := by
  rw [Call.applyRole]
  split
  · exact refl c
  · exact switch c _ _

theorem applyRemoteAv (c : Call) (cid : Cid) : Rewired c (c.applyRemoteAv cid) := by
  rw [Call.applyRemoteAv]
  split
  · exact refl c
  · exact ((applyRole c _ _).trans (applyRole _ _ _)).trans (applyRole _ _ _)

/-! ## Sessions -/

/-- One session changes, but not at its core. -/
theorem modify (c : Call) (cid : Cid) {f : Session → Session} (hf : ∀ s, (f s).core = s.core) :
    Rewired c { c with sessions := c.sessions.modify cid f } where
  rest := rfl
  sessions y := by
    simp only [Table.get?_modify]
    split
    · simp [Function.comp_def, hf]
    · rfl
  slots _ := rfl
  installed := rfl

theorem setAv (c : Call) (cid : Cid) (av : AvFlags) : Rewired c (c.setAv cid av) :=
  modify c cid fun _ => rfl

theorem setSpeakRequested (c : Call) (cid : Cid) (requested : Bool) :
    Rewired c (c.setSpeakRequested cid requested) := modify c cid fun _ => rfl

theorem setRole (c : Call) (cid : Cid) (role : SlotRole) (mid : Option Mid) :
    Rewired c (c.setRole cid role mid) := modify c cid fun s => s.core_setSlot role mid

/-! ## Slots -/

theorem releaseSlot (c : Call) (mid : Mid) : Rewired c (c.releaseSlot mid) := by
  rw [Call.releaseSlot, onSlots]
  split
  · exact refl c
  · rename_i slots hs
    refine ⟨rfl, fun _ => rfl, fun y => ?_, by rw [hs]; rfl⟩
    simp only [recvSlot?, withTracks, hs, Option.bind_some, Slots.release]
    split
    · rename_i slot hget
      simp only [Slots.put, Table.get?_insert]
      split
      · rename_i hy
        simp [hy, hget]
      · rfl
    · rfl

theorem releaseRole (c : Call) (cid : Cid) (role : SlotRole) :
    Rewired c (c.releaseRole cid role).1 := by
  rw [Call.releaseRole]
  split
  · exact refl c
  · split
    · exact refl c
    · exact (setRole c cid role none).trans (releaseSlot _ _)

theorem releaseRoles (c : Call) (role : SlotRole) (cids : List Cid) :
    Rewired c (c.releaseRoles role cids) := by
  rw [Call.releaseRoles]
  induction cids generalizing c with
  | nil => exact refl c
  | cons cid rest ih => exact (releaseRole c cid role).trans (ih _)

theorem seize {slots slots' : Slots} {tracks : MediaTracks} {mid : Mid} {cid : Cid}
    {iv : InitVector} {session : Nat} {previous : Option Cid} (hs : c.slots = some slots)
    (ha : slots.assign mid cid iv session c.engine.tracks = some (previous, slots', tracks)) :
    Rewired c (c.seize slots' tracks mid) where
  rest := rfl
  sessions y := by
    rw [get?_sessions_seize]
    simp [Function.comp_def]
  slots y := by
    obtain ⟨slot, hget, heq⟩ := Option.map_eq_some_iff.1 ha
    obtain ⟨-, hput⟩ := Prod.mk.inj heq
    obtain ⟨rfl, -⟩ := Prod.mk.inj hput
    simp only [recvSlot?, hs, Option.bind_some, Call.seize, forgetSlot, withTracks,
      Table.get?_insert]
    split
    · rename_i hy
      simp [hy, hget]
    · rfl
  installed := by rw [hs]; rfl

theorem bindTrack (c : Call) (b : Binding) :
    Rewired c (c.bindTrack b.cid b.track b.role).1 := by
  cases hb : c.binds b with
  | false =>
    rw [bindTrack_of_binds_eq_false hb]
    exact refl c
  | true =>
    obtain ⟨s, slots, previous, slots', tracks, hs, hslots, ha, heq⟩ := bindTrack_of_binds hb
    rw [heq]
    exact (((seize hslots ha).trans (releaseRole _ _ _)).trans (setRole _ _ _ _)).trans
      (applyRemoteAv _ _)

end Rewired
end Call
end GroupCall
