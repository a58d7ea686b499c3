/-
# Accounts of our keys

No number above the current one was ever sent in a participation, so a new key is held by
those alone to whom its rotation sends it.  A rotation locks everybody out who left, if the
new key comes into use; a participant that comes later is sent the key in use while it is
connected.
-/
import GroupCall.Proofs.Keys.Rotation
import GroupCall.Proofs.Slots.Ownership

namespace GroupCall
namespace Call

variable {c c' : Call} {w : Surroundings}

/-! ## Accounts of keys -/

/-- Keys that were sent, and the newest one, are under numbers up to the current one. -/
structure Accounted (c : Call) : Prop where
  /-- Our ring is sound. -/
  ring : c.keys.Sound
  /-- No number was sent above the current one. -/
  sent_le : ∀ id cid, (id, cid) ∈ c.keysSent → ∃ cur, c.keys.current = some cur ∧ id ≤ cur
  /-- The newest key is not above the current one. -/
  sendKey_le : ∀ id plain, c.sendKey = some (id, plain) →
    ∃ cur, c.keys.current = some cur ∧ id ≤ cur

namespace Accounted

theorem keyInUse_eq (h : Accounted c) : c.keyInUse = c.keys.current := h.ring.currentKey?

theorem of_sameKeys (h : Accounted c) (hs : SameKeys c c') : Accounted c' where
  ring := by rw [hs.keys]; exact h.ring
  sent_le := by rw [hs.keys, hs.sent]; exact h.sent_le
  sendKey_le := by rw [hs.keys, hs.sendKey]; exact h.sendKey_le

theorem of_quiet (h : Accounted c) (hq : Quiet c c') : Accounted c' := by
  rcases hq with hkeeps | hended
  · exact h.of_sameKeys hkeeps.toSameKeys
  · refine ⟨hended.keys ▸ h.ring.clear, ?_, ?_⟩
    · simp [hended.sent]
    · simp [hended.sendKey]

end Accounted

/-! ## Rotations -/

theorem keysSent_rotated (c : Call) (w : Surroundings) (relay : Nat)
    (wrapped : List (Cid × List UInt8)) :
    (c.rotated w relay wrapped).keysSent =
      c.keysSent ++ wrapped.map fun e => (c.keys.nextId, e.1) :=
  keysSent_record c (.posted relay (.send (.key c.keys.nextId wrapped)))

theorem current_rotated (c : Call) (w : Surroundings) (relay : Nat)
    (wrapped : List (Cid × List UInt8)) :
    ∃ cur, (c.rotated w relay wrapped).keys.current = some cur ∧ c.keys.nextId ≤ cur ∧
      ∀ old, c.keys.current = some old → old ≤ cur := by
  obtain ⟨cur, hcur, -, hid, hold⟩ :=
    c.keys.exists_current_insert c.keys.nextId (c.frameKey w.key)
  exact ⟨cur, hcur, hid, hold⟩

theorem Accounted.rotated (h : Accounted c) (w : Surroundings) (relay : Nat)
    (wrapped : List (Cid × List UInt8)) : Accounted (c.rotated w relay wrapped) := by
  obtain ⟨cur, hcur, hid, hold⟩ := current_rotated c w relay wrapped
  refine ⟨h.ring.insert _ _, fun id cid hmem => ⟨cur, hcur, ?_⟩,
    fun id plain hkey => ⟨cur, hcur, ?_⟩⟩
  · rw [keysSent_rotated, List.mem_append, List.mem_map] at hmem
    rcases hmem with hmem | ⟨e, -, heq⟩
    · obtain ⟨old, hcurrent, hle⟩ := h.sent_le id cid hmem
      exact UInt32.le_trans hle (hold old hcurrent)
    · cases heq
      exact hid
  · cases hkey
    exact hid

/-- While numbers are left, only the recipients of the new key hold it. -/
theorem Accounted.hasKey_rotated (h : Accounted c) (hfresh : c.keys.current ≠ some KeyRing.lastId)
    {relay : Nat} {wrapped : List (Cid × List UInt8)} {cid : Cid}
    (hkey : (c.rotated w relay wrapped).HasKey cid) : cid ∈ wrapped.map Prod.fst := by
  obtain ⟨id, huse, hmem⟩ := hkey
  rw [(h.rotated w relay wrapped).keyInUse_eq] at huse
  obtain rfl : c.keys.nextId = id := by
    have hcurrent := KeyRing.current_insert_nextId hfresh (c.frameKey w.key)
    exact Option.some.inj (hcurrent.symm.trans huse)
  rw [keysSent_rotated, List.mem_append, List.mem_map] at hmem
  rcases hmem with hmem | ⟨e, he, heq⟩
  · -- a number that was sent before is below the new one
    obtain ⟨cur, hcur, hle⟩ := h.sent_le _ cid hmem
    have hlt := KeyRing.current_lt_nextId hcur fun heq => hfresh (heq ▸ hcur)
    exact absurd hle (UInt32.not_le.2 hlt)
  · cases heq
    exact List.mem_map_of_mem he

/-- Once numbers are exhausted, the key in use stays, and so do its holders. -/
theorem Accounted.hasKey_rotated_iff (h : Accounted c)
    (hlast : c.keys.current = some KeyRing.lastId) (relay : Nat)
    (wrapped : List (Cid × List UInt8)) (cid : Cid) :
    (c.rotated w relay wrapped).HasKey cid ↔ c.HasKey cid := by
  have hcurrent : (c.rotated w relay wrapped).keys.current = some KeyRing.lastId :=
    KeyRing.current_insert_exhausted hlast (c.frameKey w.key)
  have hne : c.keys.nextId ≠ KeyRing.lastId := by
    rw [KeyRing.nextId, hlast]
    decide
  rw [HasKey, HasKey, (h.rotated w relay wrapped).keyInUse_eq, h.keyInUse_eq, hcurrent, hlast,
    keysSent_rotated]
  constructor
  · rintro ⟨id, huse, hmem⟩
    cases huse
    rcases List.mem_append.1 hmem with hmem | hmem
    · exact ⟨_, rfl, hmem⟩
    · obtain ⟨e, -, heq⟩ := List.mem_map.1 hmem
      exact absurd (Prod.mk.inj heq).1 hne
  · rintro ⟨id, huse, hmem⟩
    exact ⟨id, huse, List.mem_append_left _ hmem⟩

/-- A new key comes into use: it can be sent, and there is a number for it. -/
structure CanRotate (c : Call) (w : Surroundings) : Prop extends CanSend c w where
  /-- Numbers are left. -/
  fresh : c.keys.current ≠ some KeyRing.lastId

theorem Accounted.rotateKey (h : Accounted c) (w : Surroundings) :
    Accounted (c.rotateKey w).1 := by
  obtain ⟨e, heq, -⟩ | ⟨relay, wrapped, -, heq⟩ := c.rotateKey_cases w <;> rw [heq]
  · exact h
  · exact h.rotated w relay wrapped

theorem sameKeys_rotateOrReport (c : Call) (w : Surroundings) :
    SameKeys (c.rotateKey w).1 (c.rotateOrReport w) := by
  rw [rotateOrReport]
  split <;> rename_i heq <;> rw [heq]
  · exact SameKeys.refl _
  · exact SameKeys.report _ _

theorem mem_recipients {next : Nat} (h : Enrolled c.sessions next) {s : Session} :
    s ∈ c.recipients ↔ c.sessions.get? s.cid = some s ∧ s.cid ≠ c.cid := by
  rw [recipients, List.mem_filter]
  constructor
  · rintro ⟨hmem, hne⟩
    exact ⟨h.get?_of_mem hmem, by simpa using hne⟩
  · rintro ⟨hget, hne⟩
    exact ⟨h.sorted.mem_values_iff.2 ⟨s.cid, hget⟩, by simpa using hne⟩

/-- After a rotation everybody is locked out who left, if and only if a new key could come
into use or everybody was before. -/
theorem lockedOut_rotateKey_iff (h : Accounted c) {next : Nat} (he : Enrolled c.sessions next)
    (hs : c.state = .inProgress) :
    (c.rotateKey w).1.LockedOut ↔ c.CanRotate w ∨ c.LockedOut := by
  obtain ⟨e, heq, hnot⟩ | ⟨relay, wrapped, hrotates, heq⟩ := c.rotateKey_cases w <;> rw [heq]
  · -- the rotation was refused, so it was not possible
    have hcannot : ¬ c.CanRotate w := by
      intro hcan
      obtain ⟨relay, wrapped, hrotates⟩ := hcan.toCanSend.rotates hs
      exact hnot relay wrapped hrotates
    simp [hcannot]
  · by_cases hlast : c.keys.current = some KeyRing.lastId
    · -- the new key went out, but it cannot come into use
      have hcannot : ¬ c.CanRotate w := fun hcan => hcan.fresh hlast
      have hiff : (c.rotated w relay wrapped).LockedOut ↔ c.LockedOut :=
        forall_congr' fun cid => imp_congr (h.hasKey_rotated_iff hlast relay wrapped cid) Iff.rfl
      simp [hcannot, hiff]
    · -- whoever holds the new key was a recipient, and recipients have sessions
      have hall : (c.rotated w relay wrapped).LockedOut := by
        intro cid hkey
        have hmem := h.hasKey_rotated hlast hkey
        rw [(knows_of_wrapForAll hrotates.wraps).2] at hmem
        obtain ⟨s, hrecipient, rfl⟩ := List.mem_map.1 hmem
        change c.sessions.contains s.cid = true
        rw [Table.contains, ((mem_recipients he).1 hrecipient).1]
        rfl
      exact ⟨fun _ => Or.inl ⟨hrotates.canSend, hlast⟩, fun _ => hall⟩

theorem lockedOut_rotateOrReport_iff (h : Accounted c) {next : Nat}
    (he : Enrolled c.sessions next) (hs : c.state = .inProgress) :
    (c.rotateOrReport w).LockedOut ↔ c.CanRotate w ∨ c.LockedOut := by
  rw [← lockedOut_rotateKey_iff h he hs]
  have hkeys := sameKeys_rotateOrReport c w
  have hmedia : (c.rotateOrReport w).sessions = (c.rotateKey w).1.sessions :=
    (SameMedia.rotateOrReport c w).sessions.trans (SameMedia.rotateKey c w).sessions.symm
  refine forall_congr' fun cid => imp_congr (hkeys.hasKey_iff cid) ?_
  rw [hmedia]

/-! ## Participants that come -/

theorem keysSent_post_key (c : Call) (relay : Nat) (id : KeyId)
    (wrapped : List (Cid × List UInt8)) :
    (c.post relay (.send (.key id wrapped))).keysSent =
      c.keysSent ++ wrapped.map fun e => (id, e.1) :=
  keysSent_record c (.posted relay (.send (.key id wrapped)))

theorem Accounted.sendKeyTo (h : Accounted c) (w : Surroundings) (cid : Cid) :
    Accounted (c.sendKeyTo w cid).1 := by
  obtain ⟨-, heq⟩ | ⟨e, heq⟩ | ⟨s, id, plain, relay, bytes, -, hkey, -, -, heq⟩ :=
    c.sendKeyTo_cases w cid <;> rw [heq]
  · exact h
  · exact h
  · refine ⟨h.ring, fun id' cid' hmem => ?_, h.sendKey_le⟩
    rw [keysSent_post_key] at hmem
    rcases List.mem_append.1 hmem with hmem | hmem
    · exact h.sent_le id' cid' hmem
    · cases List.mem_singleton.1 hmem
      exact h.sendKey_le id plain hkey

theorem LockedOut.sendKeyTo (hlocked : c.LockedOut) {next : Nat} (he : Enrolled c.sessions next)
    (w : Surroundings) (cid : Cid) : (c.sendKeyTo w cid).1.LockedOut := by
  obtain ⟨-, heq⟩ | ⟨e, heq⟩ | ⟨s, id, plain, relay, bytes, hs, -, -, -, heq⟩ :=
    c.sendKeyTo_cases w cid <;> rw [heq]
  · exact hlocked
  · exact hlocked
  · rintro cid' ⟨id', huse, hmem⟩
    rw [keysSent_post_key] at hmem
    rcases List.mem_append.1 hmem with hmem | hmem
    · exact hlocked cid' ⟨id', huse, hmem⟩
    · -- the one that was just sent the key has a session
      cases List.mem_singleton.1 hmem
      change c.sessions.contains s.cid = true
      rw [he.cid_eq cid s hs, Table.contains, hs]
      rfl

end Call
end GroupCall
