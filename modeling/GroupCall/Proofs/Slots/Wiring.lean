/-
# Sessions and receive slots in step

A session refers to receive slots by number, and a bound slot refers to its participant.
`Wired` says that the two agree: a slot that a session has in a role is bound to its
participant, its track does what the last binding of the number asked for, and a bound slot
is had by its participant.

The operations on sessions and slots pass through states in which this holds only in part.
So `Wired` has two lists of exceptions: loose numbers, which nobody has although their slots
may be bound, and stale roles, whose tracks may be switched wrongly.  Each operation is
described by the exceptions that it makes or settles.
-/
import GroupCall.Call.Request
import GroupCall.Proofs.Slots.Reception
import GroupCall.Proofs.Table

namespace GroupCall

/-! ## Histories of bindings -/

/-- A track that was bound to a participant in a role. -/
structure Binding where
  /-- The participant. -/
  cid : Cid
  /-- The role. -/
  role : SlotRole
  /-- The track, as the relay described it. -/
  track : TrackDescriptor
deriving DecidableEq, Repr

/-- The last binding of a number in a history, whose oldest binding stands first. -/
def lastBinding? (history : List Binding) (mid : Mid) : Option Binding :=
  history.reverse.find? fun b => b.track.mid = mid

theorem lastBinding?_append (history : List Binding) (b : Binding) (mid : Mid) :
    lastBinding? (history ++ [b]) mid =
      if b.track.mid = mid then some b else lastBinding? history mid := by
  by_cases h : b.track.mid = mid <;> simp [lastBinding?, h]

/-! ## Sessions -/

namespace Session

@[simp] theorem serial_setSlot (s : Session) (role : SlotRole) (mid : Option Mid) :
    (s.setSlot role mid).serial = s.serial := by cases role <;> rfl

@[simp] theorem cid_setSlot (s : Session) (role : SlotRole) (mid : Option Mid) :
    (s.setSlot role mid).cid = s.cid := by cases role <;> rfl

@[simp] theorem av_setSlot (s : Session) (role : SlotRole) (mid : Option Mid) :
    (s.setSlot role mid).av = s.av := by cases role <;> rfl

/-- What is told of a session apart from its slots, which taking slots away leaves alone. -/
private theorem foldl_setSlot_none (roles : List SlotRole) (s : Session) :
    let s' := roles.foldl (fun s role => s.setSlot role none) s
    s'.serial = s.serial ∧ s'.cid = s.cid ∧ s'.av = s.av ∧
      ∀ role, s'.slot role = if role ∈ roles then none else s.slot role := by
  induction roles generalizing s with
  | nil => simp
  | cons r rest ih =>
    obtain ⟨h1, h2, h3, h4⟩ := ih (s.setSlot r none)
    refine ⟨by simpa using h1, by simpa using h2, by simpa using h3, fun role => ?_⟩
    refine (h4 role).trans ?_
    by_cases hr : role ∈ rest <;> by_cases he : role = r <;> simp [hr, he]

@[simp] theorem serial_forget (s : Session) (mid : Mid) : (s.forget mid).serial = s.serial :=
  (foldl_setSlot_none (s.rolesOf mid) s).1

@[simp] theorem cid_forget (s : Session) (mid : Mid) : (s.forget mid).cid = s.cid :=
  (foldl_setSlot_none (s.rolesOf mid) s).2.1

@[simp] theorem av_forget (s : Session) (mid : Mid) : (s.forget mid).av = s.av :=
  (foldl_setSlot_none (s.rolesOf mid) s).2.2.1

theorem mem_all_roles (role : SlotRole) : role ∈ SlotRole.all := by cases role <;> decide

@[simp] theorem slot_forget (s : Session) (mid : Mid) (role : SlotRole) :
    (s.forget mid).slot role = if s.slot role = some mid then none else s.slot role := by
  refine ((foldl_setSlot_none (s.rolesOf mid) s).2.2.2 role).trans ?_
  simp [rolesOf, mem_all_roles]

theorem mem_mids_iff {s : Session} {mid : Mid} : mid ∈ s.mids ↔ ∃ role, s.slot role = some mid := by
  simp only [mids, List.mem_filterMap]
  exact ⟨fun ⟨role, _, h⟩ => ⟨role, h⟩, fun ⟨role, h⟩ => ⟨role, mem_all_roles role, h⟩⟩

@[simp] theorem slot_new (serial : Nat) (cid : Cid) (user : UserId) (av : AvFlags) (capacity : Nat)
    (role : SlotRole) : (new serial cid user av capacity).slot role = none := by
  cases role <;> rfl

end Session

/-- Sessions are filed under their participants, in order, and each has a serial number of
its own below the next one. -/
structure Enrolled (t : Table Cid Session) (next : Nat) : Prop where
  /-- The table is in order. -/
  sorted : t.Sorted
  /-- Sessions are filed under their participants. -/
  cid_eq : ∀ cid s, t.get? cid = some s → s.cid = cid
  /-- Serial numbers were given out. -/
  serial_lt : ∀ cid s, t.get? cid = some s → s.serial < next
  /-- No two sessions share one. -/
  serial_inj : ∀ cid cid' s s', t.get? cid = some s → t.get? cid' = some s' →
    s.serial = s'.serial → cid = cid'

namespace Enrolled

variable {t : Table Cid Session} {next : Nat}

theorem empty : Enrolled .empty 0 :=
  ⟨Table.sorted_empty, by simp, by simp, by simp⟩

/-- A session is the one that is filed under its participant. -/
theorem get?_of_mem (h : Enrolled t next) {s : Session} (hs : s ∈ t.values) :
    t.get? s.cid = some s := by
  obtain ⟨cid, hget⟩ := h.sorted.mem_values_iff.1 hs
  rw [h.cid_eq cid s hget]
  exact hget

theorem erase (h : Enrolled t next) (cid : Cid) : Enrolled (t.erase cid) next where
  sorted := h.sorted.erase cid
  cid_eq y s hs := by
    rw [Table.get?_erase] at hs
    split at hs
    · simp at hs
    · exact h.cid_eq y s hs
  serial_lt y s hs := by
    rw [Table.get?_erase] at hs
    split at hs
    · simp at hs
    · exact h.serial_lt y s hs
  serial_inj y y' s s' hs hs' heq := by
    rw [Table.get?_erase] at hs hs'
    split at hs
    · simp at hs
    · split at hs'
      · simp at hs'
      · exact h.serial_inj y y' s s' hs hs' heq

/-- Sessions change without changing who they are. -/
theorem map (h : Enrolled t next) {t' : Table Cid Session} (hsorted : t'.Sorted)
    (hget : ∀ y s', t'.get? y = some s' →
      ∃ s, t.get? y = some s ∧ s'.cid = s.cid ∧ s'.serial = s.serial) : Enrolled t' next where
  sorted := hsorted
  cid_eq y s' hs' := by
    obtain ⟨s, hs, hc, -⟩ := hget y s' hs'
    rw [hc, h.cid_eq y s hs]
  serial_lt y s' hs' := by
    obtain ⟨s, hs, -, hn⟩ := hget y s' hs'
    rw [hn]
    exact h.serial_lt y s hs
  serial_inj y z s' r' hs' hr' heq := by
    obtain ⟨s, hs, -, hn⟩ := hget y s' hs'
    obtain ⟨r, hr, -, hm⟩ := hget z r' hr'
    exact h.serial_inj y z s r hs hr (by rw [← hn, ← hm, heq])

theorem modify (h : Enrolled t next) (cid : Cid) {f : Session → Session}
    (hcid : ∀ s, (f s).cid = s.cid) (hserial : ∀ s, (f s).serial = s.serial) :
    Enrolled (t.modify cid f) next := by
  refine h.map (h.sorted.modify cid f) fun y s' hs' => ?_
  rw [Table.get?_modify] at hs'
  split at hs'
  · obtain ⟨s, hs, rfl⟩ := Option.map_eq_some_iff.1 hs'
    exact ⟨s, hs, hcid s, hserial s⟩
  · exact ⟨s', hs', rfl, rfl⟩

theorem insert (h : Enrolled t next) {s : Session} (hs : s.serial = next) :
    Enrolled (t.insert s.cid s) (next + 1) where
  sorted := h.sorted.insert s.cid s
  cid_eq y r hr := by
    rw [Table.get?_insert] at hr
    split at hr
    · cases hr
      exact (‹y = s.cid›).symm
    · exact h.cid_eq y r hr
  serial_lt y r hr := by
    rw [Table.get?_insert] at hr
    split at hr
    · cases hr
      omega
    · have := h.serial_lt y r hr
      omega
  serial_inj y z r r' hr hr' heq := by
    rw [Table.get?_insert] at hr hr'
    -- the number of the new session is above all others
    split at hr <;> split at hr'
    · rename_i hy hz
      rw [hy, hz]
    · cases hr
      have := h.serial_lt z r' hr'
      omega
    · cases hr'
      have := h.serial_lt y r hr
      omega
    · exact h.serial_inj y z r r' hr hr' heq

end Enrolled

/-! ## The agreement -/

/-- A slot and its track carry a session as a binding asked for. -/
structure Carries (r : Slot × MediaTrack) (b : Binding) (s : Session) : Prop where
  /-- The slot is bound to the participant. -/
  cid : r.1.cid = some b.cid
  /-- The slot remembers the IV. -/
  iv : r.1.iv = some b.track.iv
  /-- The track decrypts with the keys of the session. -/
  crypto : r.2.crypto = some (.decrypt b.track.iv s.serial)
  /-- The track is shown as the participant. -/
  sink : r.2.sink = some b.cid

theorem Carries.congr {r r' : Slot × MediaTrack} {b : Binding} {s s' : Session}
    (h : Carries r b s) (hcid : r'.1.cid = r.1.cid) (hiv : r'.1.iv = r.1.iv)
    (hcrypto : r'.2.crypto = r.2.crypto) (hsink : r'.2.sink = r.2.sink)
    (hserial : s'.serial = s.serial) : Carries r' b s' :=
  ⟨hcid.trans h.cid, hiv.trans h.iv, by rw [hcrypto, hserial, h.crypto], hsink.trans h.sink⟩

namespace Call

/-- What is received under a number. -/
def reception? (c : Call) (mid : Mid) : Option (Slot × MediaTrack) :=
  c.slots.bind fun s => s.reception? c.engine.tracks mid

/-- Sessions and slots agree, but for loose numbers and stale roles. -/
structure Wired (history : List Binding) (loose : List Mid) (stale : List (Cid × SlotRole))
    (c : Call) : Prop where
  /-- Slots have tracks of their own. -/
  placed : ∀ s, c.slots = some s → s.Placed c.engine.tracks
  /-- Sessions are in order. -/
  enrolled : Enrolled c.sessions c.nextSerial
  /-- What a session has in a role is carried as the last binding of the number asked for. -/
  held : ∀ cid s role mid, c.sessions.get? cid = some s → s.slot role = some mid →
    ∃ r b, c.reception? mid = some r ∧ lastBinding? history mid = some b ∧ b.cid = cid ∧
      b.role = role ∧ Carries r b s ∧ ((cid, role) ∉ stale → r.2.enabled = role.isSent s.av)
  /-- A slot that is bound to nobody does nothing. -/
  vacant : ∀ mid r, c.reception? mid = some r → r.1.cid = none →
    r.1.iv = none ∧ r.2.crypto = none ∧ r.2.sink = none ∧ r.2.enabled = false
  /-- The participant of a bound slot has it. -/
  owned : ∀ mid r cid, c.reception? mid = some r → r.1.cid = some cid → mid ∉ loose →
    ∃ s role, c.sessions.get? cid = some s ∧ s.slot role = some mid
  /-- Nobody has a loose number. -/
  unheld : ∀ mid, mid ∈ loose → ∀ cid s role, c.sessions.get? cid = some s →
    s.slot role ≠ some mid

variable {c c' : Call} {history : List Binding} {loose : List Mid}
  {stale : List (Cid × SlotRole)}

/-- Nothing about sessions, slots and tracks is different. -/
structure SameMedia (c c' : Call) : Prop where
  /-- The sessions. -/
  sessions : c'.sessions = c.sessions
  /-- The next serial number. -/
  nextSerial : c'.nextSerial = c.nextSerial
  /-- The slots. -/
  slots : c'.slots = c.slots
  /-- The tracks. -/
  tracks : c'.engine.tracks = c.engine.tracks

namespace SameMedia

theorem refl (c : Call) : SameMedia c c := ⟨rfl, rfl, rfl, rfl⟩

theorem trans {c'' : Call} (h : SameMedia c c') (h' : SameMedia c' c'') : SameMedia c c'' :=
  ⟨h'.sessions.trans h.sessions, h'.nextSerial.trans h.nextSerial, h'.slots.trans h.slots,
    h'.tracks.trans h.tracks⟩

theorem reception? (h : SameMedia c c') (mid : Mid) : c'.reception? mid = c.reception? mid := by
  rw [Call.reception?, Call.reception?, h.slots, h.tracks]

theorem tell (c : Call) (news : CallNews) : SameMedia c (c.tell news) := ⟨rfl, rfl, rfl, rfl⟩

theorem report (c : Call) (error : CallError) : SameMedia c (c.report error) :=
  ⟨rfl, rfl, rfl, rfl⟩

theorem post (c : Call) (relay : Nat) (request : RelayRequest) :
    SameMedia c (c.post relay request) :=
  ⟨rfl, rfl, rfl, rfl⟩

theorem setState (c : Call) (next : CallState) : SameMedia c (c.setState next).1 := by
  rw [Call.setState]
  split <;> exact ⟨rfl, rfl, rfl, rfl⟩

theorem moveTo (c : Call) (next : CallState) : SameMedia c (c.moveTo next) := setState c next

theorem setSpeaker (c : Call) (state : SpeakerState) : SameMedia c (c.setSpeaker state) := by
  rw [Call.setSpeaker]
  split
  · exact refl c
  · exact ⟨rfl, rfl, rfl, rfl⟩

theorem setModerator (c : Call) (user : UserId) (add : Bool) :
    SameMedia c (c.setModerator user add) := by
  simp only [Call.setModerator]
  split <;> exact ⟨rfl, rfl, rfl, rfl⟩

theorem dropRelay (c : Call) : SameMedia c c.dropRelay := by
  rw [Call.dropRelay]
  split <;> exact ⟨rfl, rfl, rfl, rfl⟩

end SameMedia

namespace Wired

/-- The agreement is about sessions and what is received. -/
theorem congr (h : Wired history loose stale c) (hsessions : c'.sessions = c.sessions)
    (hserial : c'.nextSerial = c.nextSerial)
    (hplaced : ∀ s, c'.slots = some s → s.Placed c'.engine.tracks)
    (hreception : ∀ mid, c'.reception? mid = c.reception? mid) :
    Wired history loose stale c' where
  placed := hplaced
  enrolled := by rw [hsessions, hserial]; exact h.enrolled
  held := by simpa only [hsessions, hreception] using h.held
  vacant := by simpa only [hreception] using h.vacant
  owned := by simpa only [hsessions, hreception] using h.owned
  unheld := by simpa only [hsessions] using h.unheld

theorem of_sameMedia {d : Call} (h : Wired history loose stale c) (hs : SameMedia c d) :
    Wired history loose stale d :=
  h.congr hs.sessions hs.nextSerial (by rw [hs.slots, hs.tracks]; exact h.placed) hs.reception?

/-- A fold keeps what each of its operations keeps. -/
theorem foldl {α : Type} {f : Call → α → Call} (h : Wired history loose stale c)
    (hf : ∀ c a, Wired history loose stale c → Wired history loose stale (f c a)) (l : List α) :
    Wired history loose stale (l.foldl f c) := by
  induction l generalizing c with
  | nil => exact h
  | cons a rest ih => exact ih (hf c a h)

/-- Where nothing is bound, the history stays as it was. -/
theorem append_nil {bs : List Binding} (h : Wired history loose stale c) (hnone : bs = []) :
    Wired (history ++ bs) loose stale c := by
  rw [hnone, List.append_nil]
  exact h

end Wired
end Call
end GroupCall
