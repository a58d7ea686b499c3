/-
# Binding touches nothing else

A track that cannot be bound leaves the call as it was.  One that can be bound takes its
number from whoever has it, gives it to the participant in the role, and frees the number
that the role had before.  All other sessions, and what is received under all other numbers,
are as they were: the switches that are set anew for the participant stand so already.

Tracks are bound after a step of the call, but also in the middle of a command, behind other
bindings of the same command.  So the states here are those that runs reach, and what a
command makes of them by and by.
-/
import GroupCall.Proofs.Company.Frame
import GroupCall.Proofs.Slots.Ownership

namespace GroupCall

/-! ## Sessions -/

namespace Session

theorem setSlot_setSlot (s : Session) (role : SlotRole) (mid mid' : Option Mid) :
    (s.setSlot role mid).setSlot role mid' = s.setSlot role mid' := by cases role <;> rfl

/-- Who does not have a number does not lose it. -/
theorem forget_of_slot_ne {s : Session} {mid : Mid} (h : ∀ role, s.slot role ≠ some mid) :
    s.forget mid = s := by
  have hnone : s.rolesOf mid = [] := by simp [rolesOf, h]
  rw [forget, hnone]
  rfl

/-- Who has a number in one role loses it in that role. -/
theorem forget_of_slot_eq {s : Session} {mid : Mid} {role : SlotRole}
    (h : ∀ role', s.slot role' = some mid ↔ role' = role) : s.forget mid = s.setSlot role none := by
  have hone : s.rolesOf mid = [role] := by
    simp only [rolesOf, h]
    cases role <;> decide
  rw [forget, hone]
  rfl

end Session

/-- A session after a binding: that of the participant has the number in the role. -/
def Binding.seat (b : Binding) (cid : Cid) (s : Session) : Session :=
  if cid = b.cid then s.setSlot b.role (some b.track.mid) else s

namespace Binding

@[simp] theorem av_seat (b : Binding) (cid : Cid) (s : Session) : (b.seat cid s).av = s.av := by
  rw [seat]
  split <;> simp

@[simp] theorem slot_seat (b : Binding) (cid : Cid) (s : Session) (role : SlotRole) :
    (b.seat cid s).slot role =
      if cid = b.cid ∧ role = b.role then some b.track.mid else s.slot role := by
  rw [seat]
  by_cases hcid : cid = b.cid <;> simp [hcid]

end Binding

namespace Call

variable {c : Call} {history : List Binding}

/-! ## Switches -/

/-- A switch that stands as it should is left alone. -/
theorem reception?_applyRole (hp : ∀ s, c.slots = some s → s.Placed c.engine.tracks) {s : Session}
    {role : SlotRole} {mid : Mid}
    (h : ∀ r, s.slot role = some mid → c.reception? mid = some r →
      r.2.enabled = role.isSent s.av) :
    (c.applyRole s role).reception? mid = c.reception? mid := by
  rw [applyRole]
  split
  · rfl
  · rename_i slot hslot
    obtain ⟨own, hown, hget⟩ := Option.bind_eq_some_iff.1 hslot
    obtain ⟨slots, hslots, hget⟩ := Option.bind_eq_some_iff.1 hget
    rw [reception?_switch hslots (hp slots hslots) hget]
    split
    · rename_i heq
      subst heq
      cases hr : c.reception? mid with
      | none => rfl
      | some r => rw [Option.map_some, ← h r hown hr]
    · rfl

theorem placed_applyRole (hp : ∀ s, c.slots = some s → s.Placed c.engine.tracks) (s : Session)
    (role : SlotRole) (slots : Slots) (hs : (c.applyRole s role).slots = some slots) :
    slots.Placed (c.applyRole s role).engine.tracks := by
  rw [applyRole] at hs ⊢
  split at hs
  · exact hp slots hs
  · exact placed_switch hp _ _ slots hs

theorem reception?_applyRemoteAv (hp : ∀ s, c.slots = some s → s.Placed c.engine.tracks)
    {cid : Cid} {mid : Mid}
    (h : ∀ s role r, c.sessions.get? cid = some s → s.slot role = some mid →
      c.reception? mid = some r → r.2.enabled = role.isSent s.av) :
    (c.applyRemoteAv cid).reception? mid = c.reception? mid := by
  rw [applyRemoteAv]
  split
  · rfl
  · rename_i s hs
    have hvthumb := reception?_applyRole hp fun r => h s .vthumb r hs
    have hp' := placed_applyRole hp s .vthumb
    have hhires : ((c.applyRole s .vthumb).applyRole s .hires).reception? mid =
        c.reception? mid := by
      rw [reception?_applyRole hp' fun r => by rw [hvthumb]; exact h s .hires r hs, hvthumb]
    rw [reception?_applyRole (placed_applyRole hp' s .hires) fun r => by
      rw [hhires]; exact h s .audio r hs, hhires]

/-! ## Only sessions, slots and tracks -/

/-- Only sessions, slots and tracks are different. -/
def Redrawn (c c' : Call) : Prop :=
  c' = { c with
    sessions := c'.sessions
    slots := c'.slots
    engine := { c.engine with tracks := c'.engine.tracks } }

namespace Redrawn

variable {c' c'' : Call}

theorem refl (c : Call) : Redrawn c c := rfl

theorem trans (h : Redrawn c c') (h' : Redrawn c' c'') : Redrawn c c'' := by
  rw [Redrawn, h] at h'
  exact h'

theorem applyRole (c : Call) (s : Session) (role : SlotRole) : Redrawn c (c.applyRole s role) := by
  rw [Call.applyRole]
  split <;> rfl

theorem applyRemoteAv (c : Call) (cid : Cid) : Redrawn c (c.applyRemoteAv cid) := by
  rw [Call.applyRemoteAv]
  split
  · exact refl c
  · exact ((applyRole c _ _).trans (applyRole _ _ _)).trans (applyRole _ _ _)

theorem releaseRole (c : Call) (cid : Cid) (role : SlotRole) :
    Redrawn c (c.releaseRole cid role).1 := by
  rw [Call.releaseRole]
  split
  · exact refl c
  · split
    · exact refl c
    · rw [releaseSlot, onSlots]
      split <;> rfl

theorem bindTrack (c : Call) (b : Binding) :
    Redrawn c (c.bindTrack b.cid b.track b.role).1 := by
  cases hb : c.binds b with
  | false =>
    rw [bindTrack_of_binds_eq_false hb]
    exact refl c
  | true =>
    obtain ⟨s, slots, previous, slots', tracks, hs, hslots, ha, heq⟩ := bindTrack_of_binds hb
    have hseized : Redrawn c (c.seize slots' tracks b.track.mid) := rfl
    have hset (d : Call) : Redrawn d (d.setRole b.cid b.role (some b.track.mid)) := rfl
    rw [heq]
    exact ((hseized.trans (releaseRole _ b.cid b.role)).trans (hset _)).trans (applyRemoteAv _ _)

end Redrawn

/-! ## What a binding does -/

/-- Nobody has a number, and its slot and its track do nothing. -/
structure Free (c : Call) (mid : Mid) : Prop where
  /-- Nobody has it. -/
  unheld : ∀ cid s role, c.sessions.get? cid = some s → s.slot role ≠ some mid
  /-- Its slot has no participant and no IV, and its track is silent. -/
  silent : ∃ r, c.reception? mid = some r ∧ r.1.cid = none ∧ r.1.iv = none ∧ Silent r.2

/-- In an agreeing state, a number whose slot has no participant is free. -/
theorem Wired.free (h : Wired history [] [] c) {mid : Mid} {r : Slot × MediaTrack}
    (hr : c.reception? mid = some r) (hcid : r.1.cid = none) : c.Free mid where
  unheld cid s role hs hslot := by
    obtain ⟨r', b, hr', -, -, -, hc, -⟩ := h.held cid s role mid hs hslot
    cases hr.symm.trans hr'
    rw [hc.cid] at hcid
    cases hcid
  silent := by
    obtain ⟨hiv, hcrypto, hsink, henabled⟩ := h.vacant mid r hr hcid
    exact ⟨r, hr, hcid, hiv, hcrypto, hsink, henabled⟩

/-- A track was bound, and nothing else was done. -/
structure BoundAlone (c : Call) (b : Binding) (c' : Call) : Prop where
  /-- The participant has the number in the role, and its slot carries the participant. -/
  held : ∃ s r, c'.sessions.get? b.cid = some s ∧ s.slot b.role = some b.track.mid ∧
    c'.reception? b.track.mid = some r ∧ Carries r b s ∧ r.2.enabled = b.role.isSent s.av
  /-- Another number that it had in the role before is free. -/
  released : ∀ s old, c.sessions.get? b.cid = some s → s.slot b.role = some old →
    old ≠ b.track.mid → c'.Free old
  /-- Whoever had the number before, in whatever role, loses that role and keeps all else. -/
  taken : ∀ cid s role, c.sessions.get? cid = some s → s.slot role = some b.track.mid →
    c'.sessions.get? cid = some (b.seat cid (s.setSlot role none))
  /-- Whoever did not have it keeps everything. -/
  kept : ∀ cid s, c.sessions.get? cid = some s → (∀ role, s.slot role ≠ some b.track.mid) →
    c'.sessions.get? cid = some (b.seat cid s)
  /-- Nobody comes. -/
  absent : ∀ cid, c.sessions.get? cid = none → c'.sessions.get? cid = none
  /-- Under every other number is received what was received. -/
  received : ∀ mid, mid ≠ b.track.mid →
    (∀ s, c.sessions.get? b.cid = some s → s.slot b.role ≠ some mid) →
      c'.reception? mid = c.reception? mid
  /-- Only sessions, slots and tracks are different. -/
  rest : Redrawn c c'

/-- The sessions after a binding. -/
theorem get?_sessions_bindTrack {b : Binding} (h : c.binds b = true) (cid : Cid) :
    (c.bindTrack b.cid b.track b.role).1.sessions.get? cid =
      (c.sessions.get? cid).map fun s => b.seat cid (s.forget b.track.mid) := by
  obtain ⟨s, slots, previous, slots', tracks, hs, hslots, ha, heq⟩ := bindTrack_of_binds h
  rw [heq]
  simp only [sessions_applyRemoteAv, setRole, Table.get?_modify, get?_sessions_releaseRole,
    get?_sessions_seize, Binding.seat]
  split
  · simp [Function.comp_def, Session.setSlot_setSlot]
  · rfl

/-- The session of the participant, before and after. -/
theorem exists_session_bindTrack {b : Binding} (h : c.binds b = true) :
    ∃ s s', c.sessions.get? b.cid = some s ∧
      (c.bindTrack b.cid b.track b.role).1.sessions.get? b.cid = some s' ∧
      ∀ role, s'.slot role =
        if role = b.role then some b.track.mid
        else if s.slot role = some b.track.mid then none else s.slot role := by
  have hsessions := get?_sessions_bindTrack h b.cid
  obtain ⟨s, -, -, -, -, hs, -⟩ := bindTrack_of_binds h
  rw [hs] at hsessions
  exact ⟨s, _, hs, hsessions, by simp⟩

/-- What is received under a number that was not bound and not given up. -/
theorem Wired.reception?_bindTrack (h : Wired history [] [] c) {b : Binding}
    (hb : c.binds b = true) {mid : Mid} (hne : mid ≠ b.track.mid) :
    (c.bindTrack b.cid b.track b.role).1.reception? mid =
      if (c.sessions.get? b.cid).bind (fun s => s.slot b.role) = some mid then
        (c.reception? mid).map fun r =>
          (r.1.vacated, if r.1.cid.isSome then r.2.idle else r.2)
      else c.reception? mid := by
  have hsessions := get?_sessions_bindTrack hb b.cid
  obtain ⟨s, slots, previous, slots', tracks, hs, hslots, ha, heq⟩ := bindTrack_of_binds hb
  rw [heq, sessions_applyRemoteAv] at hsessions
  rw [heq]
  have hseized := h.seize hslots ha
  have hreleased := hseized.releaseRole b.cid b.role
  have hlost : ((c.seize slots' tracks b.track.mid).sessions.get? b.cid).bind
      (fun s => s.slot b.role) = some mid ↔
        (c.sessions.get? b.cid).bind (fun s => s.slot b.role) = some mid := by
    rw [get?_sessions_seize, hs]
    by_cases hslot : s.slot b.role = some b.track.mid <;> simp [hslot, Ne.symm hne]
  have hset : (((c.seize slots' tracks b.track.mid).releaseRole b.cid b.role).1.setRole b.cid
      b.role (some b.track.mid)).reception? mid = _ :=
    reception?_releaseRole hseized.placed b.cid b.role mid
  simp only [hlost, reception?_seize hslots (h.placed slots hslots) ha, if_neg hne] at hset
  refine Eq.trans (reception?_applyRemoteAv (c := Call.setRole _ b.cid b.role _)
    hreleased.placed fun s' role r hs' hslot hr => ?_) hset
  -- a number that the participant has in another role was not given up, and is switched as it was
  rw [hsessions, hs] at hs'
  cases Option.some.inj hs'
  have hrole : role ≠ b.role ∧ s.slot role = some mid := by
    simp only [Binding.slot_seat, Session.slot_forget, true_and] at hslot
    split at hslot
    · exact absurd (Option.some.inj hslot).symm hne
    · split at hslot
      · cases hslot
      · exact ⟨by assumption, hslot⟩
  have hown : s.slot b.role ≠ some mid := fun hown => hrole.1 (h.held_once hs hs hrole.2 hown).2
  rw [hset, hs, Option.bind_some, if_neg hown] at hr
  obtain ⟨r', b', hr', -, -, -, -, hon⟩ := h.held b.cid s role mid hs hrole.2
  cases hr.symm.trans hr'
  simpa using hon

/-- A track that can be bound is bound, and nothing else is done. -/
theorem Wired.boundAlone (h : Wired history [] [] c) {b : Binding} (hb : c.binds b = true) :
    BoundAlone c b (c.bindTrack b.cid b.track b.role).1 := by
  have hbound := h.bindTrack b
  rw [List.filter_cons_of_pos hb, List.filter_nil] at hbound
  have hsessions := get?_sessions_bindTrack hb
  refine ⟨?held, ?released, ?taken, ?kept, ?absent, ?received, Redrawn.bindTrack c b⟩
  case held =>
    obtain ⟨s, -, -, -, -, hs, -⟩ := bindTrack_of_binds hb
    have hs' := hsessions b.cid
    rw [hs, Option.map_some] at hs'
    have hslot : (b.seat b.cid (s.forget b.track.mid)).slot b.role = some b.track.mid := by simp
    obtain ⟨r, b', hr, hlast, -, -, hc, hon⟩ := hbound.held b.cid _ b.role b.track.mid hs' hslot
    rw [lastBinding?_append, if_pos rfl] at hlast
    cases hlast
    exact ⟨_, r, hs', hslot, hr, hc, hon (by simp)⟩
  case released =>
    intro s old hs hslot hne
    obtain ⟨r, b', hr, -, -, -, hc, -⟩ := h.held b.cid s b.role old hs hslot
    have hr' := h.reception?_bindTrack hb hne
    rw [hs, Option.bind_some, if_pos hslot, hr] at hr'
    exact hbound.free hr' (by simp [Slot.vacated, hc.cid])
  case taken =>
    intro cid s role hs hslot
    have honce : ∀ role', s.slot role' = some b.track.mid ↔ role' = role := fun role' =>
      ⟨fun hslot' => (h.held_once hs hs hslot' hslot).2, fun heq => heq ▸ hslot⟩
    rw [hsessions, hs, ← Session.forget_of_slot_eq honce]
    rfl
  case kept =>
    intro cid s hs hslot
    rw [hsessions, hs, Option.map_some, Session.forget_of_slot_ne hslot]
  case absent =>
    intro cid hs
    rw [hsessions, hs]
    rfl
  case received =>
    intro mid hne hown
    rw [h.reception?_bindTrack hb hne, if_neg]
    intro hslot
    obtain ⟨s, hs, hslot⟩ := Option.bind_eq_some_iff.1 hslot
    exact hown s hs hslot

theorem bindTrack_snd (c : Call) (b : Binding) :
    (c.bindTrack b.cid b.track b.role).2 = c.binds b := by
  cases hb : c.binds b with
  | false => rw [bindTrack_of_binds_eq_false hb]
  | true =>
    obtain ⟨s, slots, previous, slots', tracks, -, -, -, heq⟩ := bindTrack_of_binds hb
    rw [heq]

/-! ## Entries of a list -/

/-- An entry of a list that is bound: the role of the low resolution is given up if the entry
takes its place. -/
theorem bindListed_of_binds {role : SlotRole} {t : CidTrack}
    (hb : c.binds (t.binding role) = true) :
    c.bindListed role t =
      (if role = .hires ∧ t.track.reuse then
        ((c.bindTrack t.cid t.track role).1.releaseRole t.cid .vthumb).1
      else (c.bindTrack t.cid t.track role).1, true) := by
  have hsnd : (c.bindTrack t.cid t.track role).2 = true :=
    (bindTrack_snd c (t.binding role)).trans hb
  rw [bindListed]
  split <;> rename_i heq <;> rw [heq] at hsnd ⊢
  · cases hsnd
  · split <;> rfl

theorem bindListed_of_binds_eq_false {role : SlotRole} {t : CidTrack}
    (hb : c.binds (t.binding role) = false) : c.bindListed role t = (c, false) := by
  have hsame : c.bindTrack t.cid t.track role = (c, false) := bindTrack_of_binds_eq_false hb
  rw [bindListed, hsame]

/-- What a bound entry of a list of high resolution tracks does to the low resolution of its
participant. -/
structure HiresBound (c : Call) (t : CidTrack) (c' : Call) : Prop where
  /-- An entry that takes the place of the low resolution leaves none. -/
  replaced : t.track.reuse = true →
    ∃ s, c'.sessions.get? t.cid = some s ∧ s.slot .vthumb = none ∧ s.slot .hires = some t.track.mid
  /-- The number that carried it is free, unless it carries the high resolution now. -/
  freed : t.track.reuse = true → ∀ s old, c.sessions.get? t.cid = some s →
    s.slot .vthumb = some old → old ≠ t.track.mid → c'.Free old
  /-- Any other entry leaves the low resolution where it was, unless it takes its number. -/
  kept : t.track.reuse = false → ∀ s, c.sessions.get? t.cid = some s →
    ∃ s', c'.sessions.get? t.cid = some s' ∧
      s'.slot .vthumb =
        if s.slot .vthumb = some t.track.mid then none else s.slot .vthumb
  /-- What is received in low resolution is then received as before. -/
  carried : t.track.reuse = false → ∀ s old, c.sessions.get? t.cid = some s →
    s.slot .vthumb = some old → old ≠ t.track.mid → c'.reception? old = c.reception? old
  /-- Other participants are as after the binding alone. -/
  others : ∀ cid, cid ≠ t.cid →
    c'.sessions.get? cid = (c.bindTrack t.cid t.track .hires).1.sessions.get? cid
  /-- So is what is received under all numbers but the one that was freed. -/
  received : ∀ mid, (∀ s, c.sessions.get? t.cid = some s → s.slot .vthumb = some mid →
    mid = t.track.mid) → c'.reception? mid = (c.bindTrack t.cid t.track .hires).1.reception? mid
  /-- Only sessions, slots and tracks are different. -/
  rest : Redrawn c c'

theorem Wired.hiresBound (h : Wired history [] [] c) {t : CidTrack}
    (hb : c.binds (t.binding .hires) = true) : HiresBound c t (c.bindListed .hires t).1 := by
  have halone : BoundAlone c (t.binding .hires) (c.bindTrack t.cid t.track .hires).1 :=
    h.boundAlone hb
  have hbound : Wired _ [] [] (c.bindTrack t.cid t.track .hires).1 := h.bindTrack (t.binding .hires)
  obtain ⟨s, s', hs, hs', hslot⟩ : ∃ s s', c.sessions.get? t.cid = some s ∧
      (c.bindTrack t.cid t.track .hires).1.sessions.get? t.cid = some s' ∧ ∀ role, s'.slot role =
        if role = .hires then some t.track.mid
        else if s.slot role = some t.track.mid then none else s.slot role :=
    exists_session_bindTrack hb
  have hvthumb := hslot .vthumb
  rw [if_neg (by decide)] at hvthumb
  rw [bindListed_of_binds hb]
  generalize hc₁ : (c.bindTrack t.cid t.track .hires).1 = c₁ at halone hbound hs'
  cases hreuse : t.track.reuse with
  | true =>
    simp only [true_and, if_true]
    have hreceived := reception?_releaseRole hbound.placed t.cid .vthumb
    simp only [hs', Option.bind_some] at hreceived
    refine ⟨fun _ => ?replaced, fun _ r old hr hold hne => ?freed, fun h => ?_, fun h => ?_,
      fun cid hcid => ?others, fun mid hmid => ?received, ?rest⟩
    case replaced =>
      exact ⟨s'.setSlot .vthumb none, by rw [get?_sessions_releaseRole, if_pos rfl, hs']; rfl,
        by simp, by simp [hslot]⟩
    case freed =>
      cases hs.symm.trans hr
      rw [hold, if_neg (by simpa using hne)] at hvthumb
      obtain ⟨r, b, hr, -, -, -, hcarries, -⟩ := hbound.held t.cid s' .vthumb old hs' hvthumb
      have hfreed := hreceived old
      rw [if_pos hvthumb, hr] at hfreed
      exact (hbound.releaseRole t.cid .vthumb).free hfreed
        (by simp [Slot.vacated, hcarries.cid])
    case others =>
      rw [get?_sessions_releaseRole, if_neg hcid, hc₁]
    case received =>
      have hne : s'.slot .vthumb ≠ some mid := by
        rw [hvthumb]
        split
        · simp
        · rename_i hother
          exact fun hlow => hother (hmid s hs hlow ▸ hlow)
      rw [hreceived mid, if_neg hne, hc₁]
    case rest => exact halone.rest.trans (Redrawn.releaseRole c₁ t.cid .vthumb)
    all_goals cases hreuse.symm.trans h
  | false =>
    simp only [Bool.false_eq_true, and_false, if_false]
    refine ⟨fun h => ?_, fun h => ?_, fun _ r hr => ?kept, fun _ r old hr hold hne =>
      halone.received old hne fun r' hr' hslot => ?carried, fun _ _ => by rw [hc₁],
      fun _ _ => by rw [hc₁], halone.rest⟩
    case kept =>
      cases hs.symm.trans hr
      exact ⟨s', hs', hvthumb⟩
    case carried =>
      -- a number is had in one role
      cases (h.held_once hr' hr hslot hold).2
    all_goals cases hreuse.symm.trans h

/-! ## In the middle of a command -/

/-- What a command does to sessions and slots, one after the other. -/
inductive RosterMove where
  /-- An answer is taken, but for its tracks. -/
  | meet (w : Surroundings) (answer : Answer)
  /-- A track is bound. -/
  | bind (b : Binding)
  /-- An entry of a list of tracks is bound. -/
  | list (role : SlotRole) (t : CidTrack)
  /-- A participant may speak. -/
  | welcome (cid : Cid) (track : TrackDescriptor)

/-- Does one thing after the other. -/
def move (c : Call) : RosterMove → Call
  | .meet w answer => (c.setRemote w answer.sdp).1.meet answer
  | .bind b => (c.bindTrack b.cid b.track b.role).1
  | .list role t => (c.bindListed role t).1
  | .welcome cid track => c.admitSpeaker cid track

theorem Wired.move (h : Wired history [] [] c) (m : RosterMove) :
    ∃ history', Wired history' [] [] (c.move m) := by
  cases m with
  | meet w answer => exact ⟨_, (h.of_sameMedia (SameMedia.setRemote c w answer.sdp)).meet answer⟩
  | bind b => exact ⟨_, h.bindTrack b⟩
  | list role t =>
    have hbound : Wired _ [] [] (c.bindTrack t.cid t.track role).1 := h.bindTrack (t.binding role)
    rw [Call.move]
    cases hb : c.binds (t.binding role) with
    | false =>
      rw [bindListed_of_binds_eq_false hb]
      exact ⟨_, h⟩
    | true =>
      rw [bindListed_of_binds hb]
      split
      · exact ⟨_, hbound.releaseRole t.cid .vthumb⟩
      · exact ⟨_, hbound⟩
  | welcome cid track => exact ⟨_, h.admitSpeaker cid track⟩

theorem Wired.moves (h : Wired history [] [] c) (moves : List RosterMove) :
    ∃ history', Wired history' [] [] (moves.foldl Call.move c) := by
  induction moves generalizing history c with
  | nil => exact ⟨history, h⟩
  | cons m rest ih =>
    obtain ⟨_, hm⟩ := h.move m
    exact ih hm

/-! ## The theorem -/

/-- Binding touches nothing but what it is about. -/
structure BindsAlone (c : Call) : Prop where
  /-- It says whether there are such a participant and such a slot. -/
  bound_iff : ∀ b : Binding, (c.bindTrack b.cid b.track b.role).2 = true ↔
    (c.sessions.get? b.cid).isSome ∧ (c.recvSlot? b.track.mid).isSome
  /-- Where there are not, nothing changes. -/
  refused : ∀ b : Binding, (c.bindTrack b.cid b.track b.role).2 = false →
    (c.bindTrack b.cid b.track b.role).1 = c
  /-- Where there are, the track is bound and nothing else is done. -/
  bound : ∀ b : Binding, (c.bindTrack b.cid b.track b.role).2 = true →
    BoundAlone c b (c.bindTrack b.cid b.track b.role).1
  /-- An entry of a list is a binding, but for high resolution that takes the place of low. -/
  listed : ∀ role t, ¬(role = .hires ∧ t.track.reuse = true) →
    c.bindListed role t = c.bindTrack t.cid t.track role
  /-- What a high resolution entry does to the low resolution. -/
  hires : ∀ t, (c.bindTrack t.cid t.track .hires).2 = true →
    (c.bindListed .hires t).2 = true ∧ HiresBound c t (c.bindListed .hires t).1
  /-- An entry that cannot be bound changes nothing. -/
  unlisted : ∀ role t, (c.bindTrack t.cid t.track role).2 = false →
    c.bindListed role t = (c, false)

theorem Wired.bindsAlone (h : Wired history [] [] c) : BindsAlone c where
  bound_iff b := by
    simp [bindTrack_snd, binds, Table.contains]
  refused b hb := by
    rw [bindTrack_of_binds_eq_false ((bindTrack_snd c b).symm.trans hb)]
  bound b hb := h.boundAlone ((bindTrack_snd c b).symm.trans hb)
  listed role t hnot := by
    rw [Call.bindListed]
    split <;> rename_i heq
    · exact heq.symm
    · rw [if_neg hnot]
      exact heq.symm
  hires t hb := by
    have hbinds := (bindTrack_snd c (t.binding .hires)).symm.trans hb
    exact ⟨by rw [bindListed_of_binds hbinds], h.hiresBound hbinds⟩
  unlisted role t hb :=
    bindListed_of_binds_eq_false ((bindTrack_snd c (t.binding role)).symm.trans hb)

/-- After every run, and in the middle of every command, binding touches nothing but what it is
about. -/
theorem untouched_along_runs (id : CallId) (chat : ChatId) (us : UserId) (config : CallConfig)
    (secret : IdentitySecret) (callKey : Option MediaKey)
    (steps : List (Surroundings × CallStep)) (moves : List RosterMove) :
    BindsAlone (moves.foldl move ((new id chat us config secret callKey).run steps)) := by
  obtain ⟨_, h⟩ := ((wired_new id chat us config secret callKey).run steps).moves moves
  exact h.bindsAlone

-- The number that went from one participant to another goes back, in another role.
example :
    let c := (new ⟨"call"⟩ ⟨"chat"⟩ ⟨"U0"⟩ ⟨1, 16, 1, 1, none⟩ (Vector.replicate 32 1) none).run
      handedOver
    let after := (c.bindTrack 9 ⟨3, ⟨9⟩, false⟩ .audio).1
    (c.bindTrack 9 ⟨7, ⟨9⟩, false⟩ .audio).2 = false ∧
      (after.sessions.get? 9).map (fun s => s.slot .audio) = some (some 3) ∧
      (after.sessions.get? 10).map (fun s => s.slot .hires) = some none := by
  decide +kernel

end Call
end GroupCall
