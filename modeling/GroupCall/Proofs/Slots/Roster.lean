/-
# Operations on sessions and slots keep them in step

Each operation of the roster is described by what it makes of the agreement between sessions
and slots.  What is done to a single slot changes what is received under its number and
under no other; what is done to a session concerns its own roles.
-/
import GroupCall.Proofs.Slots.Wiring

namespace GroupCall
namespace Call

variable {c : Call} {history : List Binding} {loose : List Mid}
  {stale : List (Cid × SlotRole)}

/-! ## Switching tracks -/

@[simp] theorem sessions_applyRole (c : Call) (s : Session) (role : SlotRole) :
    (c.applyRole s role).sessions = c.sessions := by
  rw [applyRole]
  split <;> rfl

/-- Switching the track of a receive slot. -/
theorem reception?_switch {slots : Slots} (hs : c.slots = some slots)
    (hp : slots.Placed c.engine.tracks) {mid : Mid} {slot : Slot}
    (hm : slots.recv.get? mid = some slot) (on : Bool) (y : Mid) :
    (c.switch slot on).reception? y =
      if y = mid then (c.reception? mid).map fun r => (r.1, { r.2 with enabled := on })
      else c.reception? y := by
  simp only [reception?, switch, withTracks, hs, Option.bind_some, Slots.reception?,
    MediaTracks.get?_switch]
  split
  · rename_i hy
    simp [hy, hm, Function.comp_def]
  · rename_i hy
    cases hget : slots.recv.get? y with
    | none => rfl
    | some slot' =>
      have hne : slot'.track ≠ slot.track := fun heq => hy (hp.track_inj hget hm heq)
      simp [hne]

/-- Switching one of our own tracks changes nothing that is received. -/
theorem reception?_switch_own {slots : Slots} (hs : c.slots = some slots)
    (hp : slots.Placed c.engine.tracks) {own : Slot} (ho : own ∈ slots.sends) (on : Bool)
    (y : Mid) : (c.switch own on).reception? y = c.reception? y := by
  simp only [reception?, switch, withTracks, hs, Option.bind_some, Slots.reception?,
    MediaTracks.get?_switch]
  cases hget : slots.recv.get? y with
  | none => rfl
  | some slot => simp [hp.ne_send hget ho]

theorem placed_switch (hp : ∀ s, c.slots = some s → s.Placed c.engine.tracks) (slot : Slot)
    (on : Bool) (s : Slots) (hs : (c.switch slot on).slots = some s) :
    s.Placed (c.switch slot on).engine.tracks :=
  (hp s hs).congr (MediaTracks.build_switch _ _ _)

namespace Wired

theorem switch_own (h : Wired history loose stale c) {slots : Slots} (hs : c.slots = some slots)
    {own : Slot} (ho : own ∈ slots.sends) (on : Bool) :
    Wired history loose stale (c.switch own on) :=
  h.congr rfl rfl (placed_switch h.placed own on)
    (reception?_switch_own hs (h.placed slots hs) ho on)

theorem applyLocalAv (h : Wired history loose stale c) :
    Wired history loose stale c.applyLocalAv := by
  rw [Call.applyLocalAv]
  split
  · exact h
  · rename_i slots hs
    have haudio : slots.audio ∈ slots.sends := by simp [Slots.sends]
    have hvthumb : slots.vthumb ∈ slots.sends := by simp [Slots.sends]
    have hhires : slots.hires ∈ slots.sends := by simp [Slots.sends]
    exact ((h.switch_own hs haudio _).switch_own hs hvthumb _).switch_own hs hhires _

/-- Fewer exceptions are needed than were made. -/
theorem mono_stale (h : Wired history loose stale c) {stale' : List (Cid × SlotRole)}
    (hsub : ∀ x ∈ stale, x ∈ stale') : Wired history loose stale' c where
  placed := h.placed
  enrolled := h.enrolled
  held cid s role mid hs hslot := by
    obtain ⟨r, b, hr, hb, hbc, hbr, hc, hon⟩ := h.held cid s role mid hs hslot
    exact ⟨r, b, hr, hb, hbc, hbr, hc, fun hx => hon fun hmem => hx (hsub _ hmem)⟩
  vacant := h.vacant
  owned := h.owned
  unheld := h.unheld

/-- A number is had by one participant in one role: the last binding says which. -/
theorem held_once (h : Wired history loose stale c) {cid cid' : Cid} {s s' : Session}
    {role role' : SlotRole} {mid : Mid} (hs : c.sessions.get? cid = some s)
    (hs' : c.sessions.get? cid' = some s') (hslot : s.slot role = some mid)
    (hslot' : s'.slot role' = some mid) : cid = cid' ∧ role = role' := by
  obtain ⟨_, b, _, hb, hbc, hbr, _⟩ := h.held cid s role mid hs hslot
  obtain ⟨_, b', _, hb', hbc', hbr', _⟩ := h.held cid' s' role' mid hs' hslot'
  cases hb.symm.trans hb'
  exact ⟨hbc.symm.trans hbc', hbr.symm.trans hbr'⟩

/-- Switching the track of a role settles it. -/
theorem applyRole (h : Wired history loose stale c) {cid : Cid} {s : Session}
    (hs : c.sessions.get? cid = some s) (role : SlotRole) (stale' : List (Cid × SlotRole))
    (hsub : ∀ x ∈ stale, x = (cid, role) ∨ x ∈ stale') :
    Wired history loose stale' (c.applyRole s role) := by
  rw [Call.applyRole]
  split
  · rename_i hnone
    -- the role has no slot, so it is not among the held ones
    refine { h with held := fun cid' s' role' mid hs' hslot => ?_ }
    obtain ⟨r, b, hr, hb, hbc, hbr, hc, hon⟩ := h.held cid' s' role' mid hs' hslot
    refine ⟨r, b, hr, hb, hbc, hbr, hc, fun hx => hon fun hmem => ?_⟩
    rcases hsub _ hmem with heq | hmem'
    · cases heq
      cases hs.symm.trans hs'
      rw [hslot, Option.bind_some] at hnone
      obtain ⟨slots, hslots, hr'⟩ := Option.bind_eq_some_iff.1 hr
      obtain ⟨slot, hget, -⟩ := Option.bind_eq_some_iff.1 hr'
      simp [recvSlot?, hslots, hget] at hnone
    · exact hx hmem'
  · rename_i slot hsome
    obtain ⟨mid, hmid, hslot⟩ := Option.bind_eq_some_iff.1 hsome
    obtain ⟨slots, hslots, hget⟩ := Option.bind_eq_some_iff.1 hslot
    have hrec := reception?_switch hslots (h.placed slots hslots) hget (role.isSent s.av)
    have hat : ∀ y r, (c.switch slot (role.isSent s.av)).reception? y = some r →
        ∃ r', c.reception? y = some r' ∧ r.1 = r'.1 ∧ r.2.crypto = r'.2.crypto ∧
          r.2.sink = r'.2.sink ∧
          r.2.enabled = if y = mid then role.isSent s.av else r'.2.enabled := by
      intro y r hr
      rw [hrec] at hr
      split at hr
      · rename_i hy
        obtain ⟨r', hr', rfl⟩ := Option.map_eq_some_iff.1 hr
        exact ⟨r', by rw [hy]; exact hr', rfl, rfl, rfl, by simp [hy]⟩
      · rename_i hy
        exact ⟨r, hr, rfl, rfl, rfl, by simp [hy]⟩
    refine ⟨placed_switch h.placed slot _, h.enrolled, ?held, ?vacant, ?owned, h.unheld⟩
    case held =>
      intro cid' s' role' mid' hs' hslot'
      obtain ⟨r, b, hr, hb, hbc, hbr, hc, hon⟩ := h.held cid' s' role' mid' hs' hslot'
      by_cases hy : mid' = mid
      · subst hy
        obtain ⟨rfl, rfl⟩ := h.held_once hs' hs hslot' hmid
        cases hs.symm.trans hs'
        refine ⟨(r.1, { r.2 with enabled := role'.isSent s.av }), b, ?_, hb, hbc, hbr,
          hc.congr rfl rfl rfl rfl rfl, fun _ => rfl⟩
        rw [hrec, if_pos rfl, hr]
        rfl
      · refine ⟨r, b, ?_, hb, hbc, hbr, hc, fun hx => hon fun hmem => ?_⟩
        · rw [hrec, if_neg hy, hr]
        · rcases hsub _ hmem with heq | hmem'
          · cases heq
            cases hs.symm.trans hs'
            exact hy (Option.some.inj (hslot'.symm.trans hmid))
          · exact hx hmem'
    case vacant =>
      intro y r hr hcid
      obtain ⟨r', hr', h1, h2, h3, h4⟩ := hat y r hr
      rw [h1] at hcid
      obtain ⟨v1, v2, v3, v4⟩ := h.vacant y r' hr' hcid
      refine ⟨by rw [h1, v1], by rw [h2, v2], by rw [h3, v3], ?_⟩
      rw [h4, if_neg, v4]
      rintro rfl
      -- the number is had, so its slot is bound
      obtain ⟨r'', b, hr'', -, -, -, hc, -⟩ := h.held cid s role y hs hmid
      cases hr'.symm.trans hr''
      rw [hc.cid] at hcid
      cases hcid
    case owned =>
      intro y r cid' hr hcid hl
      obtain ⟨r', hr', h1, -⟩ := hat y r hr
      exact h.owned y r' cid' hr' (by rw [← h1, hcid]) hl

theorem applyRemoteAv (h : Wired history loose stale c) (cid : Cid)
    (hsub : ∀ x ∈ stale, x.1 = cid) : Wired history loose [] (c.applyRemoteAv cid) := by
  rw [Call.applyRemoteAv]
  split
  · rename_i hnone
    refine { h with held := fun cid' s' role' mid hs' hslot => ?_ }
    obtain ⟨r, b, hr, hb, hbc, hbr, hc, hon⟩ := h.held cid' s' role' mid hs' hslot
    refine ⟨r, b, hr, hb, hbc, hbr, hc, fun _ => hon fun hmem => ?_⟩
    rw [← hsub _ hmem, hs'] at hnone
    cases hnone
  · rename_i s hs
    have hall : ∀ x ∈ stale, x ∈ [(cid, SlotRole.vthumb), (cid, .hires), (cid, .audio)] := by
      rintro ⟨y, role⟩ hx
      have hy : y = cid := hsub _ hx
      subst hy
      cases role <;> simp
    have h1 := (h.mono_stale hall).applyRole hs .vthumb [(cid, .hires), (cid, .audio)] (by simp)
    have h2 := h1.applyRole (s := s) (by simpa using hs) .hires [(cid, .audio)] (by simp)
    exact h2.applyRole (by simpa using hs) .audio [] (by simp)

end Wired

/-! ## Releasing slots -/

@[simp] theorem sessions_onSlots (c : Call) (f : Slots → MediaTracks → Slots × MediaTracks) :
    (c.onSlots f).sessions = c.sessions := by
  rw [onSlots]
  split <;> rfl

@[simp] theorem nextSerial_onSlots (c : Call) (f : Slots → MediaTracks → Slots × MediaTracks) :
    (c.onSlots f).nextSerial = c.nextSerial := by
  rw [onSlots]
  split <;> rfl

theorem reception?_releaseSlot (hp : ∀ s, c.slots = some s → s.Placed c.engine.tracks)
    (mid y : Mid) :
    (c.releaseSlot mid).reception? y =
      if y = mid then (c.reception? mid).map fun r =>
        (r.1.vacated, if r.1.cid.isSome then r.2.idle else r.2)
      else c.reception? y := by
  rw [releaseSlot, onSlots]
  split
  · rename_i hs
    simp [reception?, hs]
  · rename_i slots hs
    refine (Slots.reception?_release (hp slots hs) mid y).trans ?_
    simp [reception?, hs]

theorem placed_releaseSlot (hp : ∀ s, c.slots = some s → s.Placed c.engine.tracks) (mid : Mid)
    (s : Slots) (hs : (c.releaseSlot mid).slots = some s) :
    s.Placed (c.releaseSlot mid).engine.tracks := by
  rw [releaseSlot, onSlots] at hs ⊢
  split at hs
  · rename_i hnone
    rw [hnone] at hs
    cases hs
  · rename_i slots hslots
    cases Option.some.inj hs
    exact (hp slots hslots).release mid

namespace Wired

/-- Releasing a loose slot settles it. -/
theorem releaseSlot {mid : Mid} (h : Wired history (mid :: loose) stale c) :
    Wired history loose stale (c.releaseSlot mid) := by
  have hrec := reception?_releaseSlot h.placed mid
  refine ⟨placed_releaseSlot h.placed mid, ?enrolled, ?held, ?vacant, ?owned, ?unheld⟩
  case enrolled =>
    simpa [Call.releaseSlot] using h.enrolled
  case held =>
    intro cid s role y hs hslot
    rw [Call.releaseSlot, sessions_onSlots] at hs
    obtain ⟨r, b, hr, hrest⟩ := h.held cid s role y hs hslot
    -- nobody has the loose slot, so what is held is another one
    have hne : y ≠ mid := by
      rintro rfl
      exact h.unheld y List.mem_cons_self cid s role hs hslot
    exact ⟨r, b, by rw [hrec, if_neg hne, hr], hrest⟩
  case vacant =>
    intro y r hr hcid
    rw [hrec] at hr
    split at hr
    · obtain ⟨r', hr', rfl⟩ := Option.map_eq_some_iff.1 hr
      by_cases hc : r'.1.cid.isSome = true
      · simp [Slot.vacated, hc, MediaTrack.idle]
      · have hv := h.vacant mid r' hr' (by simpa using hc)
        simpa [Slot.vacated, hc] using hv
    · exact h.vacant y r hr hcid
  case owned =>
    intro y r cid hr hcid hl
    rw [hrec] at hr
    split at hr
    · obtain ⟨r', hr', rfl⟩ := Option.map_eq_some_iff.1 hr
      by_cases hc : r'.1.cid.isSome = true
      · simp [Slot.vacated, hc] at hcid
      · simp only [Slot.vacated, if_neg hc] at hcid
        simp [hcid] at hc
    · rename_i hne
      rw [Call.releaseSlot, sessions_onSlots]
      exact h.owned y r cid hr hcid (by simp [hne, hl])
  case unheld =>
    intro y hy cid s role hs
    rw [Call.releaseSlot, sessions_onSlots] at hs
    exact h.unheld y (List.mem_cons_of_mem _ hy) cid s role hs

theorem foldl_releaseSlot (mids : List Mid) (h : Wired history (mids ++ loose) stale c) :
    Wired history loose stale (mids.foldl Call.releaseSlot c) := by
  induction mids generalizing c with
  | nil => exact h
  | cons mid rest ih => exact ih h.releaseSlot

/-! ## Changing sessions -/

/-- A session changes, but not who it is nor which slots it has; roles may become stale. -/
theorem modify (h : Wired history loose stale c) (cid : Cid) {f : Session → Session}
    (hcid : ∀ s, (f s).cid = s.cid) (hserial : ∀ s, (f s).serial = s.serial)
    (hslot : ∀ s role, (f s).slot role = s.slot role) (stale' : List (Cid × SlotRole))
    (hav : ∀ role s, (cid, role) ∉ stale' → role.isSent (f s).av = role.isSent s.av)
    (hsub : ∀ x ∈ stale, x ∈ stale') :
    Wired history loose stale' { c with sessions := c.sessions.modify cid f } := by
  have hback : ∀ y s', (c.sessions.modify cid f).get? y = some s' →
      ∃ s, c.sessions.get? y = some s ∧ s'.serial = s.serial ∧
        (∀ role, s'.slot role = s.slot role) ∧
        ∀ role, (y, role) ∉ stale' → role.isSent s'.av = role.isSent s.av := by
    intro y s' hs'
    rw [Table.get?_modify] at hs'
    split at hs'
    · rename_i hy
      obtain ⟨s, hs, rfl⟩ := Option.map_eq_some_iff.1 hs'
      exact ⟨s, hs, hserial s, hslot s, fun role hx => hav role s (hy ▸ hx)⟩
    · exact ⟨s', hs', rfl, fun _ => rfl, fun _ _ => rfl⟩
  refine ⟨h.placed, h.enrolled.modify cid hcid hserial, ?held, h.vacant, ?owned, ?unheld⟩
  case held =>
    intro y s' role mid hs' hmid
    obtain ⟨s, hs, hn, hsl, hon'⟩ := hback y s' hs'
    obtain ⟨r, b, hr, hb, hbc, hbr, hc, hon⟩ := h.held y s role mid hs (by rw [← hsl, hmid])
    refine ⟨r, b, hr, hb, hbc, hbr, hc.congr rfl rfl rfl rfl hn, fun hx => ?_⟩
    rw [hon' role hx]
    exact hon fun hmem => hx (hsub _ hmem)
  case owned =>
    intro mid r y hr hcid' hl
    obtain ⟨s, role, hs, hsl⟩ := h.owned mid r y hr hcid' hl
    by_cases hy : y = cid
    · subst hy
      exact ⟨f s, role, by simp [hs], by rw [hslot, hsl]⟩
    · exact ⟨s, role, by simp [hy, hs], hsl⟩
  case unheld =>
    intro mid hmid y s' role hs'
    obtain ⟨s, hs, -, hsl, -⟩ := hback y s' hs'
    rw [hsl]
    exact h.unheld mid hmid y s role hs

theorem setAv (h : Wired history loose stale c) (cid : Cid) (av : AvFlags) :
    Wired history loose (stale ++ SlotRole.all.map fun role => (cid, role)) (c.setAv cid av) := by
  refine h.modify cid ?_ ?_ ?_ _ ?_ ?_
  · exact fun _ => rfl
  · exact fun _ => rfl
  · rintro s (_ | _ | _) <;> rfl
  · intro role s hx
    cases role <;> simp [SlotRole.all] at hx
  · exact fun x hx => List.mem_append_left _ hx

theorem setSpeakRequested (h : Wired history loose stale c) (cid : Cid) (requested : Bool) :
    Wired history loose stale (c.setSpeakRequested cid requested) := by
  refine h.modify cid ?_ ?_ ?_ _ ?_ (fun _ hx => hx)
  · exact fun _ => rfl
  · exact fun _ => rfl
  · rintro s (_ | _ | _) <;> rfl
  · exact fun _ _ _ => rfl

/-- A participant changed what it sends. -/
theorem setAv_applyRemoteAv (h : Wired history loose [] c) (cid : Cid) (av : AvFlags) :
    Wired history loose [] ((c.setAv cid av).applyRemoteAv cid) :=
  (h.setAv cid av).applyRemoteAv cid (by simp)

/-- A role is taken from a session: the number that it had is loose. -/
theorem setRole_none (h : Wired history loose stale c) {cid : Cid} {s : Session} {role : SlotRole}
    {mid : Mid} (hs : c.sessions.get? cid = some s) (hslot : s.slot role = some mid) :
    Wired history (mid :: loose) stale (c.setRole cid role none) := by
  have hback : ∀ y s', (c.setRole cid role none).sessions.get? y = some s' →
      ∃ s₀, c.sessions.get? y = some s₀ ∧ s'.serial = s₀.serial ∧ s'.av = s₀.av ∧
        ∀ role', s'.slot role' = if y = cid ∧ role' = role then none else s₀.slot role' := by
    intro y s' hs'
    simp only [Call.setRole, Table.get?_modify] at hs'
    split at hs'
    · rename_i hy
      obtain ⟨s₀, hs₀, rfl⟩ := Option.map_eq_some_iff.1 hs'
      exact ⟨s₀, hs₀, by simp, by simp, by simp [hy]⟩
    · rename_i hy
      exact ⟨s', hs', rfl, rfl, by simp [hy]⟩
  refine ⟨h.placed, h.enrolled.modify cid (by simp) (by simp), ?held, h.vacant, ?owned, ?unheld⟩
  case held =>
    intro y s' role' mid' hs' hslot'
    obtain ⟨s₀, hs₀, hn, hav, hsl⟩ := hback y s' hs'
    rw [hsl] at hslot'
    split at hslot'
    · cases hslot'
    · obtain ⟨r, b, hr, hb, hbc, hbr, hc, hon⟩ := h.held y s₀ role' mid' hs₀ hslot'
      exact ⟨r, b, hr, hb, hbc, hbr, hc.congr rfl rfl rfl rfl hn, by rw [hav]; exact hon⟩
  case owned =>
    intro y r cid' hr hcid hl
    simp only [List.mem_cons, not_or] at hl
    obtain ⟨s₀, role', hs₀, hslot'⟩ := h.owned y r cid' hr hcid hl.2
    by_cases hc : cid' = cid
    · subst hc
      cases hs.symm.trans hs₀
      -- the slot is not the one that was taken, so neither is the role
      have hne : role' ≠ role := by
        rintro rfl
        exact hl.1 (Option.some.inj (hslot'.symm.trans hslot))
      exact ⟨s.setSlot role none, role', by simp [Call.setRole, hs], by simp [hne, hslot']⟩
    · exact ⟨s₀, role', by simp [Call.setRole, hc, hs₀], hslot'⟩
  case unheld =>
    intro y hy cid' s' role' hs' hslot'
    obtain ⟨s₀, hs₀, -, -, hsl⟩ := hback cid' s' hs'
    rw [hsl] at hslot'
    split at hslot'
    · cases hslot'
    · rename_i hne
      rcases List.mem_cons.1 hy with rfl | hy
      · -- the last binding of the number named one participant and one role
        exact hne (h.held_once hs₀ hs hslot' hslot)
      · exact h.unheld y hy cid' s₀ role' hs₀ hslot'

theorem releaseRole (h : Wired history loose stale c) (cid : Cid) (role : SlotRole) :
    Wired history loose stale (c.releaseRole cid role).1 := by
  rw [Call.releaseRole]
  split
  · exact h
  · rename_i s hs
    split
    · exact h
    · rename_i mid hslot
      exact (h.setRole_none hs hslot).releaseSlot

theorem releaseRoles (h : Wired history loose stale c) (role : SlotRole) (cids : List Cid) :
    Wired history loose stale (c.releaseRoles role cids) :=
  h.foldl (fun _ cid h => h.releaseRole cid role) cids

/-! ## Sessions come and go -/

/-- Without its session, the slots of a participant are loose. -/
theorem erase (h : Wired history loose stale c) {cid : Cid} {s : Session}
    (hs : c.sessions.get? cid = some s) :
    Wired history (s.mids ++ loose) stale { c with sessions := c.sessions.erase cid } := by
  have hback : ∀ y s', (c.sessions.erase cid).get? y = some s' →
      y ≠ cid ∧ c.sessions.get? y = some s' := by
    intro y s' hs'
    rw [Table.get?_erase] at hs'
    split at hs'
    · cases hs'
    · exact ⟨by assumption, hs'⟩
  refine ⟨h.placed, h.enrolled.erase cid, ?held, h.vacant, ?owned, ?unheld⟩
  case held =>
    intro y s' role mid hs' hslot
    exact h.held y s' role mid (hback y s' hs').2 hslot
  case owned =>
    intro mid r y hr hcid hl
    simp only [List.mem_append, Session.mem_mids_iff, not_or, not_exists] at hl
    obtain ⟨s', role, hs', hslot⟩ := h.owned mid r y hr hcid hl.2
    have hy : y ≠ cid := by
      rintro rfl
      cases hs.symm.trans hs'
      exact hl.1 role hslot
    exact ⟨s', role, by simp [hy, hs'], hslot⟩
  case unheld =>
    intro mid hmid y s' role hs' hslot
    obtain ⟨hy, hs'⟩ := hback y s' hs'
    rcases List.mem_append.1 hmid with hmid | hmid
    · obtain ⟨role', hrole'⟩ := Session.mem_mids_iff.1 hmid
      exact hy (h.held_once hs' hs hslot hrole').1
    · exact h.unheld mid hmid y s' role hs' hslot

theorem removeSession (h : Wired history loose stale c) (cid : Cid) :
    Wired history loose stale (c.removeSession cid) := by
  rw [Call.removeSession]
  split
  · exact h
  · rename_i s hs
    exact ((h.erase hs).foldl_releaseSlot s.mids).of_sameMedia (SameMedia.tell _ _)

theorem clearSessions (h : Wired history loose stale c) :
    Wired history loose stale c.clearSessions :=
  h.foldl (fun _ cid h => h.removeSession cid) c.sessions.keys

/-- A new session has no slots yet. -/
theorem insert (h : Wired history loose stale c) {s : Session} (hn : s.serial = c.nextSerial)
    (hnew : c.sessions.get? s.cid = none) (hslots : ∀ role, s.slot role = none) :
    Wired history loose stale
      { c with sessions := c.sessions.insert s.cid s, nextSerial := c.nextSerial + 1 } := by
  have hback : ∀ y s' role mid, (c.sessions.insert s.cid s).get? y = some s' →
      s'.slot role = some mid → c.sessions.get? y = some s' := by
    intro y s' role mid hs' hslot
    rw [Table.get?_insert] at hs'
    split at hs'
    · cases hs'
      rw [hslots] at hslot
      cases hslot
    · exact hs'
  refine ⟨h.placed, h.enrolled.insert hn, ?held, h.vacant, ?owned, ?unheld⟩
  case held =>
    intro y s' role mid hs' hslot
    exact h.held y s' role mid (hback y s' role mid hs' hslot) hslot
  case owned =>
    intro mid r y hr hcid hl
    obtain ⟨s', role, hs', hslot⟩ := h.owned mid r y hr hcid hl
    have hy : y ≠ s.cid := by
      rintro rfl
      rw [hnew] at hs'
      cases hs'
    exact ⟨s', role, by simp [hy, hs'], hslot⟩
  case unheld =>
    intro mid hmid y s' role hs' hslot
    exact h.unheld mid hmid y s' role (hback y s' role mid hs' hslot) hslot

theorem addSession (h : Wired history loose [] c) (peer : PeerInfo) :
    Wired history loose [] (c.addSession peer).1 := by
  rw [Call.addSession]
  split
  · split
    · exact h
    · exact ((h.setAv peer.cid peer.av).of_sameMedia (SameMedia.tell _ _)).applyRemoteAv peer.cid
        (by simp)
  · rename_i hnone
    exact (h.of_sameMedia (SameMedia.tell c (.sessionAdded peer.cid peer.userId))).insert
      (s := .new c.nextSerial peer.cid peer.userId peer.av c.config.keyCapacity) rfl hnone (by simp)

end Wired

/-! ## Binding -/

/-- The call after one of its slots was assigned anew, and taken from every session. -/
def seize (c : Call) (slots : Slots) (tracks : MediaTracks) (mid : Mid) : Call :=
  ({ c with slots := some slots }.withTracks tracks).forgetSlot mid

theorem get?_sessions_seize (c : Call) (slots : Slots) (tracks : MediaTracks) (mid : Mid)
    (cid : Cid) :
    (c.seize slots tracks mid).sessions.get? cid =
      (c.sessions.get? cid).map fun s => s.forget mid :=
  Table.get?_map c.sessions (fun s => s.forget mid) cid

/-- Under the number of the slot the participant is received, under others nothing changes. -/
theorem reception?_seize {slots slots' : Slots} {tracks : MediaTracks} {mid : Mid} {cid : Cid}
    {iv : InitVector} {session : Nat} {previous : Option Cid} (hs : c.slots = some slots)
    (hp : slots.Placed c.engine.tracks)
    (ha : slots.assign mid cid iv session c.engine.tracks = some (previous, slots', tracks))
    (y : Mid) :
    (c.seize slots' tracks mid).reception? y =
      if y = mid then (c.reception? mid).map fun r =>
        ({ r.1 with cid := some cid, iv := some iv },
          r.2.receiving iv session (if r.1.cid = some cid then r.2.sink else some cid))
      else c.reception? y := by
  refine (Slots.reception?_assign hp ha y).trans ?_
  simp only [reception?, hs, Option.bind_some]

namespace Wired

/-- A slot is taken from whoever has it and carries a participant now, who does not have it
yet. -/
theorem seize (h : Wired history loose stale c) {slots slots' : Slots} {tracks : MediaTracks}
    {mid : Mid} {cid : Cid} {iv : InitVector} {session : Nat} {previous : Option Cid}
    (hs : c.slots = some slots)
    (ha : slots.assign mid cid iv session c.engine.tracks = some (previous, slots', tracks)) :
    Wired history (mid :: loose) stale (c.seize slots' tracks mid) := by
  have hrec := reception?_seize hs (h.placed slots hs) ha
  have hback : ∀ y s', (c.seize slots' tracks mid).sessions.get? y = some s' →
      ∃ s, c.sessions.get? y = some s ∧ s' = s.forget mid := by
    intro y s' hs'
    rw [get?_sessions_seize] at hs'
    obtain ⟨s, hs, rfl⟩ := Option.map_eq_some_iff.1 hs'
    exact ⟨s, hs, rfl⟩
  refine ⟨?placed, ?enrolled, ?held, ?vacant, ?owned, ?unheld⟩
  case placed =>
    rintro s hs'
    cases Option.some.inj hs'
    exact (h.placed slots hs).assign ha
  case enrolled =>
    refine h.enrolled.map (h.enrolled.sorted.map _) fun y s' hs' => ?_
    obtain ⟨s, hs, rfl⟩ := hback y s' hs'
    exact ⟨s, hs, by simp, by simp⟩
  case held =>
    intro y s' role y' hs' hslot
    obtain ⟨s, hs, rfl⟩ := hback y s' hs'
    rw [Session.slot_forget] at hslot
    split at hslot
    · cases hslot
    · rename_i hne
      have hy : y' ≠ mid := by
        rintro rfl
        exact hne hslot
      obtain ⟨r, b, hr, hb, hbc, hbr, hc, hon⟩ := h.held y s role y' hs hslot
      exact ⟨r, b, by rw [hrec, if_neg hy, hr], hb, hbc, hbr,
        hc.congr rfl rfl rfl rfl (Session.serial_forget s mid),
        by rw [Session.av_forget]; exact hon⟩
  case vacant =>
    intro y r hr hcid
    rw [hrec] at hr
    split at hr
    · obtain ⟨r', -, rfl⟩ := Option.map_eq_some_iff.1 hr
      cases hcid
    · exact h.vacant y r hr hcid
  case owned =>
    intro y r cid' hr hcid hl
    simp only [List.mem_cons, not_or] at hl
    rw [hrec, if_neg hl.1] at hr
    obtain ⟨s, role, hs', hslot⟩ := h.owned y r cid' hr hcid hl.2
    refine ⟨s.forget mid, role, by rw [get?_sessions_seize, hs']; rfl, ?_⟩
    rw [Session.slot_forget, hslot, if_neg]
    exact fun heq => hl.1 (Option.some.inj heq)
  case unheld =>
    intro y hy cid' s' role hs' hslot
    obtain ⟨s, hs, rfl⟩ := hback cid' s' hs'
    rw [Session.slot_forget] at hslot
    split at hslot
    · cases hslot
    · rcases List.mem_cons.1 hy with rfl | hy
      · contradiction
      · exact h.unheld y hy cid' s role hs hslot

/-- A participant is given a loose slot that carries it, in a role without one. -/
theorem setRole_some {b : Binding} (h : Wired history [b.track.mid] [] c) {s : Session}
    (hs : c.sessions.get? b.cid = some s) (hnone : s.slot b.role = none)
    (hr : ∃ r, c.reception? b.track.mid = some r ∧ Carries r b s) :
    Wired (history ++ [b]) [] [(b.cid, b.role)]
      (c.setRole b.cid b.role (some b.track.mid)) := by
  have hback : ∀ y s', (c.setRole b.cid b.role (some b.track.mid)).sessions.get? y = some s' →
      ∃ s₀, c.sessions.get? y = some s₀ ∧ s'.serial = s₀.serial ∧ s'.av = s₀.av ∧
        ∀ role, s'.slot role =
          if y = b.cid ∧ role = b.role then some b.track.mid else s₀.slot role := by
    intro y s' hs'
    simp only [Call.setRole, Table.get?_modify] at hs'
    split at hs'
    · rename_i hy
      obtain ⟨s₀, hs₀, rfl⟩ := Option.map_eq_some_iff.1 hs'
      exact ⟨s₀, hs₀, by simp, by simp, by simp [hy]⟩
    · rename_i hy
      exact ⟨s', hs', rfl, rfl, by simp [hy]⟩
  refine ⟨h.placed, h.enrolled.modify b.cid (by simp) (by simp), ?held, h.vacant, ?owned, ?unheld⟩
  case held =>
    intro y s' role mid hs' hslot
    obtain ⟨s₀, hs₀, hn, hav, hsl⟩ := hback y s' hs'
    rw [hsl] at hslot
    rw [lastBinding?_append]
    split at hslot
    · -- the role that was given the slot: the new binding is the last one of its number
      rename_i hyr
      obtain ⟨rfl, rfl⟩ := hyr
      cases Option.some.inj hslot
      cases hs.symm.trans hs₀
      obtain ⟨r, hr, hc⟩ := hr
      exact ⟨r, b, hr, if_pos rfl, rfl, rfl, hc.congr rfl rfl rfl rfl hn, by simp⟩
    · -- any other role has another number, of which the last binding is as before
      have hne : b.track.mid ≠ mid := by
        rintro rfl
        exact h.unheld _ List.mem_cons_self y s₀ role hs₀ hslot
      obtain ⟨r, b', hr', hb, hbc, hbr, hc, hon⟩ := h.held y s₀ role mid hs₀ hslot
      exact ⟨r, b', hr', by rw [if_neg hne, hb], hbc, hbr, hc.congr rfl rfl rfl rfl hn,
        fun _ => by rw [hav]; exact hon (by simp)⟩
  case owned =>
    intro mid r cid hr' hcid _
    by_cases hmid : mid = b.track.mid
    · subst hmid
      obtain ⟨r', hr, hc⟩ := hr
      cases hr.symm.trans hr'
      cases hc.cid.symm.trans hcid
      exact ⟨s.setSlot b.role (some b.track.mid), b.role, by simp [Call.setRole, hs], by simp⟩
    · obtain ⟨s₀, role, hs₀, hslot⟩ := h.owned mid r cid hr' hcid (by simp [hmid])
      by_cases hc : cid = b.cid
      · subst hc
        cases hs.symm.trans hs₀
        have hne : role ≠ b.role := by
          rintro rfl
          rw [hnone] at hslot
          cases hslot
        exact ⟨s.setSlot b.role (some b.track.mid), role, by simp [Call.setRole, hs],
          by simp [hne, hslot]⟩
      · exact ⟨s₀, role, by simp [Call.setRole, hc, hs₀], hslot⟩
  case unheld =>
    exact fun mid hmid => absurd hmid (by simp)

end Wired

theorem get?_sessions_releaseRole (c : Call) (cid : Cid) (role : SlotRole) (y : Cid) :
    (c.releaseRole cid role).1.sessions.get? y =
      if y = cid then (c.sessions.get? y).map fun s => s.setSlot role none
      else c.sessions.get? y := by
  rw [releaseRole]
  split
  · rename_i hnone
    by_cases hy : y = cid <;> simp [hy, hnone]
  · rename_i s hs
    split
    · rename_i hslot
      have hsame : s.setSlot role none = s := by
        cases s
        cases role <;> simp_all [Session.slot, Session.setSlot]
      by_cases hy : y = cid <;> simp [hy, hs, hsame]
    · simp [releaseSlot, setRole]

/-- Giving up a role frees its number, and leaves what is received under others. -/
theorem reception?_releaseRole (hp : ∀ s, c.slots = some s → s.Placed c.engine.tracks)
    (cid : Cid) (role : SlotRole) (y : Mid) :
    (c.releaseRole cid role).1.reception? y =
      if (c.sessions.get? cid).bind (fun s => s.slot role) = some y then
        (c.reception? y).map fun r =>
          (r.1.vacated, if r.1.cid.isSome then r.2.idle else r.2)
      else c.reception? y := by
  rw [releaseRole]
  split
  · rename_i hs
    simp [hs]
  · rename_i s hs
    split
    · rename_i hslot
      simp [hs, hslot]
    · rename_i mid hslot
      refine (reception?_releaseSlot (c := c.setRole cid role none) hp mid y).trans ?_
      by_cases hmid : y = mid
      · simp [hs, hslot, hmid, reception?, setRole]
      · simp [hs, hslot, hmid, Ne.symm hmid, reception?, setRole]

/-- Whether a track can be bound: there are such a participant and such a slot. -/
def binds (c : Call) (b : Binding) : Bool :=
  c.sessions.contains b.cid && (c.recvSlot? b.track.mid).isSome

theorem bindTrack_of_binds_eq_false {b : Binding} (h : c.binds b = false) :
    c.bindTrack b.cid b.track b.role = (c, false) := by
  rw [bindTrack]
  split
  · rename_i s slots hs hslots
    have hnone : slots.recv.get? b.track.mid = none := by
      simpa [binds, Table.contains, recvSlot?, hs, hslots] using h
    simp [Slots.assign, hnone]
  · rfl

/-- A binding in its parts. -/
theorem bindTrack_of_binds {b : Binding} (h : c.binds b = true) :
    ∃ s slots previous slots' tracks, c.sessions.get? b.cid = some s ∧ c.slots = some slots ∧
      slots.assign b.track.mid b.cid b.track.iv s.serial c.engine.tracks =
        some (previous, slots', tracks) ∧
      c.bindTrack b.cid b.track b.role =
        (((((c.seize slots' tracks b.track.mid).releaseRole b.cid b.role).1).setRole b.cid b.role
          (some b.track.mid)).applyRemoteAv b.cid, true) := by
  simp only [binds, Table.contains, recvSlot?, Bool.and_eq_true, Option.isSome_iff_exists] at h
  obtain ⟨⟨s, hs⟩, slot, hslot⟩ := h
  obtain ⟨slots, hslots, hget⟩ := Option.bind_eq_some_iff.1 hslot
  refine ⟨s, slots, _, _, _, hs, hslots, by rw [Slots.assign, hget]; rfl, ?_⟩
  simp only [bindTrack, hs, hslots, Slots.assign, hget, Option.map_some]
  rfl

namespace Wired

/-- A binding is the last one of its number from then on. -/
theorem bindTrack (h : Wired history [] [] c) (b : Binding) :
    Wired (history ++ [b].filter c.binds) [] [] (c.bindTrack b.cid b.track b.role).1 := by
  cases hb : c.binds b with
  | false => simpa [hb, bindTrack_of_binds_eq_false hb] using h
  | true =>
    obtain ⟨s, slots, previous, slots', tracks, hs, hslots, ha, heq⟩ := bindTrack_of_binds hb
    rw [heq, List.filter_cons_of_pos hb, List.filter_nil]
    have hseized := h.seize hslots ha
    have hreleased := hseized.releaseRole b.cid b.role
    -- the slot is not among those that were released
    have hfree : ¬((c.seize slots' tracks b.track.mid).sessions.get? b.cid).bind
        (fun s' => s'.slot b.role) = some b.track.mid := by
      rw [Option.bind_eq_some_iff]
      rintro ⟨s', hs', hslot⟩
      exact hseized.unheld b.track.mid List.mem_cons_self b.cid s' b.role hs' hslot
    have hsession : ((c.seize slots' tracks b.track.mid).releaseRole b.cid b.role).1.sessions.get?
        b.cid = some ((s.forget b.track.mid).setSlot b.role none) := by
      rw [get?_sessions_releaseRole, if_pos rfl, get?_sessions_seize, hs]
      rfl
    refine (hreleased.setRole_some hsession (by simp) ?_).applyRemoteAv b.cid (by simp)
    obtain ⟨slot, hget, -⟩ := Option.map_eq_some_iff.1 ha
    obtain ⟨t, ht⟩ := (h.placed slots hslots).exists_track hget
    have hrec : c.reception? b.track.mid = some (slot, t) := by simpa [reception?, hslots] using ht
    refine ⟨({ slot with cid := some b.cid, iv := some b.track.iv },
      t.receiving b.track.iv s.serial (if slot.cid = some b.cid then t.sink else some b.cid)),
      ?_, ?_⟩
    · rw [reception?_releaseRole hseized.placed, if_neg hfree,
        reception?_seize hslots (h.placed slots hslots) ha, if_pos rfl, hrec]
      rfl
    · refine ⟨rfl, rfl, by simp [MediaTrack.receiving], ?_⟩
      -- a slot that carried the participant already is shown as it
      simp only [MediaTrack.receiving]
      split
      · rename_i hcid
        obtain ⟨s', role, hs', hslot⟩ := h.owned b.track.mid (slot, t) b.cid hrec hcid (by simp)
        obtain ⟨r, b', hr, -, hbc, -, hc, -⟩ := h.held b.cid s' role b.track.mid hs' hslot
        cases hrec.symm.trans hr
        rw [hc.sink, hbc]
      · rfl

end Wired
end Call
end GroupCall
