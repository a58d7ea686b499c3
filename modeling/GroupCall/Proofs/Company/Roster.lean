/-
# The roster is what was heard

Nobody is connected outside the call.  In it, the connected participants are those whom the
commands of the relay name: the answer that let us in, and what was said since.  A participant
that is announced again keeps what we know of it, and one that comes anew starts with nothing.
Whoever follows the news knows at any time who is connected.
-/
import GroupCall.Proofs.Company.Turns

namespace GroupCall

/-- What was heard from a participant itself: its keys, and whether it asks to speak. -/
def Session.voice (s : Session) : KeyRing × Bool := (s.keys, s.speakRequested)

theorem Session.voice_setSlot (s : Session) (role : SlotRole) (mid : Option Mid) :
    (s.setSlot role mid).voice = s.voice := by cases role <;> rfl

/-- The roster that an admission leads to. -/
def Admission.roster (a : Admission) : Roster :=
  a.heard.foldl Roster.hear (a.answer.peers.foldl Roster.announce .empty)

/-- Flags are no matter of who is connected. -/
theorem Roster.map_user_modify (roster : Roster) (cid : Cid) (av : AvFlags) :
    (roster.modify cid fun seat => { seat with av := av }).map Seat.user = roster.map Seat.user :=
  Table.map_modify_eq (f := Seat.user) (g := fun seat => { seat with av := av }) (fun _ => rfl) _ _

/-! ## News of companies -/

namespace Company

variable {k : Company}

/-- Whoever follows the news knows who is connected, and as which user. -/
def Followed (k : Company) : Prop := k.present = some (k.roster.map Seat.user)

theorem Followed.flag (h : k.Followed) (cid : Cid) (av : AvFlags) : (k.flag cid av).Followed := by
  rw [Followed, Company.flag, Roster.map_user_modify]
  exact h

theorem Followed.announce (h : k.Followed) (peer : PeerInfo) : (k.announce peer).Followed := by
  rw [Followed, Company.announce, Roster.announce]
  by_cases hknown : k.roster.contains peer.cid = true
  · rw [if_pos hknown, if_pos hknown, Roster.map_user_modify]
    exact h
  · have hnew : (k.roster.map Seat.user).contains peer.cid = false := by
      simpa [Table.contains_map] using hknown
    rw [if_neg hknown, if_neg hknown, Table.map_insert, h]
    simp [CallDeed.attendance, hnew]

theorem Followed.dismiss (h : k.Followed) (cid : Cid) : (k.dismiss cid).Followed := by
  rw [Followed, Company.dismiss, Table.map_erase]
  by_cases hknown : k.roster.contains cid = true
  · have hthere : (k.roster.map Seat.user).contains cid = true := by
      rw [Table.contains_map, hknown]
    rw [if_pos hknown, h]
    simp [CallDeed.attendance, hthere]
  · have hnone : (k.roster.map Seat.user).get? cid = none := by
      simpa [Table.contains] using hknown
    rw [if_neg hknown, Table.erase_of_get?_eq_none hnone]
    exact h

theorem Followed.appoint (h : k.Followed) (user : UserId) (add : Bool) :
    (k.appoint user add).Followed := h

/-- What is followed at every element of a list is followed altogether. -/
theorem Followed.foldl {α : Type} {f : Company → α → Company}
    (hf : ∀ k a, k.Followed → (f k a).Followed) (h : k.Followed) (l : List α) :
    (l.foldl f k).Followed := by
  induction l generalizing k with
  | nil => exact h
  | cons a rest ih => exact ih (hf k a h)

theorem Followed.disband (h : k.Followed) : k.disband.Followed :=
  Followed.foldl (fun _ cid h => h.dismiss cid) h _

theorem Followed.welcome (h : k.Followed) (answer : Answer) : (k.welcome answer).Followed :=
  (h.foldl (fun _ user h => h.appoint user true) answer.moderators).foldl
    (fun _ peer h => h.announce peer) answer.peers

theorem Followed.hear (h : k.Followed) (inCall : Bool) (command : Command) :
    (k.hear inCall command).Followed := by
  unfold Company.hear
  split
  · split
    · exact h.announce _
    · exact h
  · split
    · exact h.flag _ _
    · exact h
  · split
    · exact h.dismiss _
    · exact h
  · exact h.appoint _ true
  · exact h.appoint _ false
  · exact h

/-! ## Rosters of companies -/

theorem get?_roster_dismissAll (cids : List Cid) (k : Company) (y : Cid) :
    (cids.foldl dismiss k).roster.get? y = if y ∈ cids then none else k.roster.get? y := by
  induction cids generalizing k with
  | nil => simp
  | cons cid rest ih =>
    have hfirst : (k.dismiss cid).roster.get? y = if y = cid then none else k.roster.get? y :=
      Table.get?_erase k.roster cid y
    rw [List.foldl_cons, ih, hfirst]
    by_cases hy : y = cid <;> simp [hy]

/-- Nobody is left when everybody has gone. -/
theorem roster_disband (k : Company) : k.disband.roster = .empty := by
  refine Table.eq_empty_of_get?_eq_none fun y => ?_
  rw [disband, get?_roster_dismissAll]
  split
  · rfl
  · rename_i hy
    rwa [Table.mem_keys_iff, Option.not_isSome_iff_eq_none] at hy

theorem roster_welcome (k : Company) (answer : Answer) :
    (k.welcome answer).roster = answer.peers.foldl Roster.announce k.roster := by
  have hpeers : ∀ (peers : List PeerInfo) (k : Company),
      (peers.foldl announce k).roster = peers.foldl Roster.announce k.roster := by
    intro peers
    induction peers with
    | nil => exact fun _ => rfl
    | cons peer rest ih => exact fun k => ih _
  rw [welcome, hpeers, apply_foldl (f := fun k user => k.appoint user true) (g := roster)
    fun _ _ => rfl]

theorem roster_hear (k : Company) (inCall : Bool) (command : Command) :
    (k.hear inCall command).roster =
      if inCall then k.roster.hear command else k.roster := by
  cases inCall <;> cases command <;> rfl

end Company

namespace Call

variable {c c' : Call} {w : Surroundings} {step : CallStep} {before : Option Admission}

/-! ## The roster along runs -/

/-- Nobody has a seat where nobody is connected. -/
theorem roster_eq_empty_iff : c.roster = .empty ↔ c.sessions = .empty := by
  constructor
  · intro h
    refine Table.eq_empty_of_get?_eq_none fun cid => ?_
    have hget := congrArg (fun t => Table.get? t cid) h
    simpa [get?_roster] using hget
  · intro h
    rw [roster, h]
    rfl

/-- The roster of a call agrees with what was heard since the last admission, and with what
was told. -/
structure Enlisted (c : Call) (last : Option Admission) : Prop where
  /-- Outside the call nobody is connected. -/
  outside : c.state ≠ .inProgress → c.sessions = .empty
  /-- In the call everybody is connected whom the relay names. -/
  inside : c.state = .inProgress → ∃ a, last = some a ∧ c.roster = a.roster
  /-- Whoever follows the news knows who is connected. -/
  followed : c.company.Followed

theorem answered?_eq_some {answer : Answer} (hheard : c.heard? step = some (.answer answer))
    (hs : c.state = .joining) (hin : (c.take w step).state = .inProgress) :
    c.answered? w step = some answer := by
  rw [answered?, hheard]
  exact if_pos ⟨hs, hin⟩

/-- Whoever stays inside is not let in. -/
theorem answered?_eq_none (h : c.state = .joining → (c.take w step).state ≠ .inProgress) :
    c.answered? w step = none := by
  rw [answered?]
  split
  · exact if_neg fun hboth => h hboth.1 hboth.2
  · rfl

theorem answered?_of_state_eq (h : (c.take w step).state = c.state) :
    c.answered? w step = none := by
  refine answered?_eq_none fun hs hin => ?_
  rw [h, hs] at hin
  cases hin

/-- Every step keeps the roster in agreement with what was heard. -/
theorem Enlisted.take (h : Enlisted c before) (w : Surroundings) (step : CallStep) :
    Enlisted (c.take w step) (c.admissionAfter w step before) := by
  have hroster : ∀ {d : Call} {k : Company}, d.company = k → d.roster = k.roster :=
    fun heq => congrArg Company.roster heq
  cases c.turn_take w step with
  | answered answer hheard hs hin hcompany =>
    rw [admissionAfter, answered?_eq_some hheard hs hin]
    refine ⟨fun hout => absurd hin hout, fun _ => ⟨_, rfl, ?_⟩, ?_⟩
    · have hempty : c.company.roster = .empty := roster_eq_empty_iff.2 (h.outside (by simp [hs]))
      rw [hroster hcompany, Company.roster_welcome, hempty]
      rfl
    · rw [hcompany]
      exact h.followed.welcome answer
  | heard command hheard hstate hcompany =>
    have hnone : c.answered? w step = none := answered?_of_state_eq hstate
    rw [admissionAfter, hnone, hheard]
    refine ⟨fun hout => ?_, fun hin => ?_, by rw [hcompany]; exact h.followed.hear _ command⟩
    · rw [hstate] at hout
      rw [← roster_eq_empty_iff, hroster hcompany, Company.roster_hear,
        if_neg (by simpa using hout)]
      exact roster_eq_empty_iff.2 (h.outside hout)
    · rw [hstate] at hin
      obtain ⟨a, rfl, ha⟩ := h.inside hin
      refine ⟨_, rfl, ?_⟩
      rw [hroster hcompany, Company.roster_hear, if_pos (by simpa using hin)]
      simp only [Admission.roster, Option.toList_some, List.foldl_append, List.foldl_cons,
        List.foldl_nil]
      exact congrArg (Roster.hear · command) ha
  | unheard hheard hstate hcompany =>
    have hnone : c.answered? w step = none := by rw [answered?, hheard]
    have hsame : (c.take w step).roster = c.roster := hroster hcompany
    rw [admissionAfter, hnone, hheard]
    refine ⟨fun hout => ?_, fun hin => ?_, by rw [hcompany]; exact h.followed⟩
    · rw [← roster_eq_empty_iff, hsame]
      exact roster_eq_empty_iff.2 (h.outside fun hin => hout (hstate.2 hin))
    · obtain ⟨a, rfl, ha⟩ := h.inside (hstate.1 hin)
      exact ⟨_, rfl, by simpa [hsame] using ha⟩
  | disbanded hheard hstate hcompany =>
    refine ⟨fun _ => ?_, fun hin => absurd hin hstate, by rw [hcompany]; exact h.followed.disband⟩
    rw [← roster_eq_empty_iff, hroster hcompany, Company.roster_disband]

theorem Enlisted.run {last : Option Admission} (h : Enlisted c last)
    (steps : List (Surroundings × CallStep)) :
    Enlisted (c.run steps) (c.lastAdmission last steps) := by
  induction steps generalizing c last with
  | nil => exact h
  | cons step rest ih => exact ih (h.take step.1 step.2)

theorem enlisted_new (id : CallId) (chat : ChatId) (us : UserId) (config : CallConfig)
    (secret : IdentitySecret) (callKey : Option MediaKey) :
    Enlisted (new id chat us config secret callKey) none :=
  ⟨fun _ => rfl, fun h => (by cases h), rfl⟩

/-! ## Sessions of those who are announced -/

theorem sessions_addSession_of_known {peer : PeerInfo} {s : Session}
    (hs : c.sessions.get? peer.cid = some s) : (c.addSession peer).1.sessions =
      c.sessions.modify peer.cid fun s => { s with av := peer.av } := by
  rw [addSession, hs]
  dsimp only
  split
  · -- the flags are as they were
    rename_i hav
    refine (Table.modify_eq_self fun s' hs' => ?_).symm
    rw [← Option.some.inj (hs.symm.trans hs'), ← hav]
  · exact sessions_applyRemoteAv _ _

theorem sessions_addSession_of_unknown {peer : PeerInfo}
    (hnone : c.sessions.get? peer.cid = none) : (c.addSession peer).1.sessions =
      c.sessions.insert peer.cid
        (.new c.nextSerial peer.cid peer.userId peer.av c.config.keyCapacity) := by
  rw [addSession, hnone]
  rfl

theorem sessions_onPeerJoin (hin : c.state = .inProgress) (w : Surroundings) (peer : PeerInfo) :
    (c.onPeerJoin w peer).1.sessions = (c.addSession peer).1.sessions := by
  rw [onPeerJoin, inCall, if_pos hin]
  split <;> rename_i d heq
  · rw [heq]
  · have hsent := (SameMedia.sendKeyTo d w peer.cid).sessions
    rw [heq]
    split <;> rename_i heq' <;> rw [heq'] at hsent <;> exact hsent

/-! ### The answer -/

/-- Nothing was heard yet from any participant itself. -/
def Unheard (c : Call) : Prop :=
  ∀ cid s, c.sessions.get? cid = some s → s.voice = (.new c.config.keyCapacity, false)

/-- What was heard from participants is the same. -/
structure SameVoices (c c' : Call) : Prop where
  /-- How the call is set up. -/
  config : c'.config = c.config
  /-- What was heard. -/
  voices : c'.sessions.map Session.voice = c.sessions.map Session.voice

namespace SameVoices

theorem refl (c : Call) : SameVoices c c := ⟨rfl, rfl⟩

theorem trans {c'' : Call} (h : SameVoices c c') (h' : SameVoices c' c'') : SameVoices c c'' :=
  ⟨h'.config.trans h.config, h'.voices.trans h.voices⟩

theorem of_sessions (hconfig : c'.config = c.config) (h : c'.sessions = c.sessions) :
    SameVoices c c' := ⟨hconfig, by rw [h]⟩

theorem foldl {α : Type} {f : Call → α → Call} (hf : ∀ c a, SameVoices c (f c a)) (l : List α)
    (c : Call) : SameVoices c (l.foldl f c) :=
  foldl_related refl trans hf l c

theorem setModerator (c : Call) (user : UserId) (add : Bool) :
    SameVoices c (c.setModerator user add) := by
  simp only [Call.setModerator]
  split <;> exact ⟨rfl, rfl⟩

theorem bindTrack (c : Call) (cid : Cid) (track : TrackDescriptor) (role : SlotRole) :
    SameVoices c (c.bindTrack cid track role).1 :=
  ⟨by rw [(Rewired.bindTrack c ⟨cid, role, track⟩).rest],
    map_sessions_bindTrack Session.voice_setSlot c cid track role⟩

theorem admitSpeaker (c : Call) (cid : Cid) (track : TrackDescriptor) :
    SameVoices c (c.admitSpeaker cid track) := by
  rw [Call.admitSpeaker]
  split
  · rw [setSpeaker]
    split <;> exact ⟨rfl, rfl⟩
  · exact bindTrack c cid track .audio

theorem applyLocalAv (c : Call) : SameVoices c c.applyLocalAv :=
  of_sessions (by rw [(Rewired.applyLocalAv c).rest]) (sessions_applyLocalAv c)

theorem goIn (c : Call) : SameVoices c c.goIn := by
  have hin : SameVoices c ({ c with state := .inProgress }.tell (.stateChanged .inProgress)) :=
    ⟨rfl, rfl⟩
  exact hin.trans (applyLocalAv _)

/-- Binding the tracks of an answer is no matter of what was heard. -/
theorem seated (c : Call) (answer : Answer) : SameVoices (c.meet answer) (c.seated answer) := by
  have hbound : SameVoices (c.meet answer) (c.takeRoster answer) :=
    foldl (fun c (e : Cid × TrackDescriptor) => bindTrack c e.1 e.2 .vthumb) _ _
  have hadmitted := foldl (fun c (e : Cid × TrackDescriptor) => admitSpeaker c e.1 e.2)
    answer.speakers.entries (c.takeRoster answer)
  exact (hbound.trans hadmitted).trans (goIn _)

end SameVoices

theorem Unheard.of_sameVoices (h : Unheard c) (hsame : SameVoices c c') : Unheard c' := by
  intro cid s' hs'
  have hvoice := congrArg (fun t => Table.get? t cid) hsame.voices
  simp only [Table.get?_map, hs', Option.map_some] at hvoice
  obtain ⟨s, hs, heq⟩ := Option.map_eq_some_iff.1 hvoice.symm
  rw [← heq, hsame.config]
  exact h cid s hs

theorem Unheard.addSession (h : Unheard c) (peer : PeerInfo) : Unheard (c.addSession peer).1 := by
  have hconfig : (c.addSession peer).1.config = c.config := by rw [(within_addSession c peer).rest]
  intro cid s' hs'
  rw [hconfig]
  cases hget : c.sessions.get? peer.cid with
  | some s =>
    rw [sessions_addSession_of_known hget, Table.get?_modify] at hs'
    split at hs'
    · obtain ⟨s₀, hs₀, rfl⟩ := Option.map_eq_some_iff.1 hs'
      exact h cid s₀ hs₀
    · exact h cid s' hs'
  | none =>
    rw [sessions_addSession_of_unknown hget, Table.get?_insert] at hs'
    split at hs'
    · cases hs'
      rfl
    · exact h cid s' hs'

/-- Whoever is met while nobody is connected comes anew. -/
theorem unheard_meet (halone : c.sessions = .empty) (answer : Answer) :
    Unheard (c.meet answer) := by
  have hpeers : ∀ (peers : List PeerInfo) (d : Call), Unheard d →
      Unheard (peers.foldl (fun d peer => (d.addSession peer).1) d) := by
    intro peers
    induction peers with
    | nil => exact fun _ h => h
    | cons peer rest ih => exact fun d h => ih _ (h.addSession peer)
  refine hpeers answer.peers _ (Unheard.of_sameVoices (c := { c with
    cid := answer.cid, startedAt := some answer.startedAt }) ?_
      (SameVoices.foldl (fun d user => SameVoices.setModerator d user true) answer.moderators _))
  intro cid s hs
  rw [halone] at hs
  cases hs

/-- Slots that nobody has carry nothing, whatever was bound before. -/
theorem Wired.forget {history : List Binding} (h : Wired history [] [] c)
    (halone : c.sessions = .empty) : Wired [] [] [] c := by
  have hnone : ∀ cid, c.sessions.get? cid = none := fun cid => by rw [halone]; rfl
  refine .of_vacant h.enrolled h.placed (fun cid s role hs => ?_) fun mid r hr => ?_
  · cases (hnone cid).symm.trans hs
  · cases hcid : r.1.cid with
    | none => exact ⟨rfl, h.vacant mid r hr hcid⟩
    | some cid =>
      obtain ⟨s, role, hs, -⟩ := h.owned mid r cid hr hcid (by simp)
      cases (hnone cid).symm.trans hs

theorem mem_of_lastBinding? {history : List Binding} {mid : Mid} {b : Binding}
    (h : lastBinding? history mid = some b) : b ∈ history ∧ b.track.mid = mid :=
  ⟨List.mem_reverse.1 (List.mem_of_find?_eq_some h), by simpa using List.find?_some h⟩

/-- What a step of a call does to the sessions of those who are announced. -/
structure Announces (c : Call) (w : Surroundings) (step : CallStep) : Prop where
  /-- Who is announced again keeps everything but its flags. -/
  again : ∀ peer s, c.state = .inProgress → c.heard? step = some (.peerJoin peer) →
    c.sessions.get? peer.cid = some s →
    (c.take w step).sessions.get? peer.cid = some { s with av := peer.av }
  /-- Who comes anew has no keys and no slots, and does not ask to speak. -/
  anew : ∀ peer, c.state = .inProgress → c.heard? step = some (.peerJoin peer) →
    c.sessions.get? peer.cid = none →
    ∃ s, (c.take w step).sessions.get? peer.cid = some s ∧ s.userId = peer.userId ∧
      s.av = peer.av ∧ s.keys = .new c.config.keyCapacity ∧ s.speakRequested = false ∧
      ∀ role, s.slot role = none
  /-- The others stay as they are. -/
  others : ∀ peer cid, c.state = .inProgress → c.heard? step = some (.peerJoin peer) →
    cid ≠ peer.cid → (c.take w step).sessions.get? cid = c.sessions.get? cid
  /-- Whoever is met as we are let in has no keys and does not ask to speak, and has the slots
  that the answer gives it. -/
  met : ∀ answer cid s, c.answered? w step = some answer →
    (c.take w step).sessions.get? cid = some s →
    s.keys = .new c.config.keyCapacity ∧ s.speakRequested = false ∧
      ∀ role mid, s.slot role = some mid →
        ∃ b ∈ (Command.answer answer).offers, b.cid = cid ∧ b.role = role ∧ b.track.mid = mid

theorem sessions_take_of_peerJoin {peer : PeerInfo} (hin : c.state = .inProgress)
    (hheard : c.heard? step = some (.peerJoin peer)) (w : Surroundings) :
    (c.take w step).sessions = (c.addSession peer).1.sessions := by
  rw [take_of_heard? hheard]
  exact sessions_onPeerJoin hin w peer

/-- What is seated as an answer lets us in. -/
theorem sessions_take_of_answered? {answer : Answer} (h : c.answered? w step = some answer) :
    c.heard? step = some (.answer answer) ∧ c.state = .joining ∧
      (c.take w step).state = .inProgress ∧
      (c.take w step).sessions = ((c.setRemote w answer.sdp).1.seated answer).sessions := by
  rw [answered?] at h
  split at h
  · rename_i answer' hheard
    split at h
    · rename_i hboth
      obtain ⟨hs, hin⟩ := hboth
      cases h
      refine ⟨hheard, hs, hin, ?_⟩
      have htake : c.take w step = (c.onAnswer w answer).1 := take_of_heard? hheard w
      obtain ⟨e, -, heq⟩ | ⟨-, heq⟩ := onAnswer_fst hs w answer
      · -- an answer that is of no use lets nobody in
        rw [htake, heq] at hin
        have hstate := state_setRemote c w answer.sdp
        cases (hin.symm.trans (hstate.trans hs))
      · rw [htake, heq, (SameMedia.rotateOrReport _ w).sessions]
    · cases h
  · cases h

theorem announces {history : List Binding} (hwired : Wired history [] [] c)
    (houtside : c.state ≠ .inProgress → c.sessions = .empty) (w : Surroundings)
    (step : CallStep) : Announces c w step where
  again peer s hin hheard hs := by
    rw [sessions_take_of_peerJoin hin hheard, sessions_addSession_of_known hs]
    simp [hs]
  anew peer hin hheard hnone := by
    rw [sessions_take_of_peerJoin hin hheard, sessions_addSession_of_unknown hnone]
    refine ⟨_, by rw [Table.get?_insert, if_pos rfl], rfl, rfl, rfl, rfl, ?_⟩
    rintro (_ | _ | _) <;> rfl
  others peer cid hin hheard hne := by
    rw [sessions_take_of_peerJoin hin hheard]
    cases hget : c.sessions.get? peer.cid with
    | some s => rw [sessions_addSession_of_known hget, Table.get?_modify, if_neg hne]
    | none => rw [sessions_addSession_of_unknown hget, Table.get?_insert, if_neg hne]
  met answer cid s hanswered hs := by
    obtain ⟨hheard, hjoining, hin, hsessions⟩ := sessions_take_of_answered? hanswered
    have halone : c.sessions = .empty := houtside (by simp [hjoining])
    have hremote := SameMedia.setRemote c w answer.sdp
    have hseated := SameVoices.seated (c.setRemote w answer.sdp).1 answer
    have hconfig : ((c.setRemote w answer.sdp).1.seated answer).config = c.config := by
      rw [hseated.config, (within_meet _ answer).rest, (Routine.setRemote c w answer.sdp).rest]
    have hunheard := (unheard_meet (hremote.sessions.trans halone) answer).of_sameVoices hseated
    have hvoice := hunheard cid s (by rw [← hsessions]; exact hs)
    rw [hconfig] at hvoice
    obtain ⟨hkeys, hasks⟩ := Prod.mk.inj hvoice
    refine ⟨hkeys, hasks, fun role mid hslot => ?_⟩
    -- nothing was bound before, so the binding of a slot is one of the answer
    have hbound := (hwired.forget halone).onAnswer w answer
    have htake : c.take w step = (c.onAnswer w answer).1 := take_of_heard? hheard w
    rw [htake] at hs
    obtain ⟨-, b, -, hlast, hcid, hrole, -⟩ := hbound.held cid s role mid hs hslot
    obtain ⟨hb, hmid⟩ := mem_of_lastBinding? hlast
    refine ⟨b, ?_, hcid, hrole, hmid⟩
    rw [List.nil_append, bindingsOf] at hb
    split at hb
    · exact (List.mem_filter.1 hb).1
    · cases hb

/-- Along every run of a new call nobody is connected outside the call, and in it those are
connected, as the users and with the flags, whom the answer that let us in and the commands
behind it name; whoever follows the news knows who they are.  From there on, whoever is
announced again keeps its keys, its slots and its request to speak, and whoever comes anew has
none. -/
theorem roster_along_runs (id : CallId) (chat : ChatId) (us : UserId) (config : CallConfig)
    (secret : IdentitySecret) (callKey : Option MediaKey)
    (steps : List (Surroundings × CallStep)) :
    Enlisted ((new id chat us config secret callKey).run steps)
        ((new id chat us config secret callKey).lastAdmission none steps) ∧
      ∀ w step, Announces ((new id chat us config secret callKey).run steps) w step := by
  have henlisted := (enlisted_new id chat us config secret callKey).run steps
  have hwired := (wired_new id chat us config secret callKey).run steps
  generalize (new id chat us config secret callKey).run steps = c at henlisted hwired ⊢
  exact ⟨henlisted, announces hwired henlisted.outside⟩

end Call
end GroupCall
