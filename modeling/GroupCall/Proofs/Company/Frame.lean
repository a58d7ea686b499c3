/-
# Who is known to a call

What frames say of the others is told by a small part of a call: the roster, which gives each
connected participant a seat with its user and its flags, the moderators, and whether we are
one of them.  Beside it stands what an observer makes of the news, who puts down whoever is
added and strikes out whoever is removed.  Four operations touch this part of a call; here is
one lemma for each of the others.
-/
import GroupCall.Proofs.Changes

namespace GroupCall

/-! ## Seats -/

/-- What frames say of a connected participant. -/
structure Seat where
  /-- Its user. -/
  user : UserId
  /-- What it sends. -/
  av : AvFlags
deriving DecidableEq, Repr

/-- The connected participants, each with its seat. -/
abbrev Roster := Table Cid Seat

namespace Roster

/-- A participant is announced: an unknown one takes a seat, of a known one only the flags
are taken. -/
def announce (roster : Roster) (peer : PeerInfo) : Roster :=
  if roster.contains peer.cid then roster.modify peer.cid fun seat => { seat with av := peer.av }
  else roster.insert peer.cid ⟨peer.userId, peer.av⟩

/-- What a command makes of a roster in the call. -/
def hear (roster : Roster) : Command → Roster
  | .peerJoin peer => roster.announce peer
  | .av cid av => roster.modify cid fun seat => { seat with av := av }
  | .peerLeft cid => roster.erase cid
  | _ => roster

end Roster

/-- The seat of a session. -/
def Session.seat (s : Session) : Seat := ⟨s.userId, s.av⟩

@[simp] theorem Session.seat_setSlot (s : Session) (role : SlotRole) (mid : Option Mid) :
    (s.setSlot role mid).seat = s.seat := by cases role <;> rfl

/-! ## Who follows the news -/

/-- The participants that an observer takes to be present after a deed.  It loses count if it is
told of somebody that comes again, or of somebody that goes and was not there. -/
def CallDeed.attendance (present : Option (Table Cid UserId)) :
    CallDeed → Option (Table Cid UserId)
  | .told (.sessionAdded cid user) =>
    present.bind fun t => if t.contains cid then none else some (t.insert cid user)
  | .told (.sessionRemoved cid) =>
    present.bind fun t => if t.contains cid then some (t.erase cid) else none
  | _ => present

/-- Whether a deed tells that somebody came or went. -/
def CallDeed.isAttendance : CallDeed → Bool
  | .told (.sessionAdded _ _) => true
  | .told (.sessionRemoved _) => true
  | _ => false

theorem CallDeed.attendance_of_not_isAttendance {deed : CallDeed} (h : deed.isAttendance = false)
    (present : Option (Table Cid UserId)) : deed.attendance present = present := by
  unfold attendance
  split
  · cases h
  · cases h
  · rfl

/-! ## Companies -/

/-- Who is known to a call. -/
@[ext] structure Company where
  /-- Our user. -/
  us : UserId
  /-- The connected participants. -/
  roster : Roster
  /-- Those whom an observer takes to be present. -/
  present : Option (Table Cid UserId)
  /-- The moderators. -/
  moderators : Table UserId Unit
  /-- Whether we are one of them. -/
  isModerator : Bool

namespace Company

/-- A participant is announced, and an unknown one is told of. -/
def announce (k : Company) (peer : PeerInfo) : Company :=
  { k with
    roster := k.roster.announce peer
    present :=
      if k.roster.contains peer.cid then k.present
      else (CallDeed.told (.sessionAdded peer.cid peer.userId)).attendance k.present }

/-- The flags of a participant change. -/
def flag (k : Company) (cid : Cid) (av : AvFlags) : Company :=
  { k with roster := k.roster.modify cid fun seat => { seat with av := av } }

/-- A participant goes, and a known one is told of. -/
def dismiss (k : Company) (cid : Cid) : Company :=
  { k with
    roster := k.roster.erase cid
    present :=
      if k.roster.contains cid then (CallDeed.told (.sessionRemoved cid)).attendance k.present
      else k.present }

/-- Everybody goes. -/
def disband (k : Company) : Company := k.roster.keys.foldl dismiss k

/-- A user becomes a moderator, or is none any more. -/
def appoint (k : Company) (user : UserId) (add : Bool) : Company :=
  { k with
    moderators := if add then k.moderators.insert user () else k.moderators.erase user
    isModerator := if user = k.us then add else k.isModerator }

/-- What is the same after one element of a list is the same after all of them. -/
theorem apply_foldl {α β : Type} {f : Company → α → Company} {g : Company → β}
    (hf : ∀ k a, g (f k a) = g k) (l : List α) (k : Company) : g (l.foldl f k) = g k := by
  induction l generalizing k with
  | nil => rfl
  | cons a rest ih => exact (ih _).trans (hf k a)

/-- What a command makes of a company.  Participants count in the call only, moderators at any
time. -/
def hear (k : Company) (inCall : Bool) : Command → Company
  | .peerJoin peer => if inCall then k.announce peer else k
  | .av cid av => if inCall then k.flag cid av else k
  | .peerLeft cid => if inCall then k.dismiss cid else k
  | .modAdd user => k.appoint user true
  | .modDel user => k.appoint user false
  | _ => k

/-- What an answer that lets us in makes of a company. -/
def welcome (k : Company) (answer : Answer) : Company :=
  answer.peers.foldl announce (answer.moderators.foldl (fun k user => k.appoint user true) k)

end Company

namespace Call

variable {c c' : Call} {w : Surroundings}

/-- The roster of a call. -/
def roster (c : Call) : Roster := c.sessions.map Session.seat

/-- The participants that an observer takes to be present, if it can follow the news. -/
def present (c : Call) : Option (Table Cid UserId) :=
  c.journal.foldl CallDeed.attendance (some .empty)

/-- Who is known to a call. -/
def company (c : Call) : Company where
  us := c.us
  roster := c.roster
  present := c.present
  moderators := c.moderators
  isModerator := c.isModerator

/-! ## Deeds -/

/-- An observer hears of a deed. -/
theorem present_record (c : Call) (deed : CallDeed) :
    (c.record deed).present = deed.attendance c.present := by
  simp [present, record, List.foldl_append]

theorem company_record {deed : CallDeed} (h : deed.isAttendance = false) (c : Call) :
    (c.record deed).company = c.company := by
  refine Company.ext rfl rfl ?_ rfl rfl
  exact (c.present_record deed).trans (CallDeed.attendance_of_not_isAttendance h _)

theorem company_tell {news : CallNews} (h : (CallDeed.told news).isAttendance = false) (c : Call) :
    (c.tell news).company = c.company := company_record h c

@[simp] theorem company_report (c : Call) (error : CallError) :
    (c.report error).company = c.company := company_tell rfl c

@[simp] theorem company_post (c : Call) (relay : Nat) (request : RelayRequest) :
    (c.post relay request).company = c.company := company_record rfl c

@[simp] theorem company_setState (c : Call) (next : CallState) :
    (c.setState next).1.company = c.company := by
  rw [setState]
  split
  · exact company_tell rfl _
  · rfl

@[simp] theorem company_moveTo (c : Call) (next : CallState) :
    (c.moveTo next).company = c.company := company_setState c next

@[simp] theorem company_setSpeaker (c : Call) (state : SpeakerState) :
    (c.setSpeaker state).company = c.company := by
  rw [setSpeaker]
  split
  · rfl
  · exact company_tell rfl _

/-! ## Wiring

What is said of sessions by a function that does not look at their slots is as before,
whatever is bound and released. -/

section Wiring

variable {β : Type} {g : Session → β}

@[simp] theorem sessions_releaseSlot (c : Call) (mid : Mid) :
    (c.releaseSlot mid).sessions = c.sessions := sessions_onSlots c _

@[simp] theorem sessions_applyRemoteAv (c : Call) (cid : Cid) :
    (c.applyRemoteAv cid).sessions = c.sessions := by
  rw [applyRemoteAv]
  split
  · rfl
  · rw [sessions_applyRole, sessions_applyRole, sessions_applyRole]

@[simp] theorem sessions_applyLocalAv (c : Call) : c.applyLocalAv.sessions = c.sessions := by
  rw [applyLocalAv]
  split <;> rfl

variable (hg : ∀ s role mid, g (Session.setSlot s role mid) = g s)

include hg

theorem apply_forget (s : Session) (mid : Mid) : g (s.forget mid) = g s := by
  rw [Session.forget]
  generalize s.rolesOf mid = roles
  induction roles generalizing s with
  | nil => rfl
  | cons role rest ih => exact (ih _).trans (hg s role none)

theorem map_sessions_setRole (c : Call) (cid : Cid) (role : SlotRole) (mid : Option Mid) :
    (c.setRole cid role mid).sessions.map g = c.sessions.map g :=
  Table.map_modify_eq (fun s => hg s role mid) c.sessions cid

theorem map_sessions_releaseRole (c : Call) (cid : Cid) (role : SlotRole) :
    (c.releaseRole cid role).1.sessions.map g = c.sessions.map g := by
  rw [releaseRole]
  split
  · rfl
  · split
    · rfl
    · rw [sessions_releaseSlot]
      exact map_sessions_setRole hg c cid role none

theorem map_sessions_seize (c : Call) (slots : Slots) (tracks : MediaTracks) (mid : Mid) :
    (c.seize slots tracks mid).sessions.map g = c.sessions.map g := by
  refine congrArg Table.mk ?_
  simp [seize, forgetSlot, Table.map, withTracks, apply_forget hg]

theorem map_sessions_bindTrack (c : Call) (cid : Cid) (track : TrackDescriptor)
    (role : SlotRole) : (c.bindTrack cid track role).1.sessions.map g = c.sessions.map g := by
  cases hb : c.binds ⟨cid, role, track⟩ with
  | false => rw [bindTrack_of_binds_eq_false hb]
  | true =>
    obtain ⟨s, slots, previous, slots', tracks, -, -, -, heq⟩ := bindTrack_of_binds hb
    refine (congrArg (fun d : Call × Bool => d.1.sessions.map g) heq).trans ?_
    dsimp only
    rw [sessions_applyRemoteAv, map_sessions_setRole hg, map_sessions_releaseRole hg,
      map_sessions_seize hg]

end Wiring

/-- Wiring that leaves the seats alone leaves alone who is known. -/
theorem company_of_rewired (h : Rewired c c') (hseats : c'.roster = c.roster) :
    c'.company = c.company := by
  have hpresent : c'.present = c.present := by rw [h.rest]; rfl
  simp only [company, hseats, hpresent]
  rw [h.rest]

@[simp] theorem company_applyLocalAv (c : Call) : c.applyLocalAv.company = c.company :=
  company_of_rewired (Rewired.applyLocalAv c) (by simp [roster])

@[simp] theorem company_applyRemoteAv (c : Call) (cid : Cid) :
    (c.applyRemoteAv cid).company = c.company :=
  company_of_rewired (Rewired.applyRemoteAv c cid) (by simp [roster])

@[simp] theorem company_setSpeakRequested (c : Call) (cid : Cid) (requested : Bool) :
    (c.setSpeakRequested cid requested).company = c.company :=
  company_of_rewired (Rewired.setSpeakRequested c cid requested)
    (Table.map_modify_eq (f := Session.seat) (g := fun s => { s with speakRequested := requested })
      (fun _ => rfl) c.sessions cid)

@[simp] theorem company_releaseSlot (c : Call) (mid : Mid) :
    (c.releaseSlot mid).company = c.company :=
  company_of_rewired (Rewired.releaseSlot c mid) (by simp [roster])

@[simp] theorem company_releaseRole (c : Call) (cid : Cid) (role : SlotRole) :
    (c.releaseRole cid role).1.company = c.company :=
  company_of_rewired (Rewired.releaseRole c cid role)
    (map_sessions_releaseRole Session.seat_setSlot c cid role)

@[simp] theorem company_bindTrack (c : Call) (cid : Cid) (track : TrackDescriptor)
    (role : SlotRole) : (c.bindTrack cid track role).1.company = c.company :=
  company_of_rewired (Rewired.bindTrack c ⟨cid, role, track⟩)
    (map_sessions_bindTrack Session.seat_setSlot c cid track role)

@[simp] theorem company_bindListed (c : Call) (role : SlotRole) (t : CidTrack) :
    (c.bindListed role t).1.company = c.company := by
  have hbound := company_bindTrack c t.cid t.track role
  rw [bindListed]
  split <;> rename_i heq <;> rw [heq] at hbound
  · exact hbound
  · split
    · exact (company_releaseRole _ _ _).trans hbound
    · exact hbound

@[simp] theorem company_bindTracks (c : Call) (role : SlotRole) (tracks : List CidTrack) :
    (c.bindTracks role tracks).1.company = c.company := by
  induction tracks generalizing c with
  | nil => rfl
  | cons t rest ih => exact (ih _).trans (company_bindListed c role t)

/-- What leaves alone who is known at no element of a list does so altogether. -/
theorem company_foldl {α : Type} {f : Call → α → Call} (hf : ∀ c a, (f c a).company = c.company)
    (l : List α) (c : Call) : (l.foldl f c).company = c.company :=
  foldl_related (R := fun c c' => c'.company = c.company) (fun _ => rfl) (fun h h' => h'.trans h)
    hf l c

@[simp] theorem company_releaseRoles (c : Call) (role : SlotRole) (cids : List Cid) :
    (c.releaseRoles role cids).company = c.company :=
  company_foldl (fun c cid => company_releaseRole c cid role) cids c

/-! ## What touches who is known -/

/-- An operation at each element of a list does to who is known what it does at one. -/
theorem company_foldl_eq {α : Type} {f : Call → α → Call} {g : Company → α → Company}
    (hf : ∀ c a, (f c a).company = g c.company a) (l : List α) (c : Call) :
    (l.foldl f c).company = l.foldl g c.company := by
  induction l generalizing c with
  | nil => rfl
  | cons a rest ih => rw [List.foldl_cons, List.foldl_cons, ih, hf]

theorem roster_setAv (c : Call) (cid : Cid) (av : AvFlags) :
    (c.setAv cid av).roster = c.roster.modify cid fun seat => { seat with av := av } :=
  Table.map_modify (f := Session.seat) (fun _ => rfl) c.sessions cid

@[simp] theorem company_setAv (c : Call) (cid : Cid) (av : AvFlags) :
    (c.setAv cid av).company = c.company.flag cid av := by
  rw [company, roster_setAv]
  rfl

theorem contains_roster (c : Call) (cid : Cid) :
    c.roster.contains cid = c.sessions.contains cid := Table.contains_map _ _ _

@[simp] theorem company_setModerator (c : Call) (user : UserId) (add : Bool) :
    (c.setModerator user add).company = c.company.appoint user add := by
  simp only [setModerator]
  split
  · exact company_tell rfl _
  · rfl

theorem get?_roster (c : Call) (cid : Cid) :
    c.roster.get? cid = (c.sessions.get? cid).map Session.seat := Table.get?_map _ _ _

@[simp] theorem company_addSession (c : Call) (peer : PeerInfo) :
    (c.addSession peer).1.company = c.company.announce peer := by
  have hcontains : c.roster.contains peer.cid = (c.sessions.get? peer.cid).isSome :=
    c.contains_roster peer.cid
  rw [addSession]
  split
  · rename_i s hs
    rw [hs] at hcontains
    have hknown : c.company.announce peer = c.company.flag peer.cid peer.av := by
      simp [Company.announce, Company.flag, Roster.announce, company, hcontains]
    rw [hknown]
    split
    · -- the flags are as they were
      rename_i hav
      have hsame : c.roster.modify peer.cid (fun seat => { seat with av := peer.av }) = c.roster :=
        Table.modify_eq_self fun seat hseat => by
          rw [get?_roster, hs] at hseat
          rw [← Option.some.inj hseat, ← hav]
          rfl
      simp only [Company.flag, company, hsame]
    · simp only [company_applyRemoteAv]
      exact (company_tell rfl _).trans (company_setAv c peer.cid peer.av)
  · rename_i hnone
    rw [hnone] at hcontains
    refine Company.ext rfl ?roster ?present rfl rfl
    case roster =>
      refine (Table.map_insert _ _ _ _).trans ?_
      simp only [Company.announce, Roster.announce, company, hcontains]
      rfl
    case present =>
      simp only [Company.announce, company, hcontains]
      exact c.present_record _

@[simp] theorem company_removeSession (c : Call) (cid : Cid) :
    (c.removeSession cid).company = c.company.dismiss cid := by
  have hcontains : c.roster.contains cid = (c.sessions.get? cid).isSome := c.contains_roster cid
  rw [removeSession]
  split
  · rename_i hnone
    have hget : c.roster.get? cid = none := by rw [get?_roster, hnone]; rfl
    rw [hnone] at hcontains
    simp [Company.dismiss, company, hcontains, Table.erase_of_get?_eq_none hget]
  · rename_i s hs
    rw [hs] at hcontains
    dsimp only
    -- releasing its slots does not touch who is known, only its going is told
    have hreleased := company_foldl company_releaseSlot s.mids
      { c with sessions := c.sessions.erase cid }
    generalize s.mids.foldl releaseSlot { c with sessions := c.sessions.erase cid } = d
      at hreleased ⊢
    rw [Company.ext_iff] at hreleased
    obtain ⟨hus, hroster, hpresent, hmoderators, hmoderator⟩ := hreleased
    refine Company.ext hus ?roster ?present hmoderators hmoderator
    case roster => exact hroster.trans (Table.map_erase _ _ _)
    case present =>
      refine (d.present_record _).trans ?_
      simp only [Company.dismiss, company, hcontains]
      exact congrArg (fun present => CallDeed.attendance present (.told (.sessionRemoved cid)))
        hpresent

@[simp] theorem company_clearSessions (c : Call) : c.clearSessions.company = c.company.disband := by
  have hkeys : c.company.roster.keys = c.sessions.keys := by
    simp [company, roster, Table.keys, Table.map]
  rw [clearSessions, company_foldl_eq company_removeSession, Company.disband, hkeys]

end Call
end GroupCall
