/-
# What a step makes of who is known

An answer that lets us in is taken over as a whole, and every other command of our relay
counts for what it says.  Whatever ends our time in the call empties the roster and leaves the
moderators as they are.  Nothing else that happens to a call touches who is known.
-/
import GroupCall.Proofs.Company.Frame
import GroupCall.Proofs.HalfJoined

namespace GroupCall
namespace Call

variable {c c' : Call} {w : Surroundings} {step : CallStep}

/-! ## Keys and media -/

theorem company_rotated (c : Call) (w : Surroundings) (relay : Nat)
    (wrapped : List (Cid × List UInt8)) : (c.rotated w relay wrapped).company = c.company :=
  company_post c relay (.send (.key c.keys.nextId wrapped))

@[simp] theorem company_rotateKey (c : Call) (w : Surroundings) :
    (c.rotateKey w).1.company = c.company := by
  obtain ⟨e, heq, -⟩ | ⟨relay, wrapped, -, heq⟩ := c.rotateKey_cases w <;> rw [heq]
  exact company_rotated c w relay wrapped

@[simp] theorem company_rotateOrReport (c : Call) (w : Surroundings) :
    (c.rotateOrReport w).company = c.company := by
  obtain ⟨e, -, heq, -⟩ | ⟨relay, wrapped, -, heq⟩ := c.rotateOrReport_cases w <;> rw [heq]
  · exact company_report c e
  · exact company_rotated c w relay wrapped

@[simp] theorem company_greetOrReport (c : Call) (w : Surroundings) (cid : Cid) :
    (c.greetOrReport w cid).company = c.company := by
  have hsent : (c.sendKeyTo w cid).1.company = c.company := by
    obtain ⟨-, heq⟩ | ⟨e, heq⟩ | ⟨s, id, plain, relay, bytes, -, -, -, -, heq⟩ :=
      c.sendKeyTo_cases w cid <;> rw [heq]
    exact company_post c relay _
  rw [greetOrReport]
  split <;> rename_i heq <;> rw [heq] at hsent
  · exact hsent
  · exact (company_report _ _).trans hsent

@[simp] theorem company_takeKey (c : Call) (w : Surroundings) (id : KeyId) (s : Session)
    (wrapped : List UInt8) : (c.takeKey w id s wrapped).1.company = c.company := by
  obtain ⟨e, -, heq⟩ | ⟨plain, -, heq⟩ := c.takeKey_cases w id s wrapped <;> rw [heq]
  exact Company.ext rfl (Table.map_modify_eq (f := Session.seat)
    (g := fun s => { s with keys := s.keys.insert id (c.frameKey plain) }) (fun _ => rfl) _ _)
    rfl rfl rfl

@[simp] theorem company_setRemote (c : Call) (w : Surroundings) (sdp : Sdp) :
    (c.setRemote w sdp).1.company = c.company := by
  rw [setRemote]
  split
  · rfl
  · split <;> rfl

/-- Setting up our media is no matter of who is known. -/
theorem company_ensureMedia (c : Call) (w : Surroundings) :
    (c.ensureMedia w).1.company = c.company := by
  obtain ⟨engine, heq, -⟩ | ⟨slots, offer, engine, -, heq⟩ := ensureMedia_cases c w <;>
    rw [heq] <;> rfl

theorem company_linkUp (c : Call) (w : Surroundings) : (c.linkUp w).1.company = c.company := by
  have hmedia := company_ensureMedia c w
  rw [linkUp]
  split
  · split <;> rename_i heq <;> rw [heq] at hmedia
    · exact hmedia
    · rename_i d
      obtain ⟨e, heq⟩ | ⟨relay, sdp, ivs, -, -, heq⟩ := d.sendJoin_cases w <;> rw [heq]
      · exact hmedia
      · exact (company_setState _ _).trans ((company_post _ _ _).trans hmedia)
  · rfl

/-! ## Commands of the relay -/

/-- What leaves alone who is known does so in the call. -/
theorem company_inCall {apply : Call → Call × Bool} (h : ∀ c, (apply c).1.company = c.company)
    (c : Call) : (c.inCall apply).1.company = c.company := by
  rw [inCall]
  split
  · exact h c
  · rfl

theorem company_onKey (w : Surroundings) (id : KeyId) (sender : Cid) (bytes : List UInt8)
    (c : Call) : (c.onKey w id sender bytes).1.company = c.company := by
  refine company_inCall (fun c => ?_) c
  split
  · rfl
  · rename_i s _
    have htaken := company_takeKey c w id s bytes
    split <;> rename_i heq <;> rw [heq] at htaken
    · exact htaken
    · exact (company_report _ _).trans htaken

@[simp] theorem company_noteSpeakRequest (c : Call) (cid : Cid) :
    (c.noteSpeakRequest cid).company = c.company := by
  rw [noteSpeakRequest]
  split
  · split <;> simp
  · simp

theorem company_onSpeakReqs (cids : List Cid) (c : Call) :
    (c.onSpeakReqs cids).1.company = c.company :=
  company_inCall
    (fun c => (company_tell rfl _).trans (company_foldl company_noteSpeakRequest cids c)) c

theorem company_onSpeakReqDel (cid : Cid) (c : Call) :
    (c.onSpeakReqDel cid).1.company = c.company := by
  rw [onSpeakReqDel]
  split
  · split <;> simp
  · simp

@[simp] theorem company_speak (c : Call) (state : SpeakerState) :
    (c.speak state).company = c.company := by
  simp [speak]

theorem company_onSpeakOn (cid : Option Cid) (audio : Option TrackDescriptor) (c : Call) :
    (c.onSpeakOn cid audio).1.company = c.company := by
  refine company_inCall (fun c => ?_) c
  split
  · simp
  · rename_i cid' _
    split
    · rfl
    · rename_i track
      have hbound := company_bindTrack c cid' track .audio
      split <;> rename_i heq <;> rw [heq] at hbound
      · exact hbound
      · exact (company_setSpeakRequested _ _ _).trans hbound

theorem company_onSpeakOff (cid : Option Cid) (c : Call) :
    (c.onSpeakOff cid).1.company = c.company := by
  rw [onSpeakOff]
  split <;> simp

/-- Flags that come for somebody unknown are not taken. -/
theorem company_onAv (cid : Cid) (av : AvFlags) (c : Call) :
    (c.onAv cid av).1.company = c.company.hear (c.state = .inProgress) (.av cid av) := by
  rw [onAv, inCall]
  split
  · rename_i hs
    rw [hs]
    split
    · exact (company_tell rfl _).trans ((company_applyRemoteAv _ _).trans (company_setAv c cid av))
    · rename_i hnone
      have hget : c.roster.get? cid = none := by simpa [get?_roster, Table.contains] using hnone
      have hsame := Table.modify_eq_self (t := c.roster) (k := cid)
        (f := fun seat => { seat with av := av }) (by simp [hget])
      exact Company.ext rfl hsame.symm rfl rfl rfl
  · rename_i hs
    simp [Company.hear, hs]

theorem company_onPeerJoin (w : Surroundings) (peer : PeerInfo) (c : Call) :
    (c.onPeerJoin w peer).1.company = c.company.hear (c.state = .inProgress) (.peerJoin peer) := by
  have hadded := company_addSession c peer
  rw [onPeerJoin, inCall]
  split
  · rename_i hs
    rw [hs]
    split <;> rename_i heq <;> rw [heq] at hadded
    · exact hadded
    · rename_i d
      have hgreeted := (company_greetOrReport d w peer.cid).trans hadded
      rw [greetOrReport] at hgreeted
      generalize d.sendKeyTo w peer.cid = outcome at hgreeted ⊢
      obtain ⟨d', result⟩ := outcome
      cases result <;> exact hgreeted
  · rename_i hs
    simp [Company.hear, hs]

theorem company_onPeerLeft (w : Surroundings) (cid : Cid) (c : Call) :
    (c.onPeerLeft w cid).1.company = c.company.hear (c.state = .inProgress) (.peerLeft cid) := by
  rw [onPeerLeft, inCall]
  split
  · rename_i hs
    rw [hs]
    split
    · exact (company_rotateOrReport _ w).trans (company_removeSession c cid)
    · rename_i hnone
      have hget : c.roster.get? cid = none := by simpa [get?_roster, Table.contains] using hnone
      simp [Company.hear, Company.dismiss, company, Table.erase_of_get?_eq_none hget,
        Table.contains, hget]
  · rename_i hs
    simp [Company.hear, hs]

/-- Every command but an answer and the last one is heard for what it says. -/
theorem company_deliverCommand {command : Command}
    (hanswer : RelayNews.isAnswer (.frame (.command command)) = false)
    (hends : RelayNews.endsParticipation (.frame (.command command)) = false) (w : Surroundings)
    (c : Call) : ((receiver w).deliverCommand command c).1.company =
      c.company.hear (c.state = .inProgress) command := by
  cases command with
  | av cid flags => exact company_onAv cid flags c
  | answer answer => cases hanswer
  | key id sender bytes => exact company_onKey w id sender bytes c
  | vthumbs tracks => exact company_inCall (fun c => company_bindTracks c .vthumb tracks) c
  | hires tracks => exact company_inCall (fun c => company_bindTracks c .hires tracks) c
  | vthumbStart => exact company_applyLocalAv { c with vthumbWanted := true }
  | vthumbStop => exact company_applyLocalAv { c with vthumbWanted := false }
  | hiresStart => exact company_applyLocalAv { c with hiresWanted := true }
  | hiresStop => exact company_applyLocalAv { c with hiresWanted := false }
  | speakReqs cids => exact company_onSpeakReqs cids c
  | speakReqDel cid => exact company_onSpeakReqDel cid c
  | speakOn cid audio => exact company_onSpeakOn cid audio c
  | speakOff cid => exact company_onSpeakOff cid c
  | peerJoin peer => exact company_onPeerJoin w peer c
  | peerLeft cid => exact company_onPeerLeft w cid c
  | modAdd user => exact company_setModerator c user true
  | modDel user => exact company_setModerator c user false
  | bye reason => cases hends

/-! ### The answer -/

theorem company_meet (c : Call) (answer : Answer) :
    (c.meet answer).company = c.company.welcome answer := by
  rw [meet, company_foldl_eq company_addSession,
    company_foldl_eq (g := fun k user => k.appoint user true) fun c user =>
      company_setModerator c user true]
  rfl

@[simp] theorem company_admitSpeaker (c : Call) (cid : Cid) (track : TrackDescriptor) :
    (c.admitSpeaker cid track).company = c.company := by
  rw [admitSpeaker]
  split <;> simp

/-- Once everybody is seated, an answer was taken over as a whole. -/
theorem company_seated (c : Call) (answer : Answer) :
    (c.seated answer).company = c.company.welcome answer := by
  rw [seated, goIn, company_applyLocalAv, company_tell rfl]
  refine (company_foldl (fun c (e : Cid × TrackDescriptor) =>
    company_admitSpeaker c e.1 e.2) _ _).trans ?_
  rw [← company_meet]
  exact company_foldl (fun c (e : Cid × TrackDescriptor) => company_bindTrack c e.1 e.2 .vthumb) _ _

/-! ## The end -/

@[simp] theorem company_dropRelay (c : Call) : c.dropRelay.company = c.company := by
  rw [dropRelay]
  split
  · rfl
  · exact company_record rfl _

@[simp] theorem company_closeMedia (c : Call) : c.closeMedia.company = c.company := by
  obtain ⟨engine, heq⟩ := c.closeMedia_eq
  rw [heq]
  rfl

theorem company_quit (c : Call) (code : TermCode) :
    (c.quit code).company = c.company.disband := by
  rw [quit, company_tell rfl, company_moveTo, company_setSpeaker]
  refine (company_closeMedia _).trans ?_
  rw [company_clearSessions, company_dropRelay]

@[simp] theorem company_leaving (c : Call) : c.leaving.company = c.company := by
  rw [leaving]
  split <;> simp

theorem state_quit (hs : c.state = .terminatingParticipation) (code : TermCode) :
    (c.quit code).state = .clientNotParticipating := by
  rw [(left_quit hs code).rest]

theorem state_leaving (hs : c.state.isParticipating = true) :
    c.leaving.state = .terminatingParticipation := by
  have hmove : c.state.canTransition .terminatingParticipation = true := by
    cases hstate : c.state <;> simp_all [CallState.isParticipating, CallState.canTransition]
  rw [leaving, if_pos hs, moveTo_eq hmove]
  rfl

/-- Whoever leaves is alone afterwards; whoever has nothing to leave stays outside. -/
theorem leave_cases (c : Call) (code : TermCode) :
    c.leave code = c ∧ c.state ≠ .inProgress ∨
      (c.leave code).state = .clientNotParticipating ∧
        (c.leave code).company = c.company.disband := by
  rw [leave_eq]
  split
  · rename_i hs
    refine Or.inr ⟨state_quit hs code, ?_⟩
    rw [company_quit, company_leaving]
  · rename_i hs
    have haway : ¬ c.state.isParticipating = true := fun hin => hs (state_leaving hin)
    refine Or.inl ⟨by rw [leaving, if_neg haway], fun hin => haway ?_⟩
    rw [hin]
    rfl

/-- A call that is destroyed has left before. -/
theorem destroy_cases (c : Call) :
    c.destroy.state = .destroyed ∧ (c.destroy.company = c.company ∧ c.state ≠ .inProgress ∨
      c.destroy.company = c.company.disband) := by
  rw [destroy_eq]
  by_cases hgone : c.state.isDestroyed = true
  · rw [if_pos hgone]
    cases hs : c.state <;> simp_all [CallState.isDestroyed]
  · have hdeparted : c.departed.state.isDestroyed = false ∧
        (c.departed.company = c.company ∧ c.state ≠ .inProgress ∨
          c.departed.company = c.company.disband) := by
      rw [departed]
      split
      · obtain ⟨heq, hs⟩ | ⟨hs, hcompany⟩ := c.leave_cases .userHangup
        · rw [heq]
          exact ⟨by simpa using hgone, Or.inl ⟨rfl, hs⟩⟩
        · rw [hs]
          exact ⟨rfl, Or.inr hcompany⟩
      · rename_i haway
        refine ⟨by simpa using hgone, Or.inl ⟨rfl, fun hin => haway ?_⟩⟩
        rw [hin]
        rfl
    obtain ⟨halive, hcompany⟩ := hdeparted
    rw [if_neg hgone, setState_destroyed halive]
    have htold : ({ c.departed with state := .destroyed }.tell
        (.stateChanged .destroyed)).company = c.departed.company := company_tell rfl _
    refine ⟨rfl, ?_⟩
    rw [← htold] at hcompany
    exact hcompany

/-! ## Every step -/

/-- The command of our relay that a step brings. -/
def heard? (c : Call) : CallStep → Option Command
  | .event ⟨connection, .frame (.command command)⟩ =>
    if c.relay = some connection then some command else none
  | _ => none

/-- The answer that lets us in at a step. -/
def answered? (c : Call) (w : Surroundings) (step : CallStep) : Option Answer :=
  match c.heard? step with
  | some (.answer answer) =>
    if c.state = .joining ∧ (c.take w step).state = .inProgress then some answer else none
  | _ => none

/-- What a step makes of who is known. -/
inductive Turn (c : Call) (step : CallStep) : Call → Prop
  /-- An answer lets us in. -/
  | answered {c' : Call} (answer : Answer) (hheard : c.heard? step = some (.answer answer))
    (hs : c.state = .joining) (hin : c'.state = .inProgress)
    (hcompany : c'.company = c.company.welcome answer) : Turn c step c'
  /-- A command is heard. -/
  | heard {c' : Call} (command : Command) (hheard : c.heard? step = some command)
    (hstate : c'.state = c.state)
    (hcompany : c'.company = c.company.hear (c.state = .inProgress) command) : Turn c step c'
  /-- Nothing is heard. -/
  | unheard {c' : Call} (hheard : c.heard? step = none)
    (hstate : c'.state = .inProgress ↔ c.state = .inProgress) (hcompany : c'.company = c.company) :
    Turn c step c'
  /-- Our time in the call is over. -/
  | disbanded {c' : Call}
    (hheard : ∀ command, c.heard? step = some command → ∃ reason, command = .bye reason)
    (hstate : c'.state ≠ .inProgress) (hcompany : c'.company = c.company.disband) :
    Turn c step c'

theorem turn_of_stays (hheard : c.heard? step = none) (hstays : Stays c c')
    (hcompany : c'.company = c.company) : Turn c step c' :=
  .unheard hheard (by rw [hstays.state]) hcompany

theorem turn_leave {d : Call} (hheard : c.heard? step = none)
    (hs : d.state = .inProgress ↔ c.state = .inProgress) (hcompany : d.company = c.company)
    (code : TermCode) : Turn c step (d.leave code) := by
  obtain ⟨heq, -⟩ | ⟨hstate, hleft⟩ := d.leave_cases code
  · exact .unheard hheard (by rw [heq, hs]) (by rw [heq, hcompany])
  · exact .disbanded (by simp [hheard]) (by simp [hstate]) (by rw [hleft, hcompany])

/-! ### Requests -/

theorem company_command {operation : String} {find : Call → Except CallError OutboundCommand}
    {follow : Call → Call} (h : ∀ c, (follow c).company = c.company) :
    (c.attempt (command w operation find follow)).1.company = c.company :=
  command_invariant (P := fun c' => c'.company = c.company) rfl fun relay _ _ _ _ =>
    (h _).trans (company_post c relay _)

theorem company_moderate {operation : String} {find : Call → Except CallError OutboundCommand}
    {follow : Call → Call} (h : ∀ c, (follow c).company = c.company) :
    (c.attempt (moderate w operation find follow)).1.company = c.company :=
  moderate_invariant (P := fun c' => c'.company = c.company) rfl fun _ => company_command h

theorem company_perform_of_isForRelay (c : Call) (w : Surroundings) {request : CallRequest}
    (h : request.isForRelay = true) : (c.perform w request).1.company = c.company := by
  cases request with
  | requestSpeaker add =>
    change (c.requestSpeaker w add).1.company = c.company
    rw [requestSpeaker]
    split <;> refine company_command fun c => ?_ <;> split <;> simp
  | approveSpeakRequest cid allow =>
    exact company_moderate fun c => company_setSpeakRequested c cid false
  | stopSpeak cid =>
    change (c.stopSpeak w cid).1.company = c.company
    rw [stopSpeak]
    split
    · exact company_command fun c => by rw [company_applyLocalAv, company_setSpeaker]
    · exact company_moderate fun _ => rfl
  | delHires cids => exact company_command fun c => company_releaseRoles c .hires cids
  | delVthumbs cids => exact company_command fun c => company_releaseRoles c .vthumb cids
  | getHires _ _ | getVthumbs _ | setHiresQuality _ _ | setLayer _ _ _ =>
    exact company_command fun _ => rfl
  | _ => cases h

theorem company_updateAv (c : Call) (w : Surroundings) (av : AvFlags) :
    (c.updateAv w av).1.company = c.company := by
  have hset : (c.withFlags av).company = c.company := company_applyLocalAv { c with av := av }
  exact updateAv_invariant (P := fun c' => c'.company = c.company) rfl hset fun relay _ _ =>
    (company_post _ relay _).trans hset

theorem company_addParticipant (c : Call) (user : UserId) :
    (c.addParticipant user).1.company = c.company :=
  addParticipant_invariant (P := fun c' => c'.company = c.company) rfl (company_tell rfl _)

theorem company_removeParticipant (c : Call) (user : UserId) :
    (c.removeParticipant user).1.company = c.company :=
  removeParticipant_invariant (P := fun c' => c'.company = c.company) rfl (company_tell rfl _)

theorem company_abortReconnect (c : Call) : c.abortReconnect.1.company = c.company :=
  abortReconnect_invariant (P := fun c' => c'.company = c.company) rfl fun _ _ =>
    company_record rfl c

theorem company_handleFrame (c : Call) (place : Nat) (bytes : List UInt8) :
    (c.handleFrame place bytes).1.company = c.company := by
  rw [handleFrame]
  split
  · rfl
  · rfl
  · rfl
  · split <;> rfl

/-- A call that begins to join may be refused the relay. -/
theorem turn_join (c : Call) (w : Surroundings) (av : AvFlags) :
    Turn c (.request (.join av)) (c.join w av).1 := by
  by_cases hs : c.state.canJoin = true
  · have houtside : c.state ≠ .inProgress := by
      rintro hin
      rw [hin] at hs
      cases hs
    have hbegun : (c.begun av).company = c.company := company_tell rfl _
    have hstate : (c.begun av).state = .inProgress ↔ c.state = .inProgress :=
      iff_of_false (fun h => by cases h) houtside
    rw [join_of_canJoin hs]
    split
    · rename_i answer _
      cases answer with
      | error reason => exact turn_leave rfl hstate hbegun _
      | ok url =>
        have hsought : ((c.begun av).record (.sought url)).company = c.company :=
          (company_record rfl _).trans hbegun
        rw [connect]
        split
        · exact turn_leave (d := (c.begun av).record (.sought url)) rfl hstate hsought _
        · exact .unheard rfl hstate ((company_record rfl _).trans hsought)
    · exact .unheard rfl hstate hbegun
  · rw [join_of_not_canJoin hs]
    exact .unheard rfl Iff.rfl rfl

theorem turn_perform (c : Call) (w : Surroundings) (request : CallRequest) :
    Turn c (.request request) (c.perform w request).1 := by
  by_cases hrelay : request.isForRelay = true
  · have hcompany := company_perform_of_isForRelay c w hrelay
    obtain heq | ⟨-, hroutine⟩ := asked_perform c w hrelay
    · exact .unheard rfl (by rw [heq]) hcompany
    · exact turn_of_stays rfl hroutine.toWithin.stays hcompany
  · cases request with
    | join av => exact turn_join c w av
    | hangup =>
      change Turn c _ c.hangup.1
      rw [hangup]
      split
      · exact turn_leave rfl Iff.rfl rfl _
      · exact .unheard rfl Iff.rfl rfl
    | abortReconnect =>
      exact turn_of_stays rfl (aside_abortReconnect c).stays (company_abortReconnect c)
    | updateAv av => exact turn_of_stays rfl (aside_updateAv c w av).stays (company_updateAv c w av)
    | rotateKey => exact turn_of_stays rfl (stays_rotateKey c w) (company_rotateKey c w)
    | addParticipant user =>
      exact turn_of_stays rfl (aside_addParticipant c user).stays (company_addParticipant c user)
    | removeParticipant user =>
      exact turn_of_stays rfl (aside_removeParticipant c user).stays
        (company_removeParticipant c user)
    | snapshot => exact .unheard rfl Iff.rfl rfl
    | destroy =>
      obtain ⟨hs, ⟨hcompany, houtside⟩ | hcompany⟩ := c.destroy_cases
      · refine .unheard rfl ?_ hcompany
        rw [show (c.perform w .destroy).1.state = .destroyed from hs]
        simp [houtside]
      · exact .disbanded (by simp [heard?]) (fun hin => by cases hs.symm.trans hin) hcompany
    | _ => exact absurd rfl hrelay

/-! ### News of our connection -/

/-- An answer lets us in, or nothing comes of it. -/
theorem turn_onAnswer {answer : Answer} (hheard : c.heard? step = some (.answer answer))
    (w : Surroundings) : Turn c step (c.onAnswer w answer).1 := by
  by_cases hs : c.state = .joining
  · have hremote := company_setRemote c w answer.sdp
    obtain ⟨e, -, heq⟩ | ⟨-, heq⟩ := onAnswer_fst hs w answer
    · refine .heard (.answer answer) hheard ?_ ?_
      · rw [heq]
        exact state_setRemote c w answer.sdp
      · rw [heq, company_report, hremote]
        rfl
    · refine .answered answer hheard hs ?_ ?_
      · rw [heq, state_rotateOrReport]
        exact state_goIn _
      · rw [heq, company_rotateOrReport, company_seated, hremote]
  · rw [onAnswer, if_neg hs]
    exact .heard (.answer answer) hheard rfl rfl

theorem turn_bye {reason : UInt32} (hheard : c.heard? step = some (.bye reason)) (code : TermCode) :
    Turn c step (c.leave code) := by
  obtain ⟨heq, -⟩ | ⟨hstate, hleft⟩ := c.leave_cases code
  · rw [heq]
    exact .heard (.bye reason) hheard rfl rfl
  · refine .disbanded (fun command h => ⟨reason, ?_⟩) (by simp [hstate]) hleft
    exact Option.some.inj (h.symm.trans hheard)

theorem company_linkLost (hs : c.state = .joining ∨ c.state = .inProgress) :
    c.linkLost.company = c.company.disband := by
  rw [linkLost, if_pos hs]
  dsimp only
  rw [company_moveTo, company_applyLocalAv, company_setSpeaker]
  exact company_clearSessions c

theorem turn_linkLost (hheard : c.heard? step = none) : Turn c step c.linkLost := by
  by_cases hs : c.state = .joining ∨ c.state = .inProgress
  · refine .disbanded (by simp [hheard]) ?_ (company_linkLost hs)
    rw [(lost_linkLost hs).rest]
    simp
  · rw [linkLost, if_neg hs]
    exact .unheard hheard Iff.rfl rfl

theorem turn_onNews {connection : Nat} (hrelay : c.relay = some connection) (w : Surroundings)
    (news : RelayNews) : Turn c (.event ⟨connection, news⟩) (c.onNews w news) := by
  cases news with
  | stateChanged state =>
    cases state with
    | connected =>
      have hcompany := company_linkUp c w
      have hstate : (c.linkUp w).1.state = .inProgress ↔ c.state = .inProgress := by
        obtain heq | ⟨hs, ⟨-, hup⟩ | ⟨e, slots, offer, engine, heq⟩⟩ := linkUp_cases c w
        · rw [heq]
        · rw [hup.rest, hs]
          simp
        · rw [heq]
      rw [onNews]
      split <;> rename_i heq <;> rw [heq] at hcompany hstate
      · exact .unheard rfl hstate hcompany
      · rename_i d e
        exact turn_leave (c := c) (d := d.report e) rfl hstate
          ((company_report d e).trans hcompany) _
    | disconnected => exact turn_linkLost rfl
    | _ => exact .unheard rfl Iff.rfl rfl
  | frame frame =>
    cases frame with
    | command command =>
      have hheard : c.heard? (.event ⟨connection, .frame (.command command)⟩) = some command :=
        if_pos hrelay
      cases command with
      | answer answer => exact turn_onAnswer hheard w
      | bye reason => exact turn_bye hheard _
      | _ =>
        exact .heard _ hheard (state_deliverCommand rfl rfl w) (company_deliverCommand rfl rfl w c)
    | error code text =>
      refine turn_leave (c := c) (d := (c.tell (.relayError code (text.getD ""))).report
        (.relay code (text.getD ""))) rfl Iff.rfl ?_ _
      rw [company_report]
      exact company_tell rfl c
  | failed error =>
    exact turn_leave (c := c) (d := c.report (.connection error)) rfl Iff.rfl
      (company_report c _) _
  | closed => exact turn_leave rfl Iff.rfl rfl _

/-- Every step is one of the four turns. -/
theorem turn_take (c : Call) (w : Surroundings) (step : CallStep) :
    Turn c step (c.take w step) := by
  cases step with
  | request request => exact turn_perform c w request
  | event event =>
    rw [take, onRelayEvent]
    split
    · rename_i hrelay
      exact turn_onNews hrelay w event.news
    · rename_i hrelay
      refine .unheard ?_ Iff.rfl rfl
      obtain ⟨connection, news⟩ := event
      rw [heard?.eq_def]
      split
      · rename_i heq
        cases heq
        exact if_neg hrelay
      · rfl
  | cancel => exact .unheard rfl Iff.rfl rfl
  | frame place bytes =>
    exact turn_of_stays rfl (aside_handleFrame c place bytes).stays
      (company_handleFrame c place bytes)

/-- A command that a step brings is delivered. -/
theorem take_of_heard? {command : Command} (h : c.heard? step = some command)
    (w : Surroundings) : c.take w step = ((receiver w).deliverCommand command c).1 := by
  rw [heard?.eq_def] at h
  split at h
  · split at h
    · rename_i hrelay
      cases h
      exact if_pos hrelay
    · cases h
  · cases h

end Call

/-! ## What was heard since we were let in -/

/-- How we came into the call for the last time, and what our relay said since. -/
structure Admission where
  /-- The answer that let us in. -/
  answer : Answer
  /-- Whether we were a moderator before it came. -/
  wasModerator : Bool
  /-- The commands behind it, first one first. -/
  heard : List Command

namespace Call

/-- The last admission after a step, given the one before it. -/
def admissionAfter (c : Call) (w : Surroundings) (step : CallStep) (before : Option Admission) :
    Option Admission :=
  match c.answered? w step with
  | some answer => some ⟨answer, c.isModerator, []⟩
  | none => before.map fun a => { a with heard := a.heard ++ (c.heard? step).toList }

/-- The last admission in a run, or the one before it. -/
def lastAdmission (c : Call) (before : Option Admission) :
    List (Surroundings × CallStep) → Option Admission
  | [] => before
  | (w, step) :: rest =>
    (c.take w step).lastAdmission (c.admissionAfter w step before) rest

end Call
end GroupCall
