/-
# Who was sent our keys

A participant holds a key of ours if we sent it in our present participation, which can be
told from the journal.  Keys are sent by a rotation, to every recipient, and to a
participant that comes later.  Everything else keeps our keys and who holds them, unless it
ends the participation, after which there are no keys and no holders.
-/
import GroupCall.Proofs.Keys.Ring
import GroupCall.Proofs.Slots.Steps

namespace GroupCall

/-- What a deed makes of the list of keys that were sent, with whom they were sent to: a
handed out key is added, and the end of a participation is the end of its keys. -/
def CallDeed.keysSent (sent : List (KeyId × Cid)) : CallDeed → List (KeyId × Cid)
  | .posted _ (.send (.key id wrapped)) => sent ++ wrapped.map fun e => (id, e.1)
  | .told (.terminated _) => []
  | _ => sent

namespace Call

/-- The numbers of the keys that were sent in our participation, with whom they were sent to. -/
def keysSent (c : Call) : List (KeyId × Cid) := c.journal.foldl CallDeed.keysSent []

/-- The number of the key under which our frames are encrypted. -/
def keyInUse (c : Call) : Option KeyId := c.keys.currentKey?.map Prod.fst

/-- A participant was sent the key under which our frames are encrypted. -/
def HasKey (c : Call) (cid : Cid) : Prop := ∃ id, c.keyInUse = some id ∧ (id, cid) ∈ c.keysSent

/-- Whoever was sent the key under which our frames are encrypted is still connected. -/
def LockedOut (c : Call) : Prop := ∀ cid, c.HasKey cid → c.sessions.contains cid = true

variable {c c' c'' : Call}

theorem keysSent_record (c : Call) (deed : CallDeed) :
    (c.record deed).keysSent = deed.keysSent c.keysSent := by
  simp [keysSent, record]

/-! ## What leaves keys alone -/

/-- Our keys are as before, and nobody was sent one. -/
structure SameKeys (c c' : Call) : Prop where
  /-- The ring. -/
  keys : c'.keys = c.keys
  /-- The newest key. -/
  sendKey : c'.sendKey = c.sendKey
  /-- Who was sent a key. -/
  sent : c'.keysSent = c.keysSent

namespace SameKeys

theorem refl (c : Call) : SameKeys c c := ⟨rfl, rfl, rfl⟩

theorem trans (h : SameKeys c c') (h' : SameKeys c' c'') : SameKeys c c'' :=
  ⟨h'.keys.trans h.keys, h'.sendKey.trans h.sendKey, h'.sent.trans h.sent⟩

theorem hasKey_iff (h : SameKeys c c') (cid : Cid) : c'.HasKey cid ↔ c.HasKey cid := by
  rw [HasKey, HasKey, keyInUse, keyInUse, h.keys, h.sent]

theorem of_journal (hkeys : c'.keys = c.keys) (hsend : c'.sendKey = c.sendKey)
    (hjournal : c'.journal = c.journal) : SameKeys c c' :=
  ⟨hkeys, hsend, by rw [keysSent, hjournal, keysSent]⟩

/-- A deed is entered that hands out no key and ends nothing. -/
theorem of_deed (deed : CallDeed) (hd : ∀ sent, deed.keysSent sent = sent)
    (hkeys : c'.keys = c.keys) (hsend : c'.sendKey = c.sendKey)
    (hjournal : c'.journal = c.journal ++ [deed]) : SameKeys c c' :=
  ⟨hkeys, hsend, by rw [keysSent, hjournal, List.foldl_append, ← keysSent]; exact hd _⟩

theorem of_rewired (h : Rewired c c') : SameKeys c c' :=
  of_journal (by rw [h.rest]) (by rw [h.rest]) (by rw [h.rest])

theorem report (c : Call) (error : CallError) : SameKeys c (c.report error) :=
  of_deed (.told (.failed error)) (fun _ => rfl) rfl rfl rfl

theorem setState (c : Call) (next : CallState) : SameKeys c (c.setState next).1 := by
  rw [Call.setState]
  split
  · exact of_deed (.told (.stateChanged next)) (fun _ => rfl) rfl rfl rfl
  · exact refl c

theorem setSpeaker (c : Call) (state : SpeakerState) : SameKeys c (c.setSpeaker state) := by
  rw [Call.setSpeaker]
  split
  · exact refl c
  · exact of_deed (.told (.speakerChanged state)) (fun _ => rfl) rfl rfl rfl

theorem setModerator (c : Call) (user : UserId) (add : Bool) :
    SameKeys c (c.setModerator user add) := by
  simp only [Call.setModerator]
  split
  · exact of_deed (.told (.moderatorChanged user add)) (fun _ => rfl) rfl rfl rfl
  · exact of_journal rfl rfl rfl

theorem dropRelay (c : Call) : SameKeys c c.dropRelay := by
  rw [Call.dropRelay]
  split
  · exact refl c
  · rename_i relay _
    exact of_deed (.disconnected relay) (fun _ => rfl) rfl rfl rfl

theorem addSession (c : Call) (peer : PeerInfo) : SameKeys c (c.addSession peer).1 := by
  rw [Call.addSession]
  split
  · split
    · exact refl c
    · have htold : SameKeys c ((c.setAv peer.cid peer.av).tell (.avChanged peer.cid peer.av)) :=
        of_deed (.told (.avChanged peer.cid peer.av)) (fun _ => rfl) rfl rfl rfl
      exact htold.trans (of_rewired (Rewired.applyRemoteAv _ peer.cid))
  · exact of_deed (.told (.sessionAdded peer.cid peer.userId)) (fun _ => rfl) rfl rfl rfl

theorem foldl {α : Type} {f : Call → α → Call} (hf : ∀ c a, SameKeys c (f c a)) (l : List α)
    (c : Call) : SameKeys c (l.foldl f c) :=
  foldl_related refl trans hf l c

theorem removeSession (c : Call) (cid : Cid) : SameKeys c (c.removeSession cid) := by
  rw [Call.removeSession]
  split
  · exact refl c
  · rename_i s _
    have herased : SameKeys c { c with sessions := c.sessions.erase cid } := of_journal rfl rfl rfl
    have hreleased := herased.trans (of_rewired (Rewired.foldl Rewired.releaseSlot s.mids _))
    exact hreleased.trans (of_deed (.told (.sessionRemoved cid)) (fun _ => rfl) rfl rfl rfl)

theorem clearSessions (c : Call) : SameKeys c c.clearSessions :=
  foldl removeSession c.sessions.keys c

theorem closeMedia (c : Call) : SameKeys c c.closeMedia := by
  obtain ⟨engine, heq⟩ := c.closeMedia_eq
  rw [heq]
  exact of_journal rfl rfl rfl

end SameKeys

/-! ## What neither touches keys nor locks anybody in -/

/-- Our keys are as before, and we are not in the call unless we were there with no more
participants than now. -/
structure Keeps (c c' : Call) : Prop extends SameKeys c c' where
  /-- Whoever was connected still is. -/
  steady : c'.state = .inProgress →
    c.state = .inProgress ∧ ∀ cid, c.sessions.contains cid = true → c'.sessions.contains cid = true

/-- Our participation is over, and its keys with it. -/
structure Ended (c c' : Call) : Prop where
  /-- No key is left. -/
  keys : c'.keys = c.keys.clear
  /-- There is no newest key. -/
  sendKey : c'.sendKey = none
  /-- Nobody holds a key. -/
  sent : c'.keysSent = []
  /-- We are not in the call. -/
  away : c'.state ≠ .inProgress

/-- Our keys are as before, or gone with our participation. -/
def Quiet (c c' : Call) : Prop := Keeps c c' ∨ Ended c c'

theorem SameKeys.keeps (h : SameKeys c c') (hstate : c'.state = c.state)
    (hsessions : ∀ cid, c.sessions.contains cid = true → c'.sessions.contains cid = true) :
    Keeps c c' := ⟨h, fun hin => ⟨hstate.symm.trans hin, hsessions⟩⟩

theorem SameKeys.keeps_of_away (h : SameKeys c c') (haway : c'.state ≠ .inProgress) : Keeps c c' :=
  ⟨h, fun hin => absurd hin haway⟩

namespace Keeps

theorem refl (c : Call) : Keeps c c := (SameKeys.refl c).keeps rfl fun _ h => h

theorem trans (h : Keeps c c') (h' : Keeps c' c'') : Keeps c c'' where
  toSameKeys := h.toSameKeys.trans h'.toSameKeys
  steady hin := by
    obtain ⟨hin', hback'⟩ := h'.steady hin
    obtain ⟨hin, hback⟩ := h.steady hin'
    exact ⟨hin, fun cid hcid => hback' cid (hback cid hcid)⟩

theorem of_rewired (h : Rewired c c') : Keeps c c' :=
  (SameKeys.of_rewired h).keeps h.state_eq fun cid hcid => (h.contains_eq cid).trans hcid

/-- Nothing changes but what is neither a key nor a session nor the stage. -/
theorem of_deed (deed : CallDeed) (hd : ∀ sent, deed.keysSent sent = sent)
    (hkeys : c'.keys = c.keys) (hsend : c'.sendKey = c.sendKey)
    (hjournal : c'.journal = c.journal ++ [deed]) (hstate : c'.state = c.state)
    (hsessions : c'.sessions = c.sessions) : Keeps c c' :=
  (SameKeys.of_deed deed hd hkeys hsend hjournal).keeps hstate fun _ hcid => hsessions ▸ hcid

theorem of_journal (hkeys : c'.keys = c.keys) (hsend : c'.sendKey = c.sendKey)
    (hjournal : c'.journal = c.journal) (hstate : c'.state = c.state)
    (hsessions : c'.sessions = c.sessions) : Keeps c c' :=
  (SameKeys.of_journal hkeys hsend hjournal).keeps hstate fun _ hcid => hsessions ▸ hcid

theorem report (c : Call) (error : CallError) : Keeps c (c.report error) :=
  (SameKeys.report c error).keeps rfl fun _ h => h

theorem setSpeaker (c : Call) (state : SpeakerState) : Keeps c (c.setSpeaker state) :=
  (SameKeys.setSpeaker c state).keeps (state_setSpeaker c state) fun _ h =>
    (SameMedia.setSpeaker c state).sessions ▸ h

theorem setModerator (c : Call) (user : UserId) (add : Bool) : Keeps c (c.setModerator user add) :=
  (SameKeys.setModerator c user add).keeps (state_setModerator c user add) fun _ h =>
    (SameMedia.setModerator c user add).sessions ▸ h

/-- Going anywhere but into the call. -/
theorem setState (c : Call) {next : CallState} (hnext : next ≠ .inProgress) :
    Keeps c (c.setState next).1 := by
  have hkeys := SameKeys.setState c next
  have hmedia := SameMedia.setState c next
  refine ⟨hkeys, fun hin => ?_⟩
  have hstay : (c.setState next).1.state = next ∨ (c.setState next).1.state = c.state := by
    rw [Call.setState]
    split
    · rename_i s hs
      rw [CallState.transition] at hs
      split at hs
      · cases hs
        exact Or.inl rfl
      · cases hs
    · exact Or.inr rfl
  rcases hstay with hstay | hstay
  · exact absurd (hstay.symm.trans hin) hnext
  · exact ⟨hstay.symm.trans hin, fun _ h => hmedia.sessions ▸ h⟩

theorem addSession (c : Call) (peer : PeerInfo) : Keeps c (c.addSession peer).1 := by
  refine (SameKeys.addSession c peer).keeps (state_addSession c peer) fun cid hcid => ?_
  rw [Call.addSession]
  split
  · split
    · exact hcid
    · have hset := Rewired.setAv c peer.cid peer.av
      have hcid := (hset.contains_eq cid).trans hcid
      exact ((Rewired.applyRemoteAv _ peer.cid).contains_eq cid).trans hcid
  · rw [Table.contains, Table.get?_insert]
    split
    · rfl
    · exact hcid

end Keeps

namespace Quiet

theorem refl (c : Call) : Quiet c c := Or.inl (Keeps.refl c)

theorem trans (h : Quiet c c') (h' : Quiet c' c'') : Quiet c c'' := by
  rcases h with h | h <;> rcases h' with h' | h'
  · exact Or.inl (h.trans h')
  · exact Or.inr ⟨by rw [h'.keys, h.keys], h'.sendKey, h'.sent, h'.away⟩
  · exact Or.inr ⟨h'.keys.trans h.keys, h'.sendKey.trans h.sendKey, h'.sent.trans h.sent,
      fun hin => h.away (h'.steady hin).1⟩
  · exact Or.inr ⟨by rw [h'.keys, h.keys]; rfl, h'.sendKey, h'.sent, h'.away⟩

end Quiet

end Call
end GroupCall
