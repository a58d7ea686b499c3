/-
# What a rotation takes, and what it makes

A rotation is carried out if the public key of every recipient is known and of use, the call
was not given up, and there is an open connection to the relay that takes it.  Then everybody else who is
connected is sent the new key, under the next number, and it is the key in use unless
numbers are exhausted.
-/
import GroupCall.Proofs.Keys.Steps

namespace GroupCall

/-- The public key of a user can be looked up and is of use. -/
def Surroundings.Knows (w : Surroundings) (user : UserId) : Prop :=
  ∃ bytes, w.publicKey user = some bytes ∧ bytes.length = 32

namespace Call

variable {c c' : Call} {w : Surroundings}

/-! ## Wrapping -/

theorem wrapFor_of_knows {s : Session} (h : w.Knows s.userId) (plain : MediaKey) :
    ∃ bytes, c.wrapFor w plain s = .ok (s.cid, bytes) := by
  obtain ⟨bytes, hkey, hlen⟩ := h
  have hsized : Crypto.sized? 32 bytes = some ⟨bytes.toArray, by simpa using hlen⟩ := by
    rw [Crypto.sized?, dif_pos hlen]
  simp only [wrapFor, KeyAgreement.wrapFor, KeyAgreement.sharedWith, agreement, hkey,
    PairwiseKey.derive, hsized, PairwiseKey.wrap, PairwiseKey.keyOfBytes, Crypto.sized?_bytesOf]
  exact ⟨_, rfl⟩

theorem knows_of_wrapFor {s : Session} {plain : MediaKey} {e : Cid × List UInt8}
    (h : c.wrapFor w plain s = .ok e) : w.Knows s.userId ∧ e.1 = s.cid := by
  have hknows : w.Knows s.userId := by
    cases hkey : w.publicKey s.userId with
    | none =>
      simp only [wrapFor, KeyAgreement.wrapFor, KeyAgreement.sharedWith, agreement, hkey] at h
      cases h
    | some bytes =>
      by_cases hlen : bytes.length = 32
      · exact ⟨bytes, hkey, hlen⟩
      · have hsized : Crypto.sized? 32 bytes = none := Crypto.sized?_eq_none_iff.2 hlen
        simp only [wrapFor, KeyAgreement.wrapFor, KeyAgreement.sharedWith, agreement, hkey,
          PairwiseKey.derive, hsized] at h
        cases h
  obtain ⟨bytes, hbytes⟩ := wrapFor_of_knows (c := c) hknows plain
  rw [hbytes] at h
  cases h
  exact ⟨hknows, rfl⟩

theorem wrapForAll_of_knows {sessions : List Session} (h : ∀ s ∈ sessions, w.Knows s.userId)
    (plain : MediaKey) : ∃ wrapped, c.wrapForAll w plain sessions = .ok wrapped := by
  induction sessions with
  | nil => exact ⟨[], rfl⟩
  | cons s rest ih =>
    obtain ⟨bytes, hfirst⟩ := wrapFor_of_knows (c := c) (h s List.mem_cons_self) plain
    obtain ⟨others, hrest⟩ := ih fun s hs => h s (List.mem_cons_of_mem _ hs)
    rw [wrapForAll_cons, hfirst, hrest]
    exact ⟨_, rfl⟩

theorem knows_of_wrapForAll {sessions : List Session} {plain : MediaKey}
    {wrapped : List (Cid × List UInt8)} (h : c.wrapForAll w plain sessions = .ok wrapped) :
    (∀ s ∈ sessions, w.Knows s.userId) ∧ wrapped.map Prod.fst = sessions.map Session.cid := by
  induction sessions generalizing wrapped with
  | nil =>
    cases h
    simp
  | cons s rest ih =>
    rw [wrapForAll_cons] at h
    cases hfirst : c.wrapFor w plain s with
    | error e =>
      rw [hfirst] at h
      cases h
    | ok first =>
      cases hrest : c.wrapForAll w plain rest with
      | error e =>
        rw [hfirst, hrest] at h
        cases h
      | ok others =>
        rw [hfirst, hrest] at h
        cases h
        obtain ⟨hs, hcid⟩ := knows_of_wrapFor hfirst
        obtain ⟨hknown, hcids⟩ := ih hrest
        exact ⟨by simpa using ⟨hs, hknown⟩, by simp [hcid, hcids]⟩

/-! ## The condition of a rotation -/

theorem check_send_eq_ok_iff {state : RelayState} {command : OutboundCommand} :
    (RelayRequest.send command).check state = .ok () ↔ state.isOnline = true := by
  rw [RelayRequest.check]
  split
  · rename_i h
    simp [h]
  · rename_i h
    simp [h]

/-- Nothing but the numbers of keys can keep a new key from coming into use. -/
structure CanSend (c : Call) (w : Surroundings) : Prop where
  /-- The public key of every recipient is of use. -/
  known : ∀ s ∈ c.recipients, w.Knows s.userId
  /-- The call was not given up. -/
  alive : c.cancelled = false
  /-- There is a connection to the relay. -/
  linked : c.relay.isSome = true
  /-- Its socket is open. -/
  online : w.relay.isOnline = true
  /-- It does not come to its end meanwhile. -/
  lasting : w.relayEnds = false

/-- A rotation that is carried out can be. -/
theorem Rotates.canSend {relay : Nat} {wrapped : List (Cid × List UInt8)}
    (h : c.Rotates w relay wrapped) : c.CanSend w where
  known := (knows_of_wrapForAll h.wraps).1
  alive := h.alive
  linked := by
    rw [h.relay]
    rfl
  online := check_send_eq_ok_iff.1 (Surroundings.answer_eq_ok_iff.1 h.accepted).1
  lasting := (Surroundings.answer_eq_ok_iff.1 h.accepted).2

/-- A rotation that can be carried out is. -/
theorem CanSend.rotates (h : c.CanSend w) (hs : c.state = .inProgress) :
    ∃ relay wrapped, c.Rotates w relay wrapped := by
  obtain ⟨wrapped, hwrapped⟩ := wrapForAll_of_knows (c := c) h.known w.key
  obtain ⟨relay, hrelay⟩ := Option.isSome_iff_exists.1 h.linked
  exact ⟨relay, wrapped, hs, hwrapped, h.alive, hrelay,
    Surroundings.answer_eq_ok_iff.2 ⟨check_send_eq_ok_iff.2 h.online, h.lasting⟩⟩

end Call
end GroupCall
