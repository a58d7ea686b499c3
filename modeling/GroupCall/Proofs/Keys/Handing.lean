/-
# How our keys are handed out

A step leaves our keys alone, or ends them with our participation, or hands out one key as
the last thing that it does: a new one to everybody who is connected, or the newest one to a
participant that came.  Whoever is sent a key is connected at that moment, and is sent the
newest key, wrapped for its user.
-/
import GroupCall.Proofs.Lifecycle

namespace GroupCall

namespace CallDeed

/-- Whether a deed hands out a key. -/
def handsOut : CallDeed → Bool
  | .posted _ (.send (.key _ _)) => true
  | _ => false

/-- Whether a deed neither hands out a key nor ends a participation. -/
def isKeyless : CallDeed → Bool
  | .posted _ (.send (.key _ _)) => false
  | .told (.terminated _) => false
  | _ => true

theorem isKeyless_of_isPlain {d : CallDeed} (h : d.isPlain = true) : d.isKeyless = true := by
  unfold isKeyless
  split
  · cases h
  · cases h
  · rfl

theorem isKeyless_iff {d : CallDeed} :
    d.isKeyless = true ↔ d.handsOut = false ∧ d.ends = false := by
  unfold isKeyless
  split
  · simp [handsOut]
  · simp [ends]
  · rename_i hkey hend
    have hhands : d.handsOut = false := by
      unfold handsOut
      split
      · exact absurd rfl (hkey _ _ _)
      · rfl
    have hends : d.ends = false := by
      unfold ends
      split
      · exact absurd rfl (hend _)
      · rfl
    simp [hhands, hends]

end CallDeed

namespace Call

variable {c c' c'' d : Call} {w : Surroundings} {step : CallStep} {count : Nat}

/-- What a step does. -/
def deeds (c : Call) (w : Surroundings) (step : CallStep) : List CallDeed :=
  (c.take w step).journal.drop c.journal.length

theorem deeds_of_journal {l : List CallDeed} (h : (c.take w step).journal = c.journal ++ l) :
    c.deeds w step = l := by
  rw [deeds, h, List.drop_left]

/-! ## Wrapping for everybody -/

/-- An entry names its participant, and is the key wrapped for the user. -/
theorem exists_of_wrapFor {s : Session} {plain : MediaKey} {e : Cid × List UInt8}
    (h : c.wrapFor w plain s = .ok e) :
    ∃ wrapped, (c.agreement w).wrapFor s.userId (Crypto.bytesOf plain) = .ok wrapped ∧
      e = (s.cid, Crypto.bytesOf wrapped) := by
  rw [wrapFor] at h
  cases hwrapped : (c.agreement w).wrapFor s.userId (Crypto.bytesOf plain) with
  | error e =>
    rw [hwrapped] at h
    cases h
  | ok wrapped =>
    rw [hwrapped] at h
    cases h
    exact ⟨wrapped, rfl, rfl⟩

/-- A key that was wrapped for everybody was wrapped for each of them, and for nobody else. -/
theorem mem_wrapForAll {sessions : List Session} {plain : MediaKey}
    {wrapped : List (Cid × List UInt8)} (h : c.wrapForAll w plain sessions = .ok wrapped) :
    (∀ s ∈ sessions, ∃ e ∈ wrapped, c.wrapFor w plain s = .ok e) ∧
      ∀ e ∈ wrapped, ∃ s ∈ sessions, c.wrapFor w plain s = .ok e := by
  induction sessions generalizing wrapped with
  | nil =>
    cases h
    simp
  | cons s rest ih =>
    rw [wrapForAll_cons] at h
    cases hfirst : c.wrapFor w plain s with
    | error e =>
      rw [hfirst] at h
      cases h
    | ok first =>
      cases hrest : c.wrapForAll w plain rest with
      | error e =>
        rw [hfirst, hrest] at h
        cases h
      | ok others =>
        rw [hfirst, hrest] at h
        cases h
        obtain ⟨hto, hfrom⟩ := ih hrest
        refine ⟨List.forall_mem_cons.2 ⟨⟨first, List.mem_cons_self, hfirst⟩, fun s' hs' => ?_⟩,
          List.forall_mem_cons.2 ⟨⟨s, List.mem_cons_self, hfirst⟩, fun e he => ?_⟩⟩
        · obtain ⟨e, he, hwrap⟩ := hto s' hs'
          exact ⟨e, List.mem_cons_of_mem _ he, hwrap⟩
        · obtain ⟨s', hs', hwrap⟩ := hfrom e he
          exact ⟨s', List.mem_cons_of_mem _ hs', hwrap⟩

/-- There is no key to send, or that is reported, or a participant is sent the newest key. -/
theorem greetOrReport_cases (c : Call) (w : Surroundings) (cid : Cid) :
    c.sendKey = none ∧ c.greetOrReport w cid = c ∨ (∃ e, c.greetOrReport w cid = c.report e) ∨
      ∃ s id plain relay bytes, c.sessions.get? cid = some s ∧ c.sendKey = some (id, plain) ∧
        c.wrapFor w plain s = .ok (s.cid, bytes) ∧
        c.greetOrReport w cid = c.post relay (.send (.key id [(s.cid, bytes)])) := by
  rw [greetOrReport]
  obtain ⟨hkey, heq⟩ | ⟨e, heq⟩ | ⟨s, id, plain, relay, bytes, hs, hkey, hwraps, -, heq⟩ :=
    c.sendKeyTo_cases w cid <;> rw [heq]
  · exact .inl ⟨hkey, rfl⟩
  · exact .inr (.inl ⟨e, rfl⟩)
  · exact .inr (.inr ⟨s, id, plain, relay, bytes, hs, hkey, hwraps, rfl⟩)

/-! ## What a step does to our keys -/

/-- Our keys are as before, none is handed out, and no participation ends. -/
structure SameSecrets (c c' : Call) : Prop where
  /-- Our long-term secret. -/
  secret : c'.secret = c.secret
  /-- The key of the call. -/
  callKey : c'.callKey = c.callKey
  /-- Our ring. -/
  keys : c'.keys = c.keys
  /-- Our newest key. -/
  sendKey : c'.sendKey = c.sendKey
  /-- What was done. -/
  keyless : ∃ deeds, c'.journal = c.journal ++ deeds ∧ ∀ d ∈ deeds, d.isKeyless = true

namespace SameSecrets

theorem trans (h : SameSecrets c c') (h' : SameSecrets c' c'') : SameSecrets c c'' where
  secret := h'.secret.trans h.secret
  callKey := h'.callKey.trans h.callKey
  keys := h'.keys.trans h.keys
  sendKey := h'.sendKey.trans h.sendKey
  keyless := by
    obtain ⟨deeds, heq, hdeeds⟩ := h.keyless
    obtain ⟨deeds', heq', hdeeds'⟩ := h'.keyless
    exact ⟨deeds ++ deeds', by rw [heq', heq, List.append_assoc],
      List.forall_mem_append.2 ⟨hdeeds, hdeeds'⟩⟩

theorem of_plain (hsecret : c'.secret = c.secret) (hcallKey : c'.callKey = c.callKey)
    (hkeys : c'.keys = c.keys) (hsend : c'.sendKey = c.sendKey) (hplain : Plain c c') :
    SameSecrets c c' := by
  obtain ⟨deeds, heq, hdeeds⟩ := hplain
  exact ⟨hsecret, hcallKey, hkeys, hsend, deeds, heq,
    fun d hd => CallDeed.isKeyless_of_isPlain (hdeeds d hd)⟩

theorem of_deed {deed : CallDeed} (hd : deed.isKeyless = true) (c : Call) :
    SameSecrets c (c.record deed) :=
  ⟨rfl, rfl, rfl, rfl, [deed], rfl, by simpa using hd⟩

theorem of_within (h : Within c c') : SameSecrets c c' :=
  of_plain (by rw [h.rest]) (by rw [h.rest]) (by rw [h.rest]) (by rw [h.rest]) h.plain

theorem of_aside (h : Aside c c') : SameSecrets c c' := of_within h.routine.toWithin

theorem refl (c : Call) : SameSecrets c c := of_aside (Aside.refl c)

theorem letIn (c : Call) : SameSecrets c c.letIn :=
  ⟨rfl, rfl, rfl, rfl, [.told (.stateChanged .inProgress)], rfl, by simp [CallDeed.isKeyless]⟩

theorem destroyed (c : Call) : SameSecrets c c.destroyed :=
  ⟨rfl, rfl, rfl, rfl, [.told (.stateChanged .destroyed)], rfl, by simp [CallDeed.isKeyless]⟩

theorem begun (c : Call) (av : AvFlags) : SameSecrets c (c.begun av) :=
  ⟨rfl, rfl, rfl, rfl, [.told (.stateChanged .connecting)], rfl, by simp [CallDeed.isKeyless]⟩

end SameSecrets

/-- Our keys are gone with our participation. -/
structure Cleared (c c' : Call) : Prop where
  /-- Our long-term secret. -/
  secret : c'.secret = c.secret
  /-- The key of the call. -/
  callKey : c'.callKey = c.callKey
  /-- No key is left. -/
  keys : c'.keys = c.keys.clear
  /-- There is no newest key. -/
  sendKey : c'.sendKey = none
  /-- No key was handed out, and the end was told. -/
  ended : ∃ deeds, c'.journal = c.journal ++ deeds ∧ (∀ d ∈ deeds, d.handsOut = false) ∧
    deeds.any CallDeed.ends = true

namespace Cleared

theorem of_left (h : Left c c') : Cleared c c' where
  secret := by rw [h.rest]
  callKey := by rw [h.rest]
  keys := by rw [h.rest]
  sendKey := by rw [h.rest]
  ended := by
    obtain ⟨before, after, code, heq, hbefore, hafter⟩ := h.deeds
    have hplain : ∀ l : List CallDeed, (∀ d ∈ l, d.isPlain = true) → ∀ d ∈ l, d.handsOut = false :=
      fun l hl d hd => (CallDeed.isKeyless_iff.1 (CallDeed.isKeyless_of_isPlain (hl d hd))).1
    refine ⟨_, heq, ?_, by simp [CallDeed.ends]⟩
    simp only [List.forall_mem_append]
    refine ⟨⟨⟨hplain before hbefore, ?_⟩, hplain after hafter⟩, by simp [CallDeed.handsOut]⟩
    cases c.relay <;> simp [CallDeed.handsOut]

theorem before (hsame : SameSecrets c d) (h : Cleared d c') : Cleared c c' where
  secret := h.secret.trans hsame.secret
  callKey := h.callKey.trans hsame.callKey
  keys := by rw [h.keys, hsame.keys]
  sendKey := h.sendKey
  ended := by
    obtain ⟨deeds, heq, hdeeds⟩ := hsame.keyless
    obtain ⟨deeds', heq', hdeeds', hend⟩ := h.ended
    exact ⟨deeds ++ deeds', by rw [heq', heq, List.append_assoc], List.forall_mem_append.2
      ⟨fun d hd => (CallDeed.isKeyless_iff.1 (hdeeds d hd)).1, hdeeds'⟩, by simp [hend]⟩

theorem destroyed (h : Cleared c d) : Cleared c d.destroyed where
  secret := h.secret
  callKey := h.callKey
  keys := h.keys
  sendKey := h.sendKey
  ended := by
    obtain ⟨deeds, heq, hdeeds, hend⟩ := h.ended
    refine ⟨deeds ++ [.told (.stateChanged .destroyed)], ?_, ?_, by simp [hend]⟩
    · change d.journal ++ [_] = _
      rw [heq, List.append_assoc]
    · exact List.forall_mem_append.2 ⟨hdeeds, by simp [CallDeed.handsOut]⟩

end Cleared

/-- What a step does to our keys. -/
inductive KeyChange (c : Call) (w : Surroundings) (step : CallStep) : Call → Prop
  /-- They are as before. -/
  | same {c' : Call} (h : SameSecrets c c') : KeyChange c w step c'
  /-- They are gone. -/
  | cleared {c' : Call} (h : Cleared c c') : KeyChange c w step c'
  /-- A participant that came is sent the newest one. -/
  | greeted {d : Call} {cid : Cid} {s : Session} {id : KeyId} {plain : MediaKey} {relay : Nat}
    {bytes : List UInt8} (hstep : step.greets = true) (h : SameSecrets c d)
    (hs : d.sessions.get? cid = some s) (hsend : d.sendKey = some (id, plain))
    (hwrap : d.wrapFor w plain s = .ok (s.cid, bytes)) :
    KeyChange c w step (d.post relay (.send (.key id [(s.cid, bytes)])))
  /-- Everybody is sent a new one. -/
  | rotated {d : Call} {relay : Nat} {wrapped : List (Cid × List UInt8)}
    (hstep : step.greets = false) (h : SameSecrets c d)
    (hwrap : d.wrapForAll w w.key d.recipients = .ok wrapped) :
    KeyChange c w step (d.rotated w relay wrapped)

theorem keyChange_rotateOrReport (hstep : step.greets = false) (h : SameSecrets c d) :
    KeyChange c w step (d.rotateOrReport w) := by
  obtain ⟨e, -, heq, -⟩ | ⟨relay, wrapped, hrotates, heq⟩ := d.rotateOrReport_cases w <;> rw [heq]
  · exact .same (h.trans (SameSecrets.of_deed rfl d))
  · exact .rotated hstep h hrotates.wraps

theorem keyChange_of_entry (h : Entry c c') : KeyChange c w step c' := by
  cases h with
  | seeking av => exact .same (SameSecrets.begun c av)
  | linked av url relay =>
    refine .same ((SameSecrets.begun c av).trans ?_)
    exact ⟨rfl, rfl, rfl, rfl, [.sought url, .connected relay url], by simp [record],
      by simp [CallDeed.isKeyless]⟩
  | refused av hsought hleft =>
    exact .cleared (Cleared.before
      ((SameSecrets.begun c av).trans (SameSecrets.of_aside hsought)) (Cleared.of_left hleft))

theorem keyChange_of_change (h : Change c w step c') : KeyChange c w step c' := by
  cases h with
  | aside haside => exact .same (SameSecrets.of_aside haside)
  | routine _ hroutine => exact .same (SameSecrets.of_within hroutine.toWithin)
  | up _ hup =>
    exact .same (SameSecrets.of_plain (by rw [hup.rest]) (by rw [hup.rest]) (by rw [hup.rest])
      (by rw [hup.rest]) hup.plain)
  | lost _ hlost =>
    exact .same (SameSecrets.of_plain (by rw [hlost.rest]) (by rw [hlost.rest])
      (by rw [hlost.rest]) (by rw [hlost.rest]) hlost.plain)
  | answered _ hstep hwithin =>
    exact keyChange_rotateOrReport hstep
      ((SameSecrets.of_within hwithin).trans (SameSecrets.letIn _))
  | @came cid user d _ hstep hcame =>
    have hsame := SameSecrets.of_within hcame.toWithin
    obtain ⟨-, heq⟩ | ⟨e, heq⟩ | ⟨s, id, plain, relay, bytes, hs, hsend, hwrap, heq⟩ :=
      d.greetOrReport_cases w cid <;> rw [heq]
    · exact .same hsame
    · exact .same (hsame.trans (SameSecrets.of_deed rfl d))
    · exact .greeted hstep hsame hs hsend hwrap
  | went cid _ hstep =>
    exact keyChange_rotateOrReport hstep
      (SameSecrets.of_within (Thinned.removeSession c cid).within)
  | rotated hstep =>
    obtain ⟨e, heq, -⟩ | ⟨relay, wrapped, hrotates, heq⟩ := c.rotateKey_cases w <;> rw [heq]
    · exact .same (SameSecrets.refl c)
    · exact .rotated hstep (SameSecrets.refl c) hrotates.wraps
  | left _ hleft => exact .cleared (Cleared.of_left hleft)
  | destroyed _ _ => exact .same (SameSecrets.destroyed c)
  | leftDestroyed _ hleft => exact .cleared (Cleared.of_left hleft).destroyed
  | cancelled => exact .same ⟨rfl, rfl, rfl, rfl, [], by simp [cancel], by simp⟩

theorem keyChange_take (ht : c.state ≠ .terminatingParticipation) (w : Surroundings)
    (step : CallStep) : KeyChange c w step (c.take w step) := by
  by_cases haccepts : c.accepts step = true
  · exact keyChange_of_entry (entry_take haccepts w).2
  · exact keyChange_of_change (change_take ht (by simpa using haccepts) w)

theorem KeyChange.journal (h : KeyChange c w step c') :
    ∃ l, c'.journal = c.journal ++ l := by
  cases h with
  | same hsame =>
    obtain ⟨l, heq, -⟩ := hsame.keyless
    exact ⟨l, heq⟩
  | cleared hcleared =>
    obtain ⟨l, heq, -⟩ := hcleared.ended
    exact ⟨l, heq⟩
  | @greeted d _ _ id _ relay _ _ hsame _ _ _ | @rotated d relay _ _ hsame _ =>
    obtain ⟨l, heq, -⟩ := hsame.keyless
    exact ⟨l ++ [_], (congrArg (· ++ [_]) heq).trans (List.append_assoc _ _ _)⟩

/-- What a step does comes after what was done before. -/
theorem journal_take (ht : c.state ≠ .terminatingParticipation) (w : Surroundings)
    (step : CallStep) : (c.take w step).journal = c.journal ++ c.deeds w step := by
  obtain ⟨l, heq⟩ := (keyChange_take ht w step).journal
  rw [deeds_of_journal heq, heq]

/-! ## What never changes -/

theorem KeyChange.lasting (h : KeyChange c w step c') :
    c'.secret = c.secret ∧ c'.callKey = c.callKey := by
  cases h with
  | same hsame => exact ⟨hsame.secret, hsame.callKey⟩
  | cleared hcleared => exact ⟨hcleared.secret, hcleared.callKey⟩
  | greeted _ hsame _ _ _ => exact ⟨hsame.secret, hsame.callKey⟩
  | rotated _ hsame _ => exact ⟨hsame.secret, hsame.callKey⟩

/-- Our long-term secret and the key of the call are the same all along. -/
theorem lasting_run (hlife : Lifecycle c count) (steps : List (Surroundings × CallStep)) :
    (c.run steps).secret = c.secret ∧ (c.run steps).callKey = c.callKey := by
  induction steps generalizing c count with
  | nil => exact ⟨rfl, rfl⟩
  | cons step rest ih =>
    obtain ⟨hsecret, hcallKey⟩ := (keyChange_take hlife.settled step.1 step.2).lasting
    obtain ⟨hsecret', hcallKey'⟩ := ih (hlife.take step.1 step.2)
    exact ⟨hsecret'.trans hsecret, hcallKey'.trans hcallKey⟩

/-! ## Who is sent a key -/

/-- A key is handed out as the last thing that a step does.  It is the newest key, and
everybody who is sent it is connected and has it wrapped for its user. -/
structure HandedOut (c : Call) (w : Surroundings) (deeds : List CallDeed) (id : KeyId)
    (data : List (Cid × List UInt8)) : Prop where
  /-- Nothing follows, and no other key was handed out before. -/
  last : ∃ before relay, deeds = before ++ [.posted relay (.send (.key id data))] ∧
    ∀ d ∈ before, d.handsOut = false
  /-- It is the newest key. -/
  newest : ∃ plain, c.sendKey = some (id, plain) ∧
    ∀ e ∈ data, ∃ s, c.sessions.get? e.1 = some s ∧ c.wrapFor w plain s = .ok e

/-- What was done at last, behind what was done before. -/
theorem deeds_eq_of_last {before l : List CallDeed} {deed : CallDeed}
    (hd : d.journal = c.journal ++ before) (hl : c'.journal = c.journal ++ l)
    (h : c'.journal = d.journal ++ [deed]) : l = before ++ [deed] := by
  rw [hl, hd, List.append_assoc] at h
  exact List.append_cancel_left h

/-- The one deed of a list that hands out a key. -/
theorem handsOut_unique {before : List CallDeed} {deed deed' : CallDeed}
    (hbefore : ∀ d ∈ before, d.handsOut = false) (hdeed : deed.handsOut = true)
    (hmem : deed ∈ before ++ [deed']) : deed = deed' := by
  rcases List.mem_append.1 hmem with hmem | hmem
  · exact absurd (hbefore deed hmem) (by simp [hdeed])
  · exact List.mem_singleton.1 hmem

theorem KeyChange.handedOut (h : KeyChange c w step c') {next : Nat}
    (he : Enrolled c'.sessions next) {l : List CallDeed} (hjournal : c'.journal = c.journal ++ l)
    {relay : Nat} {id : KeyId} {data : List (Cid × List UInt8)}
    (hmem : .posted relay (.send (.key id data)) ∈ l) : HandedOut c' w l id data := by
  have hkeyless : ∀ l' : List CallDeed, (∀ d ∈ l', d.isKeyless = true) →
      ∀ d ∈ l', d.handsOut = false := fun l' hl' d hd => (CallDeed.isKeyless_iff.1 (hl' d hd)).1
  cases h with
  | same hsame =>
    obtain ⟨l', heq, hl'⟩ := hsame.keyless
    obtain rfl := List.append_cancel_left (hjournal.symm.trans heq)
    cases hkeyless l hl' _ hmem
  | cleared hcleared =>
    obtain ⟨l', heq, hl', -⟩ := hcleared.ended
    obtain rfl := List.append_cancel_left (hjournal.symm.trans heq)
    cases hl' _ hmem
  | @greeted d cid s id' plain relay' bytes _ hsame hs hsend hwrap =>
    obtain ⟨before, heq, hbefore⟩ := hsame.keyless
    have hl : l = before ++ [.posted relay' (.send (.key id' [(s.cid, bytes)]))] :=
      deeds_eq_of_last heq hjournal rfl
    rw [hl] at hmem ⊢
    -- nothing before it hands out a key, so it is the one that was asked about
    cases handsOut_unique (hkeyless before hbefore) rfl hmem
    refine ⟨⟨before, relay, rfl, hkeyless before hbefore⟩, plain, hsend, fun e he' => ?_⟩
    obtain rfl := List.mem_singleton.1 he'
    exact ⟨s, by rw [he.cid_eq cid s hs]; exact hs, hwrap⟩
  | @rotated d relay' wrapped _ hsame hwrap =>
    obtain ⟨before, heq, hbefore⟩ := hsame.keyless
    have hl : l = before ++ [.posted relay' (.send (.key d.keys.nextId wrapped))] :=
      deeds_eq_of_last heq hjournal rfl
    rw [hl] at hmem ⊢
    cases handsOut_unique (hkeyless before hbefore) rfl hmem
    refine ⟨⟨before, relay, rfl, hkeyless before hbefore⟩, w.key, rfl, fun e he' => ?_⟩
    obtain ⟨s, hs, hwrapped⟩ := (mem_wrapForAll hwrap).2 e he'
    obtain ⟨hget, -⟩ := (mem_recipients (c := d) he).1 hs
    obtain ⟨-, hcid⟩ := knows_of_wrapFor hwrapped
    exact ⟨s, by rw [hcid]; exact hget, hwrapped⟩

end Call
end GroupCall
