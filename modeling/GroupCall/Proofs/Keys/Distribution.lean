/-
# Everybody has our key

While we are in a call and nothing was reported to fail since the answer that let us in,
every other participant was sent our newest key, wrapped for its user.  Three ways lead
there: a rotation sends a new key to everybody, a participant that comes is sent the newest
one, and whoever was there before had it already.  The newest key, bound to the call, is also
the one under which our frames are encrypted, as long as numbers for keys are left.
-/
import GroupCall.Proofs.Keys.Handing
import Mathlib.Data.List.DropRight

namespace GroupCall

/-- Whether a deed tells that we are in the call. -/
def CallDeed.letsIn : CallDeed → Bool
  | .told (.stateChanged .inProgress) => true
  | _ => false

theorem CallDeed.letsIn_of_isPlain {d : CallDeed} (h : d.isPlain = true) : d.letsIn = false := by
  unfold letsIn
  split
  · cases h
  · rfl

namespace Call

variable {c c' d : Call} {w : Surroundings} {step : CallStep}
  {past : List (Surroundings × CallDeed)}

/-! ## What was done, and in which surroundings -/

/-- What a run does, with what surrounds it. -/
def chronicle (c : Call) : List (Surroundings × CallStep) → List (Surroundings × CallDeed)
  | [] => []
  | (w, step) :: rest => (c.deeds w step).map (Prod.mk w) ++ (c.take w step).chronicle rest

/-- What was done since we were let in for the last time. -/
def sinceAnswer (past : List (Surroundings × CallDeed)) : List (Surroundings × CallDeed) :=
  past.rtakeWhile fun e => !e.2.letsIn

theorem sinceAnswer_append {later : List (Surroundings × CallDeed)}
    (h : ∀ e ∈ later, e.2.letsIn = false) :
    sinceAnswer (past ++ later) = sinceAnswer past ++ later := by
  induction later using List.reverseRecOn with
  | nil => simp
  | append_singleton later e ih =>
    have hlast := h e (by simp)
    rw [← List.append_assoc, sinceAnswer, List.rtakeWhile_concat_pos _ _ _ (by simp [hlast]),
      ← sinceAnswer, ih fun e he => h e (by simp [he]), List.append_assoc]

/-- What a step does belongs to what was done since we were let in, unless it lets us in. -/
theorem sinceAnswer_append_deeds {deeds : List CallDeed} (h : ∀ d ∈ deeds, d.letsIn = false) :
    sinceAnswer (past ++ deeds.map (Prod.mk w)) = sinceAnswer past ++ deeds.map (Prod.mk w) :=
  sinceAnswer_append fun e he => by
    obtain ⟨d, hd, rfl⟩ := List.mem_map.1 he
    exact h d hd

theorem mem_sinceAnswer_last {deed : CallDeed} (h : deed.letsIn = false) (l : List CallDeed) :
    (w, deed) ∈ sinceAnswer (past ++ (l ++ [deed]).map (Prod.mk w)) := by
  rw [List.map_append, ← List.append_assoc, sinceAnswer_append (by simpa using h)]
  simp

/-- A key was sent to a participant, wrapped for a user. -/
def Handed (c : Call) (past : List (Surroundings × CallDeed)) (id : KeyId) (plain : MediaKey)
    (cid : Cid) (user : UserId) : Prop :=
  ∃ w relay data wrapped, (w, .posted relay (.send (.key id data))) ∈ past ∧
    (cid, Crypto.bytesOf wrapped) ∈ data ∧
    (c.agreement w).wrapFor user (Crypto.bytesOf plain) = .ok wrapped

theorem Handed.mono {later : List (Surroundings × CallDeed)} {id : KeyId} {plain : MediaKey}
    {cid : Cid} {user : UserId} (h : c.Handed past id plain cid user)
    (hsecret : c'.secret = c.secret) (hpast : past ⊆ later) :
    c'.Handed later id plain cid user := by
  obtain ⟨w, relay, data, wrapped, hmem, hentry, hwrap⟩ := h
  refine ⟨w, relay, data, wrapped, hpast hmem, hentry, ?_⟩
  rw [agreement, hsecret]
  exact hwrap

/-- An entry that was made for a session hands it the key. -/
theorem handed_of_wrapFor {s : Session} {id : KeyId} {plain : MediaKey} {e : Cid × List UInt8}
    {relay : Nat} {data : List (Cid × List UInt8)}
    (hmem : (w, .posted relay (.send (.key id data))) ∈ past) (he : e ∈ data)
    (hwrap : c.wrapFor w plain s = .ok e) : c.Handed past id plain s.cid s.userId := by
  obtain ⟨wrapped, hwrapped, rfl⟩ := exists_of_wrapFor hwrap
  exact ⟨w, relay, data, wrapped, hmem, he, hwrapped⟩

/-! ## Everybody was sent the newest key -/

/-- In the call everybody else was sent the newest key since we were let in, unless something
was reported to fail. -/
def Distributed (c : Call) (past : List (Surroundings × CallDeed)) : Prop :=
  c.state = .inProgress → (∀ w e, (w, .told (.failed e)) ∉ sinceAnswer past) →
    ∀ id plain, c.sendKey = some (id, plain) → ∀ cid user, c.user? cid = some user → cid ≠ c.cid →
      c.Handed (sinceAnswer past) id plain cid user

theorem distributed_of_away (h : c.state ≠ .inProgress) : Distributed c past :=
  fun hin => absurd hin h

theorem distributed_of_failed {e : CallError} (h : (w, .told (.failed e)) ∈ sinceAnswer past) :
    Distributed c past :=
  fun _ hnone => absurd h (hnone w e)

/-- Nobody came, and what was done is of no consequence. -/
theorem Distributed.keep (h : Distributed c past) (hstate : c'.state = c.state)
    (husers : c'.user? = c.user?) (hcid : c'.cid = c.cid) (hsend : c'.sendKey = c.sendKey)
    (hsecret : c'.secret = c.secret) {l : List CallDeed} (hplain : ∀ d ∈ l, d.isPlain = true) :
    Distributed c' (past ++ l.map (Prod.mk w)) := by
  have hmarked : ∀ d ∈ l, d.letsIn = false := fun d hd =>
    CallDeed.letsIn_of_isPlain (hplain d hd)
  intro hin hnone id plain hkey cid user huser hother
  rw [hstate] at hin
  rw [hsend] at hkey
  rw [husers] at huser
  rw [hcid] at hother
  rw [sinceAnswer_append_deeds hmarked] at hnone ⊢
  exact (h hin (fun w e hmem => hnone w e (List.mem_append_left _ hmem)) id plain hkey cid user
    huser hother).mono hsecret (List.subset_append_left _ _)

/-- After a rotation everybody else was sent the new key. -/
theorem distributed_rotated {next : Nat} (he : Enrolled d.sessions next) {relay : Nat}
    {wrapped : List (Cid × List UInt8)}
    (hwrap : d.wrapForAll w w.key d.recipients = .ok wrapped)
    (hmem : (w, .posted relay (.send (.key d.keys.nextId wrapped))) ∈ sinceAnswer past) :
    Distributed (d.rotated w relay wrapped) past := by
  intro _ _ id plain hkey cid user huser hother
  cases hkey
  obtain ⟨s, hs, rfl⟩ := Option.map_eq_some_iff.1 huser
  obtain rfl := he.cid_eq cid s hs
  obtain ⟨e, hentry, hwrapped⟩ := (mem_wrapForAll hwrap).1 s ((mem_recipients he).2 ⟨hs, hother⟩)
  exact handed_of_wrapFor hmem hentry hwrapped

theorem distributed_rotateOrReport {next : Nat} (he : Enrolled d.sessions next)
    {before l : List CallDeed} (hd : d.journal = c.journal ++ before)
    (hl : (d.rotateOrReport w).journal = c.journal ++ l) :
    Distributed (d.rotateOrReport w) (past ++ l.map (Prod.mk w)) := by
  obtain ⟨e, -, heq, -⟩ | ⟨relay, wrapped, hrotates, heq⟩ := d.rotateOrReport_cases w
  · have hlast : l = before ++ [.told (.failed e)] := deeds_eq_of_last hd hl (by rw [heq]; rfl)
    rw [hlast]
    exact distributed_of_failed (mem_sinceAnswer_last rfl before)
  · have hlast : l = before ++ [.posted relay (.send (.key d.keys.nextId wrapped))] :=
      deeds_eq_of_last hd hl (by rw [heq]; rfl)
    rw [hlast, heq]
    exact distributed_rotated he hrotates.wraps (mem_sinceAnswer_last rfl before)

/-- A participant that comes is sent the newest key; the others had it before. -/
theorem Distributed.greet (h : Distributed c past) (hin : c.state = .inProgress) {cid : Cid}
    {user : UserId} (hcame : Came c cid user d) {next : Nat} (he : Enrolled d.sessions next)
    {l : List CallDeed} (hl : (d.greetOrReport w cid).journal = c.journal ++ l) :
    Distributed (d.greetOrReport w cid) (past ++ l.map (Prod.mk w)) := by
  obtain ⟨before, hbefore, hplain⟩ := hcame.plain
  obtain ⟨hnone, heq⟩ | ⟨e, heq⟩ | ⟨s, id, plain, relay, bytes, hs, hsend, hwrap, heq⟩ :=
    d.greetOrReport_cases w cid
  · intro _ _ id plain hkey
    rw [heq, hnone] at hkey
    cases hkey
  · have hlast : l = before ++ [.told (.failed e)] :=
      deeds_eq_of_last hbefore hl (by rw [heq]; rfl)
    rw [hlast]
    exact distributed_of_failed (mem_sinceAnswer_last rfl before)
  · have hlast : l = before ++ [.posted relay (.send (.key id [(s.cid, bytes)]))] :=
      deeds_eq_of_last hbefore hl (by rw [heq]; rfl)
    rw [hlast, heq]
    have hmarked : ∀ d ∈ before ++ [CallDeed.posted relay (.send (.key id [(s.cid, bytes)]))],
        d.letsIn = false :=
      List.forall_mem_append.2 ⟨fun d hd => CallDeed.letsIn_of_isPlain (hplain d hd),
        by simp [CallDeed.letsIn]⟩
    intro _ hnone id' plain' hkey cid' user' huser hother
    cases hsend.symm.trans hkey
    have hconnected : d.user? cid' = some user' := huser
    by_cases hcid : cid' = cid
    · -- the one that came
      subst hcid
      obtain rfl : s.cid = cid' := he.cid_eq cid' s hs
      rw [user?, hs] at hconnected
      obtain rfl : s.userId = user' := Option.some.inj hconnected
      exact handed_of_wrapFor (c := d) (mem_sinceAnswer_last rfl before) (List.mem_singleton_self _)
        hwrap
    · -- the others
      rw [hcame.users, if_neg hcid] at hconnected
      rw [sinceAnswer_append_deeds hmarked] at hnone ⊢
      have hsend' : c.sendKey = some (id, plain) := by
        rw [hcame.rest] at hsend
        exact hsend
      have hother' : cid' ≠ c.cid := fun heq' => hother (heq'.trans hcame.cid.symm)
      exact (h hin (fun w e hmem => hnone w e (List.mem_append_left _ hmem)) id plain hsend' cid'
        user' hconnected hother').mono (by rw [hcame.rest]; rfl) (List.subset_append_left _ _)

/-! ### Every step -/

theorem Distributed.of_change (h : Distributed c past) (hchange : Change c w step c') {next : Nat}
    (he : Enrolled c'.sessions next) {l : List CallDeed} (hl : c'.journal = c.journal ++ l) :
    Distributed c' (past ++ l.map (Prod.mk w)) := by
  have hdeeds : ∀ l', c'.journal = c.journal ++ l' → l' = l := fun l' heq =>
    List.append_cancel_left (heq.symm.trans hl)
  cases hchange with
  | aside haside =>
    obtain ⟨l', heq, hplain⟩ := haside.plain
    obtain rfl := hdeeds l' heq
    exact h.keep (by rw [haside.rest]) (by rw [haside.rest]; rfl) (by rw [haside.rest])
      (by rw [haside.rest]) (by rw [haside.rest]) hplain
  | routine _ hroutine =>
    obtain ⟨l', heq, hplain⟩ := hroutine.plain
    obtain rfl := hdeeds l' heq
    exact h.keep (by rw [hroutine.rest]) hroutine.users hroutine.cid (by rw [hroutine.rest])
      (by rw [hroutine.rest]) hplain
  | up _ hup => exact distributed_of_away (by rw [hup.rest]; simp)
  | lost _ hlost => exact distributed_of_away (by rw [hlost.rest]; simp)
  | @answered e _ _ hwithin =>
    obtain ⟨before, heq, -⟩ := hwithin.plain
    have hjournal : e.letIn.journal =
        c.journal ++ (before ++ [.told (.stateChanged .inProgress)]) := by
      change e.journal ++ [_] = _
      rw [heq, List.append_assoc]
    have hsessions := (SameMedia.rotateOrReport e.letIn w).sessions
    exact distributed_rotateOrReport (hsessions ▸ he) hjournal hl
  | @came cid user d hin _ hcame =>
    have hsessions : (d.greetOrReport w cid).sessions = d.sessions := by
      obtain ⟨-, heq⟩ | ⟨e, heq⟩ | ⟨s, id, plain, relay, bytes, -, -, -, heq⟩ :=
        d.greetOrReport_cases w cid <;> rw [heq] <;> rfl
    exact h.greet hin hcame (hsessions ▸ he) hl
  | went cid _ _ =>
    obtain ⟨before, heq, -⟩ := (Thinned.removeSession c cid).plain
    have hsessions := (SameMedia.rotateOrReport (c.removeSession cid) w).sessions
    exact distributed_rotateOrReport (hsessions ▸ he) heq hl
  | rotated _ =>
    obtain ⟨e, heq, -⟩ | ⟨relay, wrapped, hrotates, heq⟩ := c.rotateKey_cases w
    · rw [heq] at hl ⊢
      obtain rfl : l = [] := by simpa using hl
      exact h.keep rfl rfl rfl rfl rfl (by simp)
    · rw [heq] at hl he ⊢
      have hposted : c.journal ++ [.posted relay (.send (.key c.keys.nextId wrapped))] =
        c.journal ++ l := hl
      rw [← List.append_cancel_left hposted]
      exact distributed_rotated (d := c) he hrotates.wraps (mem_sinceAnswer_last rfl [])
  | left _ hleft => exact distributed_of_away (by rw [hleft.rest]; simp)
  | destroyed _ _ => exact distributed_of_away (by simp [Call.destroyed, tell, record])
  | leftDestroyed _ _ => exact distributed_of_away (by simp [Call.destroyed, tell, record])
  | cancelled =>
    obtain rfl : l = [] := by simpa [cancel] using hl
    exact h.keep rfl rfl rfl rfl rfl (by simp)

theorem distributed_of_entry (h : Entry c c') : Distributed c' past := by
  refine distributed_of_away ?_
  cases h with
  | seeking av => simp [begun, tell, record]
  | linked av url relay => simp [begun, tell, record]
  | refused av _ hleft =>
    rw [hleft.rest]
    simp

theorem Distributed.take (h : Distributed c past) (ht : c.state ≠ .terminatingParticipation)
    {next : Nat} (he : Enrolled (c.take w step).sessions next) :
    Distributed (c.take w step) (past ++ (c.deeds w step).map (Prod.mk w)) := by
  by_cases haccepts : c.accepts step = true
  · exact distributed_of_entry (entry_take haccepts w).2
  · exact h.of_change (change_take ht (by simpa using haccepts) w) he (journal_take ht w step)

theorem Distributed.run (h : Distributed c past) {count : Nat} (hlife : Lifecycle c count)
    {history : List Binding} (hwired : Wired history [] [] c)
    (steps : List (Surroundings × CallStep)) :
    Distributed (c.run steps) (past ++ c.chronicle steps) := by
  induction steps generalizing c past count history with
  | nil =>
    rw [chronicle, List.append_nil]
    exact h
  | cons step rest ih =>
    obtain ⟨w, step⟩ := step
    have hwired' := hwired.run [(w, step)]
    rw [chronicle, ← List.append_assoc]
    exact ih (h.take hlife.settled hwired'.enrolled) (hlife.take w step) hwired'

/-! ## The newest key is in use -/

/-- Whether a step makes a new key and hands it out. -/
def rotates (c : Call) (w : Surroundings) (step : CallStep) : Bool :=
  !step.greets && (c.deeds w step).any CallDeed.handsOut

/-- What a step that does so much makes of our ring: it is as before, or cleared as our
participation ends, or a new key comes in under the next number. -/
inductive RingChange (c : Call) (step : CallStep) (c' : Call) (deeds : List CallDeed) : Prop
  /-- Our keys are as before. -/
  | kept (hkeys : c'.keys = c.keys) (hsend : c'.sendKey = c.sendKey)
    (hends : deeds.any CallDeed.ends = false)
    (hhands : (!step.greets && deeds.any CallDeed.handsOut) = false)
  /-- Our participation ended. -/
  | ended (hkeys : c'.keys = c.keys.clear) (hsend : c'.sendKey = none)
    (hends : deeds.any CallDeed.ends = true)
  /-- There is a new key. -/
  | renewed (plain : MediaKey) (hkeys : c'.keys = c.keys.insert c.keys.nextId (c.frameKey plain))
    (hsend : c'.sendKey = some (c.keys.nextId, plain))
    (hends : deeds.any CallDeed.ends = false)
    (hhands : (!step.greets && deeds.any CallDeed.handsOut) = true)

theorem KeyChange.ringChange (h : KeyChange c w step c') {l : List CallDeed}
    (hl : c'.journal = c.journal ++ l) : RingChange c step c' l := by
  have hnone : ∀ before : List CallDeed, (∀ d ∈ before, d.isKeyless = true) →
      before.any CallDeed.ends = false ∧ before.any CallDeed.handsOut = false := by
    intro before hbefore
    simp only [List.any_eq_false]
    exact ⟨fun d hd => by simp [(CallDeed.isKeyless_iff.1 (hbefore d hd)).2],
      fun d hd => by simp [(CallDeed.isKeyless_iff.1 (hbefore d hd)).1]⟩
  -- a key that is handed out comes behind what hands out none
  have hlast : ∀ {d : Call} {deed : CallDeed}, SameSecrets c d → deed.ends = false →
      c'.journal = d.journal ++ [deed] →
        l.any CallDeed.ends = false ∧ l.any CallDeed.handsOut = deed.handsOut := by
    intro d deed hsame hends hposted
    obtain ⟨before, heq, hbefore⟩ := hsame.keyless
    obtain ⟨hfirst, hfirst'⟩ := hnone before hbefore
    rw [deeds_eq_of_last heq hl hposted]
    simp [hfirst, hfirst', hends]
  cases h with
  | same hsame =>
    obtain ⟨l', heq, hl'⟩ := hsame.keyless
    obtain rfl := List.append_cancel_left (hl.symm.trans heq)
    obtain ⟨hends, hhands⟩ := hnone l hl'
    exact .kept hsame.keys hsame.sendKey hends (by simp [hhands])
  | cleared hcleared =>
    obtain ⟨l', heq, -, hend⟩ := hcleared.ended
    obtain rfl := List.append_cancel_left (hl.symm.trans heq)
    exact .ended hcleared.keys hcleared.sendKey hend
  | greeted hstep hsame _ _ _ =>
    obtain ⟨hends, -⟩ := hlast hsame rfl rfl
    exact .kept hsame.keys hsame.sendKey hends (by simp [hstep])
  | @rotated d relay wrapped hstep hsame _ =>
    obtain ⟨hends, hhands⟩ := hlast hsame rfl rfl
    have hkeys : (d.rotated w relay wrapped).keys =
        d.keys.insert d.keys.nextId (d.frameKey w.key) := rfl
    have hsend : (d.rotated w relay wrapped).sendKey = some (d.keys.nextId, w.key) := rfl
    rw [frameKey, hsame.callKey, hsame.keys] at hkeys
    rw [hsame.keys] at hsend
    exact .renewed w.key hkeys hsend hends (by simp [hstep, hhands, CallDeed.handsOut])

theorem ringChange_take (ht : c.state ≠ .terminatingParticipation) (w : Surroundings)
    (step : CallStep) : RingChange c step (c.take w step) (c.deeds w step) :=
  (keyChange_take ht w step).ringChange (journal_take ht w step)

/-- The rotations of our participation after a run, of which there were so many before it. -/
def rotations (c : Call) (count : Nat) : List (Surroundings × CallStep) → Nat
  | [] => count
  | (w, step) :: rest =>
    (c.take w step).rotations
      (if (c.deeds w step).any CallDeed.ends then 0
        else if c.rotates w step then count + 1 else count) rest

/-- After so many rotations the newest key, bound to the call, is in use under the number
before, unless numbers were given twice. -/
def Numbered (c : Call) : Nat → Prop
  | 0 => c.keys.current = none ∧ c.sendKey = none
  | n + 1 => n < 2 ^ 32 → ∃ plain, c.sendKey = some (.ofNat n, plain) ∧
      c.keys.current = some (.ofNat n) ∧ c.keys.get? (.ofNat n) = some (c.frameKey plain)

variable {count : Nat}

theorem Numbered.keep (h : Numbered c count) (hcallKey : c'.callKey = c.callKey)
    (hkeys : c'.keys = c.keys) (hsend : c'.sendKey = c.sendKey) : Numbered c' count := by
  cases count with
  | zero => exact ⟨by rw [hkeys, h.1], by rw [hsend, h.2]⟩
  | succ n =>
    simp only [Numbered, frameKey, hkeys, hsend, hcallKey]
    exact h

/-- The number of the next key is the count of the rotations before it. -/
theorem Numbered.nextId (h : Numbered c count) (hcount : count < 2 ^ 32) :
    c.keys.nextId = .ofNat count ∧ c.keys.current ≠ some KeyRing.lastId := by
  cases count with
  | zero =>
    rw [KeyRing.nextId, h.1]
    exact ⟨rfl, by simp⟩
  | succ n =>
    obtain ⟨plain, -, hcurrent, -⟩ := h (by omega)
    have hn : (UInt32.ofNat n).toNat = n :=
      UInt32.toNat_ofNat_of_lt' (show n < 2 ^ 32 by omega)
    rw [KeyRing.nextId, hcurrent]
    refine ⟨UInt32.toNat_inj.1 ?_, fun heq => ?_⟩
    · rw [UInt32.toNat_add, hn, UInt32.toNat_ofNat_of_lt' hcount]
      exact Nat.mod_eq_of_lt hcount
    · have hlast := congrArg UInt32.toNat (Option.some.inj heq)
      rw [hn] at hlast
      simp only [KeyRing.lastId, UInt32.reduceToNat] at hlast
      omega

theorem Numbered.renewed (h : Numbered c count) (hring : c.keys.Sound) {plain : MediaKey}
    (hcallKey : c'.callKey = c.callKey)
    (hkeys : c'.keys = c.keys.insert c.keys.nextId (c.frameKey plain))
    (hsend : c'.sendKey = some (c.keys.nextId, plain)) : Numbered c' (count + 1) := by
  intro hcount
  obtain ⟨hnext, hlast⟩ := h.nextId hcount
  have hkey : c'.frameKey plain = c.frameKey plain := by rw [frameKey, hcallKey, frameKey]
  refine ⟨plain, ?_, ?_, ?_⟩ <;> rw [← hnext]
  · exact hsend
  · rw [hkeys]
    exact KeyRing.current_insert_nextId hlast _
  · rw [hkeys, hkey]
    exact hring.get?_insert_nextId hlast _

theorem Numbered.take (h : Numbered c count) (hring : c.keys.Sound)
    (ht : c.state ≠ .terminatingParticipation) (w : Surroundings) (step : CallStep) :
    Numbered (c.take w step) (if (c.deeds w step).any CallDeed.ends then 0
      else if c.rotates w step then count + 1 else count) := by
  have hcallKey := (keyChange_take ht w step).lasting.2
  rw [rotates]
  cases ringChange_take ht w step with
  | kept hkeys hsend hends hhands =>
    rw [hends, hhands]
    exact h.keep hcallKey hkeys hsend
  | ended hkeys hsend hends =>
    rw [hends]
    exact ⟨by rw [hkeys]; rfl, hsend⟩
  | renewed plain hkeys hsend hends hhands =>
    rw [hends, hhands]
    exact h.renewed hring hcallKey hkeys hsend

theorem Numbered.run (h : Numbered c count) (haccounted : Accounted c) {joins : Nat}
    (hlife : Lifecycle c joins) (steps : List (Surroundings × CallStep)) :
    Numbered (c.run steps) (c.rotations count steps) := by
  induction steps generalizing c count joins with
  | nil => exact h
  | cons step rest ih =>
    obtain ⟨w, step⟩ := step
    rw [rotations]
    exact ih (h.take haccounted.ring hlife.settled w step) (haccounted.take w step)
      (hlife.take w step)

/-- While numbers are left, the newest key is in use. -/
theorem Numbered.currentKey? (h : Numbered c count) (hcount : count < 2 ^ 32) {id : KeyId}
    {plain : MediaKey} (hsend : c.sendKey = some (id, plain)) :
    c.keys.currentKey? = some (id, c.frameKey plain) := by
  cases count with
  | zero =>
    rw [h.2] at hsend
    cases hsend
  | succ n =>
    obtain ⟨plain', hsend', hcurrent, hkey⟩ := h (by omega)
    cases hsend.symm.trans hsend'
    rw [KeyRing.currentKey?, hcurrent, Option.bind_some, hkey]
    rfl

/-! ## Runs -/

/-- In every run of a new call, everybody else was sent the newest key since we were let in,
unless something was reported to fail; whoever is sent a key is connected at that moment; and
the newest key is in use, as long as our participation has not used up all numbers. -/
theorem distribution_along_runs (id : CallId) (chat : ChatId) (us : UserId) (config : CallConfig)
    (secret : IdentitySecret) (callKey : Option MediaKey)
    (steps : List (Surroundings × CallStep)) :
    (((new id chat us config secret callKey).run steps).state = .inProgress →
      (∀ w e, (w, .told (.failed e)) ∉
        sinceAnswer ((new id chat us config secret callKey).chronicle steps)) →
      ∀ n plain, ((new id chat us config secret callKey).run steps).sendKey = some (n, plain) →
        ∀ s ∈ ((new id chat us config secret callKey).run steps).sessions.values,
          s.cid ≠ ((new id chat us config secret callKey).run steps).cid →
            ((new id chat us config secret callKey).run steps).Handed
              (sinceAnswer ((new id chat us config secret callKey).chronicle steps))
              n plain s.cid s.userId) ∧
    (∀ w step relay n data, .posted relay (.send (.key n data)) ∈
        ((new id chat us config secret callKey).run steps).deeds w step →
      HandedOut (((new id chat us config secret callKey).run steps).take w step) w
        (((new id chat us config secret callKey).run steps).deeds w step) n data) ∧
    ∀ n plain, ((new id chat us config secret callKey).run steps).sendKey = some (n, plain) →
      (new id chat us config secret callKey).rotations 0 steps < 2 ^ 32 →
        ((new id chat us config secret callKey).run steps).keys.currentKey? =
          some (n, ((new id chat us config secret callKey).run steps).frameKey plain) := by
  have hlife := lifecycle_new id chat us config secret callKey
  have hwired := wired_new id chat us config secret callKey
  have haccounted := accounted_new id chat us config secret callKey
  have haway : Distributed (new id chat us config secret callKey) [] :=
    distributed_of_away (by simp [new])
  have hunused : Numbered (new id chat us config secret callKey) 0 := ⟨rfl, rfl⟩
  have hdistributed := haway.run hlife hwired steps
  have hnumbered := hunused.run haccounted hlife steps
  have hlife' := hlife.run steps
  have hwired' := hwired.run steps
  rw [List.nil_append] at hdistributed
  refine ⟨fun hin hnone n plain hsend s hs hother => ?_, fun w step relay n data hmem => ?_,
    fun n plain hsend hcount => hnumbered.currentKey? hcount hsend⟩
  · obtain ⟨cid, hget⟩ := hwired'.enrolled.sorted.mem_values_iff.1 hs
    obtain rfl := hwired'.enrolled.cid_eq cid s hget
    exact hdistributed hin hnone n plain hsend s.cid s.userId (by rw [user?, hget]; rfl) hother
  · exact (keyChange_take hlife'.settled w step).handedOut (hwired'.run [(w, step)]).enrolled
      (journal_take hlife'.settled w step) hmem

end Call
end GroupCall
