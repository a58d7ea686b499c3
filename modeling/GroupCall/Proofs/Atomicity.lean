/-
# Requests that are refused

A request of the application first reads: our rights, the stage of the call, what it is about,
the keys of everybody who is to be sent one.  Then one step can still fail, which is to hand the
command to the relay, and only then is anything else changed, by steps that cannot fail.  So a
request that is refused leaves the whole call as it was, with everything that it told and handed
over, and a run without the requests that were refused in it is the same run.  Taking part is
different, since it goes through stages, and so is a change of what we send, which takes effect
before the relay is told.
-/
import GroupCall.Proofs.Keys.Lockout
import GroupCall.Proofs.Refusals

namespace GroupCall

/-- Whether a request is carried out as a whole or not at all. -/
def CallRequest.isAtomic : CallRequest → Bool
  | .join _ => false
  | .updateAv _ => false
  | _ => true

variable {α β : Type} {c : Call} {w : Surroundings} {request : CallRequest}

/-! ## Operations -/

namespace Call

/-- If an operation is refused, the call is the one before. -/
def Whole (c : Call) (outcome : Call × Except CallError α) : Prop :=
  ∀ e, outcome.2 = .error e → outcome.1 = c

theorem whole_ok (c c' : Call) (a : α) : Whole c (c', .ok a) := by
  intro e h
  cases h

theorem whole_error (c : Call) (e : CallError) : Whole c (c, (.error e : Except CallError α)) :=
  fun _ _ => rfl

theorem whole_answered {outcome : Call × Except CallError α} (h : Whole c outcome)
    (reply : α → CallReply) : Whole c (answered outcome reply) := by
  obtain ⟨c', result⟩ := outcome
  cases result with
  | error e =>
    have hsame : c' = c := h e rfl
    exact hsame ▸ whole_error c' e
  | ok a => exact whole_ok c c' _

end Call

namespace Operation

open Call

/-- The call is as before, whatever comes of the operation. -/
def Reads (operation : Operation α) : Prop := ∀ c : Call, (c.attempt operation).1 = c

/-- The operation cannot fail. -/
def Sure (operation : Operation α) : Prop := ∀ c : Call, ∃ a, (c.attempt operation).2 = .ok a

/-- The operation is carried out as a whole or not at all. -/
def Atomic (operation : Operation α) : Prop := ∀ c : Call, Whole c (c.attempt operation)

variable {operation : Operation α} {next : α → Operation β}

theorem Sure.atomic (h : Sure operation) : Atomic operation := fun c e hrefused => by
  obtain ⟨a, hok⟩ := h c
  cases hok.symm.trans hrefused

theorem reads_get : Reads get := fun _ => rfl

theorem reads_demand (condition : Call → Except CallError α) :
    Reads (demand condition) := fun c => by
  rw [attempt_demand]

theorem sure_pure (a : α) : Sure (pure a) := fun _ => ⟨a, rfl⟩

theorem sure_modify (f : Call → Call) : Sure (modify f) := fun _ => ⟨(), rfl⟩

theorem Sure.bind (h : Sure operation) (hnext : ∀ a, Sure (next a)) :
    Sure (operation >>= next) := fun c => by
  obtain ⟨a, hok⟩ := h c
  rw [attempt_bind]
  split <;> rename_i heq <;> rw [heq] at hok
  · exact hnext _ _
  · cases hok

/-- What only reads can be done before an operation that is carried out as a whole. -/
theorem Reads.bind (h : Reads operation) (hnext : ∀ a, Atomic (next a)) :
    Atomic (operation >>= next) := fun c e hrefused => by
  have hsame := h c
  rw [attempt_bind] at hrefused ⊢
  split at hrefused <;> rename_i heq <;> rw [heq] at hsame <;> cases hsame
  · exact hnext _ _ e hrefused
  · rfl

/-- What cannot fail can be done after an operation that is carried out as a whole. -/
theorem Atomic.bind (h : Atomic operation) (hnext : ∀ a, Sure (next a)) :
    Atomic (operation >>= next) := fun c e hrefused => by
  have hwhole := h c
  rw [attempt_bind] at hrefused ⊢
  split at hrefused <;> rename_i heq <;> rw [heq] at hwhole
  · obtain ⟨b, hok⟩ := hnext _ _
    cases hok.symm.trans hrefused
  · exact hwhole _ rfl

theorem reads_mapM_demand (condition : α → Call → Except CallError β) (l : List α) :
    Reads (l.mapM fun a => demand (condition a)) := fun c => by
  rw [attempt_mapM_demand]

/-- A request is handed over, or the connection does not take it and nothing has happened. -/
theorem atomic_hand (w : Surroundings) (request : RelayRequest) :
    Atomic (hand w request) := fun c => by
  obtain ⟨e, heq⟩ | ⟨relay, -, -, heq⟩ := c.hand_cases w request <;> rw [heq]
  · exact whole_error c e
  · exact whole_ok c _ ()

end Operation

namespace Call

open Operation

/-! ## Requests -/

theorem atomic_command (w : Surroundings) (operation : String)
    (find : Call → Except CallError OutboundCommand) (follow : Call → Call) :
    Atomic (command w operation find follow) :=
  (reads_demand _).bind fun _ => (reads_demand find).bind fun _ =>
    (atomic_hand w _).bind fun _ => sure_modify follow

theorem atomic_moderate (w : Surroundings) (operation : String)
    (find : Call → Except CallError OutboundCommand) (follow : Call → Call) :
    Atomic (moderate w operation find follow) :=
  (reads_demand requireModerator).bind fun _ => atomic_command w operation find follow

/-- The keys of everybody are wrapped before any of them is sent. -/
theorem whole_rotateKey (c : Call) (w : Surroundings) : Whole c (c.rotateKey w) := by
  refine (reads_demand _).bind (fun _ => ?_) c
  refine reads_get.bind fun _ => reads_get.bind fun _ => ?_
  refine (reads_mapM_demand _ _).bind fun wrapped => (reads_demand requireAlive).bind fun _ => ?_
  exact (atomic_hand w _).bind fun _ => (sure_modify _).bind fun _ => sure_pure _

theorem whole_abortReconnect (c : Call) : Whole c c.abortReconnect :=
  (reads_demand requireRelay).bind (fun _ => (sure_modify _).atomic) c

theorem whole_addParticipant (c : Call) (user : UserId) : Whole c (c.addParticipant user) := by
  refine (reads_demand requireOpen).bind (fun _ => reads_get.bind fun _ => ?_) c
  split
  · exact (sure_pure _).atomic
  · exact ((sure_modify _).bind fun _ => sure_pure _).atomic

theorem whole_removeParticipant (c : Call) (user : UserId) :
    Whole c (c.removeParticipant user) := by
  refine (reads_demand requireOpen).bind (fun _ => reads_get.bind fun _ => ?_) c
  split
  · exact ((sure_modify _).bind fun _ => sure_pure _).atomic
  · exact (sure_pure _).atomic

theorem whole_hangup (c : Call) : Whole c c.hangup := by
  rw [hangup]
  split
  · exact whole_ok c _ ()
  · exact whole_error c _

theorem whole_requestSpeaker (c : Call) (w : Surroundings) (add : Bool) :
    Whole c (c.requestSpeaker w add) := by
  rw [requestSpeaker]
  split <;> exact atomic_command w _ _ _ c

theorem whole_stopSpeak (c : Call) (w : Surroundings) (cid : Cid) :
    Whole c (c.stopSpeak w cid) := by
  rw [stopSpeak]
  split
  · exact atomic_command w _ _ _ c
  · exact atomic_moderate w _ _ _ c

theorem whole_perform (h : request.isAtomic = true) (c : Call) (w : Surroundings) :
    Whole c (c.perform w request) := by
  cases request with
  | join av => cases h
  | updateAv av => cases h
  | hangup => exact whole_answered (whole_hangup c) _
  | abortReconnect => exact whole_answered (whole_abortReconnect c) _
  | rotateKey => exact whole_answered (whole_rotateKey c w) _
  | addParticipant user => exact whole_answered (whole_addParticipant c user) _
  | removeParticipant user => exact whole_answered (whole_removeParticipant c user) _
  | approveSpeakRequest cid allow => exact whole_answered (atomic_moderate w _ _ _ c) _
  | requestSpeaker add => exact whole_answered (whole_requestSpeaker c w add) _
  | stopSpeak cid => exact whole_answered (whole_stopSpeak c w cid) _
  | snapshot => exact whole_ok c c _
  | destroy => exact whole_ok c _ _
  | _ => exact whole_answered (atomic_command w _ _ _ c) _

/-! ## The rights of moderators -/

theorem stopSpeak_of_not_moderator (h : c.isModerator = false) (w : Surroundings) {cid : Cid}
    (hother : cid ≠ 0) (hus : c.isUs cid = false) :
    c.stopSpeak w cid = (c, .error .accessDenied) := by
  -- zero stands for us too, and everybody may stop speaking
  rw [stopSpeak, if_neg (by simp [hother, hus])]
  exact moderate_of_not_moderator h w _ _ _

/-! ## Runs -/

/-- Whether a step is a request that is refused as a whole. -/
def refuses (c : Call) (w : Surroundings) : CallStep → Bool
  | .request request => request.isAtomic && (c.perform w request).2.toOption.isNone
  | _ => false

theorem take_of_refuses {step : CallStep} (h : c.refuses w step = true) : c.take w step = c := by
  cases step with
  | request request =>
    rw [refuses, Bool.and_eq_true] at h
    obtain ⟨hatomic, hrefused⟩ := h
    cases houtcome : (c.perform w request).2 with
    | error e => exact whole_perform hatomic c w e houtcome
    | ok reply =>
      rw [houtcome] at hrefused
      cases hrefused
  | _ => cases h

/-- A run without the requests that are refused in it. -/
def effective (c : Call) : List (Surroundings × CallStep) → List (Surroundings × CallStep)
  | [] => []
  | step :: rest =>
    if c.refuses step.1 step.2 then c.effective rest
    else step :: (c.take step.1 step.2).effective rest

theorem run_effective (c : Call) (steps : List (Surroundings × CallStep)) :
    c.run (c.effective steps) = c.run steps := by
  induction steps generalizing c with
  | nil => rfl
  | cons step rest ih =>
    rw [effective]
    split
    · rename_i hrefused
      have hsame : c.take step.1 step.2 = c := take_of_refuses hrefused
      calc c.run (c.effective rest) = c.run rest := ih c
        _ = (c.take step.1 step.2).run rest := by rw [hsame]
    · exact ih (c.take step.1 step.2)

/-- A refused request leaves the whole call as it was, in every state, with any arguments and in
any surroundings, and no run is different without it.  Who is not a moderator is always denied
the rights of one. -/
theorem refusals_are_atomic (c : Call) :
    (∀ w request e, CallRequest.isAtomic request = true →
      (c.perform w request).2 = .error e → (c.perform w request).1 = c) ∧
    (c.isModerator = false → ∀ w cid,
      (∀ allow, c.perform w (.approveSpeakRequest cid allow) = (c, .error .accessDenied)) ∧
        (cid ≠ 0 → c.isUs cid = false →
          c.perform w (.stopSpeak cid) = (c, .error .accessDenied))) ∧
    ∀ steps, c.run (c.effective steps) = c.run steps := by
  refine ⟨?_, ?_, run_effective c⟩
  · intro w request e hatomic hrefused
    exact whole_perform hatomic c w e hrefused
  · intro hmoderator w cid
    constructor
    · intro allow
      rw [perform, approveSpeakRequest, moderate_of_not_moderator hmoderator]
      rfl
    · intro hother hus
      rw [perform, stopSpeak_of_not_moderator hmoderator w hother hus]
      rfl

/-- A new key is wrapped for the first participant and cannot be wrapped for the second one. -/
theorem refusals_are_atomic_midway :
    let c := (new ⟨"call"⟩ ⟨"chat"⟩ ⟨"U0"⟩ ⟨1, 16, 1, 1, none⟩ (Vector.replicate 32 1) none).run
      (lapseSteps.take 4)
    c.recipients.map (fun s => ((c.wrapFor (lapseSurroundings .joined)
        (lapseSurroundings .joined).key s).toOption.isSome)) = [true, false] ∧
      (c.perform (lapseSurroundings .joined) .rotateKey).1 = c := by
  intro c
  have hwrapped : c.recipients.map (fun s => ((c.wrapFor (lapseSurroundings .joined)
      (lapseSurroundings .joined).key s).toOption.isSome)) = [true, false] := by decide +kernel
  have hrefused : (c.perform (lapseSurroundings .joined) .rotateKey).2.toOption.isNone = true := by
    decide +kernel
  refine ⟨hwrapped, ?_⟩
  cases houtcome : (c.perform (lapseSurroundings .joined) .rotateKey).2 with
  | error e => exact (refusals_are_atomic c).1 _ _ e rfl houtcome
  | ok reply =>
    rw [houtcome] at hrefused
    cases hrefused

end Call
end GroupCall
