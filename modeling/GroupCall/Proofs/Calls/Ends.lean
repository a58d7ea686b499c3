/-
# How a call ends

A run carries out requests and answers them.  Only one to destroy the call destroys it, and a
call that is destroyed was destroyed at such a request, or because nobody could make any more.
Until then and after, it keeps its name.
-/
import GroupCall.Proofs.Company.Turns
import GroupCall.Proofs.Keys.Handing

namespace GroupCall

/-- The request that a step carries out. -/
def CallStep.request? : CallStep → Option CallRequest
  | .request asked => some asked
  | _ => none

/-- Surroundings in which nothing can be found. -/
def Surroundings.barren : Surroundings where
  relay := .new
  relayEnds := false
  publicKey _ := none
  url := none
  connect _ := .error .notConnected
  ivs := ⟨⟨0⟩, ⟨0⟩, ⟨0⟩⟩
  key := Vector.replicate 16 0
  faults := .none

/-! ## What a run carries out -/

namespace Call

variable {c base : Call} {w : Surroundings} {step : CallStep} {count : Nat}
  {history : List (Surroundings × CallStep)}

/-- The requests that a run carries out. -/
def carried (history : List (Surroundings × CallStep)) : List CallRequest :=
  history.filterMap fun step => step.2.request?

/-- What a run answers them. -/
def answers (c : Call) : List (Surroundings × CallStep) → List (Except CallError CallReply)
  | [] => []
  | (w, step) :: rest =>
    (step.request?.map fun request => (c.perform w request).2).toList ++
      (c.take w step).answers rest

theorem carried_append (first second : List (Surroundings × CallStep)) :
    carried (first ++ second) = carried first ++ carried second :=
  List.filterMap_append

theorem answers_append (c : Call) (first second : List (Surroundings × CallStep)) :
    c.answers (first ++ second) = c.answers first ++ (c.run first).answers second := by
  induction first generalizing c with
  | nil => rfl
  | cons step rest ih =>
    rw [List.cons_append, answers, answers, ih, List.append_assoc]
    rfl

theorem length_answers (c : Call) (history : List (Surroundings × CallStep)) :
    (c.answers history).length = (carried history).length := by
  induction history generalizing c with
  | nil => rfl
  | cons step rest ih =>
    obtain ⟨w, step⟩ := step
    have hrest := ih (c.take w step)
    cases hrequest : step.request? <;>
      simp [answers, carried, hrequest] at hrest ⊢ <;> omega

theorem run_concat (base : Call) (history : List (Surroundings × CallStep)) (w : Surroundings)
    (step : CallStep) : base.run (history ++ [(w, step)]) = (base.run history).take w step :=
  run_append base history [(w, step)]

theorem carried_concat (hstep : step.request? = none) :
    carried (history ++ [(w, step)]) = carried history := by
  rw [carried_append]
  simp [carried, hstep]

theorem answers_concat (hstep : step.request? = none) :
    base.answers (history ++ [(w, step)]) = base.answers history := by
  rw [answers_append, answers, hstep]
  exact List.append_nil _

theorem carried_request (request : CallRequest) :
    carried (history ++ [(w, .request request)]) = carried history ++ [request] :=
  carried_append history [(w, .request request)]

theorem answers_request (request : CallRequest) :
    base.answers (history ++ [(w, .request request)]) =
      base.answers history ++ [((base.run history).perform w request).2] :=
  answers_append base history [(w, .request request)]

/-! ## What destroys a call, and what its name is -/

theorem isDestroyed_of_ne (hs : c.state ≠ .destroyed) : c.state.isDestroyed = false := by
  cases h : c.state <;> simp_all [CallState.isDestroyed]

/-- A step that does not destroy a call leaves it one that is not destroyed. -/
theorem state_take_ne_destroyed (h : Lifecycle c count) (hs : c.state ≠ .destroyed)
    (w : Surroundings) (hstep : step ≠ .request .destroy) :
    (c.take w step).state ≠ .destroyed := by
  by_cases haccepts : c.accepts step = true
  · obtain ⟨-, hentry⟩ := entry_take haccepts w
    generalize c.take w step = d at hentry
    cases hentry with
    | seeking av => simp [begun, tell, record]
    | linked av url relay => simp [begun, tell, record]
    | refused av hsought hleft => rw [hleft.rest]; simp
  · have hchange := change_take h.settled (by simpa using haccepts) w
    generalize c.take w step = d at hchange
    cases hchange with
    | aside h => rw [h.stays.state]; exact hs
    | routine hlink h => rw [h.toWithin.stays.state]; exact hs
    | up hs h => rw [h.rest]; simp
    | lost hs h => rw [h.rest]; simp
    | answered hs hgreets h => rw [(stays_rotateOrReport _ w).state]; simp [letIn, tell, record]
    | came hs hgreets h =>
      rw [(h.toWithin.stays.trans (stays_greetOrReport _ w _)).state]
      assumption
    | went cid hs hgreets =>
      rw [((Thinned.removeSession c cid).within.stays.trans (stays_rotateOrReport _ w)).state]
      assumption
    | rotated hgreets => rw [(stays_rotateKey c w).state]; exact hs
    | left hs h => rw [h.rest]; simp
    | destroyed hs halive hdestroys => exact absurd hdestroys hstep
    | leftDestroyed hs h hdestroys => exact absurd hdestroys hstep
    | cancelled => exact hs

theorem state_run_ne_destroyed (h : Lifecycle c count) (hs : c.state ≠ .destroyed)
    (hgoing : .destroy ∉ carried history) : (c.run history).state ≠ .destroyed := by
  induction history generalizing c count with
  | nil => exact hs
  | cons step rest ih =>
    obtain ⟨w, step⟩ := step
    have hfirst : step ≠ .request .destroy := by
      rintro rfl
      exact hgoing List.mem_cons_self
    refine ih (h.take w step) (state_take_ne_destroyed h hs w hfirst) fun hmem => hgoing ?_
    exact (carried_append [(w, step)] rest) ▸ List.mem_append_right _ hmem

theorem id_rotateOrReport (c : Call) (w : Surroundings) : (c.rotateOrReport w).id = c.id := by
  obtain ⟨e, -, heq, -⟩ | ⟨relay, wrapped, -, heq⟩ := c.rotateOrReport_cases w <;> rw [heq] <;> rfl

theorem id_greetOrReport (c : Call) (w : Surroundings) (cid : Cid) :
    (c.greetOrReport w cid).id = c.id := by
  obtain ⟨-, heq⟩ | ⟨e, heq⟩ | ⟨s, id, plain, relay, bytes, -, -, -, heq⟩ :=
    c.greetOrReport_cases w cid <;> rw [heq] <;> rfl

theorem id_take (h : Lifecycle c count) (w : Surroundings) (step : CallStep) :
    (c.take w step).id = c.id := by
  by_cases haccepts : c.accepts step = true
  · obtain ⟨-, hentry⟩ := entry_take haccepts w
    generalize c.take w step = d at hentry
    cases hentry with
    | seeking av => rfl
    | linked av url relay => rfl
    | refused av hsought hleft => rw [hleft.rest, hsought.rest]; rfl
  · have hchange := change_take h.settled (by simpa using haccepts) w
    generalize c.take w step = d at hchange
    cases hchange with
    | aside h => rw [h.rest]
    | routine hlink h => rw [h.rest]
    | up hs h => rw [h.rest]
    | lost hs h => rw [h.rest]
    | answered hs hgreets h => rw [id_rotateOrReport, letIn, h.rest]; rfl
    | came hs hgreets h => rw [id_greetOrReport, h.rest]
    | went cid hs hgreets => rw [id_rotateOrReport, (Thinned.removeSession c cid).rest]
    | rotated hgreets =>
      obtain ⟨e, heq, -⟩ | ⟨relay, wrapped, -, heq⟩ := c.rotateKey_cases w <;> rw [heq]
      rfl
    | left hs h => rw [h.rest]
    | destroyed hs halive => rfl
    | leftDestroyed hs h => rw [Call.destroyed, h.rest]; rfl
    | cancelled => rfl

/-- A call keeps its name. -/
theorem id_run (h : Lifecycle c count) (history : List (Surroundings × CallStep)) :
    (c.run history).id = c.id := by
  induction history generalizing c count with
  | nil => rfl
  | cons step rest ih => exact (ih (h.take step.1 step.2)).trans (id_take h step.1 step.2)

/-! ## The end of a call -/

/-- How a call ends, after which requests, and what they were answered. -/
inductive Ends (base : Call) :
    List CallRequest → List (Except CallError CallReply) → Call → Prop
  /-- The last one was to destroy it. -/
  | asked (history : List (Surroundings × CallStep)) (hgoing : .destroy ∉ carried history) :
    Ends base (carried history ++ [.destroy]) (base.answers history ++ [.ok .done])
      (base.run history).destroy
  /-- Nobody could make requests any more. -/
  | abandoned (history : List (Surroundings × CallStep)) (hgoing : .destroy ∉ carried history) :
    Ends base (carried history) (base.answers history) (base.run history).destroy

namespace Ends

variable {requests : List CallRequest} {replies : List (Except CallError CallReply)}

theorem length (h : Ends base requests replies c) : replies.length = requests.length := by
  cases h with
  | asked history hgoing => simp [length_answers]
  | abandoned history hgoing => exact length_answers base history

theorem destroyed (h : Ends base requests replies c) : c.state = .destroyed := by
  cases h with
  | asked history hgoing => exact (destroy_cases _).1
  | abandoned history hgoing => exact (destroy_cases _).1

theorem eq_run (h : Ends base requests replies c) : ∃ history, c = base.run history := by
  cases h with
  | asked history hgoing | abandoned history hgoing =>
    exact ⟨_, (run_concat base history .barren (.request .destroy)).symm⟩

/-- Nothing happens any more. -/
theorem take_eq (hbase : Lifecycle base count) (h : Ends base requests replies c)
    (w : Surroundings) (step : CallStep) : c.take w step = c := by
  obtain ⟨history, hc⟩ := h.eq_run
  have hlife := hbase.run history
  rw [← hc] at hlife
  exact hlife.take_of_destroyed h.destroyed w step

end Ends
end Call

end GroupCall
