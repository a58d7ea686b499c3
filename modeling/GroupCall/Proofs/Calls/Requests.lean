/-
# What becomes of the requests to a call

A call that runs on its own carries out the requests to it one at a time, in the order in which
they were accepted.  At every moment those that were carried out are the first ones, the call is
what a run with them makes of it, and they were answered as in that run.  The next one may be a
request to join that waits for the URL of the relay; the others wait behind it.  Once the call
is destroyed it stays as it is, and all others are turned away when it closes.
-/
import GroupCall.Call.Task
import GroupCall.Proofs.Calls.Ends

namespace GroupCall

/-! ## Numbers -/

/-- A list with numbers, ascending from the first. -/
def numbered {α : Type} (first : Nat) (l : List α) : List (Nat × α) :=
  (l.zipIdx first).map Prod.swap

@[simp] theorem numbered_nil {α : Type} (first : Nat) : numbered first ([] : List α) = [] := rfl

@[simp] theorem numbered_cons {α : Type} (first : Nat) (a : α) (l : List α) :
    numbered first (a :: l) = (first, a) :: numbered (first + 1) l := rfl

theorem numbered_append {α : Type} (first : Nat) (l l' : List α) :
    numbered first (l ++ l') = numbered first l ++ numbered (first + l.length) l' := by
  rw [numbered, List.zipIdx_append, List.map_append]
  rfl

theorem map_numbered {α β : Type} (f : α → β) (first : Nat) (l : List α) :
    (numbered first l).map (fun a => (a.1, f a.2)) = numbered first (l.map f) := by
  induction l generalizing first with
  | nil => rfl
  | cons a rest ih => simp only [numbered_cons, List.map_cons, ih]

/-! ## Steps of a call that runs on its own -/

/-- Something that happens to a call that runs on its own. -/
inductive TaskStep where
  /-- A request is accepted, or turned away. -/
  | submit (request : CallRequest)
  /-- What the call still does is given up. -/
  | cancel
  /-- An event of a relay connection is delivered. -/
  | deliver (event : RelayEvent)
  /-- A frame passes through the track at a place. -/
  | frame (place : Nat) (bytes : List UInt8)
  /-- The oldest request is taken. -/
  | takeRequest (w : Surroundings)
  /-- The oldest event is taken. -/
  | takeEvent (w : Surroundings)
  /-- Joining goes on, if it can. -/
  | resume (w : Surroundings)
  /-- Nobody can make requests any more. -/
  | abandon
  /-- A call that was destroyed closes. -/
  | settle

/-- The request that is made in a step. -/
def TaskStep.request? : TaskStep → Option CallRequest
  | .submit request => some request
  | _ => none

/-- The requests that are made in a run. -/
def TaskStep.asked (steps : List TaskStep) : List CallRequest := steps.filterMap request?

theorem TaskStep.asked_cons (step : TaskStep) (rest : List TaskStep) :
    asked (step :: rest) = step.request?.toList ++ asked rest := by
  cases h : step.request? <;> simp [asked, h]

namespace CallTask

open Call

variable {t : CallTask} {c base : Call} {w : Surroundings} {step : CallStep} {count : Nat}
  {history : List (Surroundings × CallStep)} {requests asked rest : List CallRequest}
  {events : List RelayEvent} {replies : List (Except CallError CallReply)}

/-- The call after a step. -/
def take (t : CallTask) : TaskStep → CallTask
  | .submit request => t.submit request
  | .cancel => { t with call := t.call.cancel }
  | .deliver event => t.deliver event
  | .frame place bytes => { t with call := (t.call.handleFrame place bytes).1 }
  | .takeRequest w => t.takeRequest w
  | .takeEvent w => t.takeEvent w
  | .resume w => t.resume w
  | .abandon => t.abandon
  | .settle => t.settle

/-- The call after a run. -/
def run (t : CallTask) (steps : List TaskStep) : CallTask := steps.foldl take t

theorem run_append (t : CallTask) (first second : List TaskStep) :
    t.run (first ++ second) = (t.run first).run second := List.foldl_append

theorem takeRequest_of_destroyed (hs : t.call.state = .destroyed) (w : Surroundings) :
    t.takeRequest w = t := by
  rw [takeRequest, hs]
  rfl

theorem takeEvent_of_destroyed (hs : t.call.state = .destroyed) (w : Surroundings) :
    t.takeEvent w = t := by
  rw [takeEvent, hs]
  rfl

theorem abandon_of_destroyed (hs : t.call.state = .destroyed) : t.abandon = t := by
  rw [abandon, hs]
  rfl

theorem settle_of_going (hs : t.call.state ≠ .destroyed) : t.settle = t := by
  rw [settle, isDestroyed_of_ne hs]
  rfl

/-- Everything that waits is turned away. -/
theorem turnAway_eq (t : CallTask) : t.turnAway = { t with
    waiting := [], replies := t.replies ++ t.waiting.map fun r => (r.1, refusal r.2) } := by
  have hfold : ∀ (l : List (Nat × CallRequest)) (t : CallTask),
      l.foldl (fun t r => t.answer r.1 (refusal r.2)) t =
        { t with replies := t.replies ++ l.map fun r => (r.1, refusal r.2) } := by
    intro l
    induction l with
    | nil => intro t; simp
    | cons r rest ih => intro t; rw [List.foldl_cons, ih]; simp [answer]
  rw [turnAway, hfold]

/-! ## After the end -/

/-- What is left of a call that was destroyed, with what its requests were answered before and
the others. -/
inductive Finished (c : Call) (replies : List (Except CallError CallReply))
    (rest : List CallRequest) : CallTask → Prop
  /-- The others wait. -/
  | closing (events : List RelayEvent) : Finished c replies rest
    ⟨c, replies.length + rest.length, numbered replies.length rest, events, none, false,
      numbered 0 replies⟩
  /-- The others were turned away. -/
  | closed (events : List RelayEvent) : Finished c replies rest
    ⟨c, replies.length + rest.length, [], events, none, true,
      numbered 0 (replies ++ rest.map refusal)⟩

namespace Finished

theorem call (h : Finished c replies rest t) : t.call = c := by
  cases h <;> rfl

theorem accept (h : Finished c replies rest t) (request : CallRequest) :
    Finished c replies (rest ++ [request]) (t.accept request) := by
  have hmade : replies.length + (rest ++ [request]).length = replies.length + rest.length + 1 := by
    rw [List.length_append, ← Nat.add_assoc]
    rfl
  cases h with
  | closing events =>
    have hclosing : Finished c replies (rest ++ [request]) _ := .closing events
    rw [hmade, numbered_append] at hclosing
    exact hclosing
  | closed events =>
    have hclosed : Finished c replies (rest ++ [request]) _ := .closed events
    rw [hmade, List.map_append, ← List.append_assoc, numbered_append, List.length_append,
      List.length_map, Nat.zero_add] at hclosed
    exact hclosed

theorem deliver (h : Finished c replies rest t) (event : RelayEvent) :
    Finished c replies rest (t.deliver event) := by
  cases h with
  | closing events => exact .closing (events ++ [event])
  | closed events => exact .closed events

/-- All others are turned away as the call closes. -/
theorem settle_eq (h : Finished c replies rest t) (hs : c.state = .destroyed) :
    ∃ events, t.settle = ⟨c, replies.length + rest.length, [], events, none, true,
      numbered 0 (replies ++ rest.map refusal)⟩ := by
  rw [CallTask.settle, h.call, hs]
  cases h with
  | closing events =>
    have hreplies : numbered 0 replies ++ (numbered replies.length rest).map
        (fun r => (r.1, refusal r.2)) = numbered 0 (replies ++ rest.map refusal) := by
      rw [map_numbered, numbered_append, Nat.zero_add]
    rw [if_pos (by rfl), turnAway_eq]
    dsimp only
    rw [hreplies]
    exact ⟨events, rfl⟩
  | closed events => exact ⟨events, rfl⟩

theorem settle (h : Finished c replies rest t) (hs : c.state = .destroyed) :
    Finished c replies rest t.settle := by
  obtain ⟨events, heq⟩ := h.settle_eq hs
  exact heq ▸ .closed events

/-- Nothing happens to the call any more, and nothing is carried out. -/
theorem take (hstays : ∀ w step, c.take w step = c) (hs : c.state = .destroyed)
    (h : Finished c replies rest t) (step : TaskStep) :
    Finished c replies (rest ++ step.request?.toList) (t.take step) := by
  have hs' : t.call.state = .destroyed := h.call.symm ▸ hs
  have hidle : t.joining = none := by cases h <;> rfl
  have hkeep : ∀ {t'}, t' = t → Finished c replies (rest ++ []) t' := by
    rintro _ rfl
    exact (List.append_nil rest).symm ▸ h
  have hsame : ∀ {d}, d = c → { t with call := d } = t := by
    rintro _ rfl
    rw [← h.call]
  cases step with
  | submit request =>
    have hcancelled : (if interrupts request then { t with call := t.call.cancel } else t) = t := by
      split
      · exact hsame (h.call.symm ▸ hstays .barren .cancel)
      · rfl
    rw [CallTask.take, submit, hcancelled]
    exact h.accept request
  | deliver event => exact (List.append_nil rest).symm ▸ h.deliver event
  | settle => exact (List.append_nil rest).symm ▸ h.settle hs
  | cancel => exact hkeep (hsame (h.call.symm ▸ hstays .barren .cancel))
  | frame place bytes => exact hkeep (hsame (h.call.symm ▸ hstays .barren (.frame place bytes)))
  | takeRequest w => exact hkeep (takeRequest_of_destroyed hs' w)
  | takeEvent w => exact hkeep (takeEvent_of_destroyed hs' w)
  | abandon => exact hkeep (abandon_of_destroyed hs')
  | resume w =>
    refine hkeep ?_
    rw [CallTask.take, resume, hidle]

theorem run (hstays : ∀ w step, c.take w step = c) (hs : c.state = .destroyed)
    (h : Finished c replies rest t) (steps : List TaskStep) :
    Finished c replies (rest ++ TaskStep.asked steps) (t.run steps) := by
  induction steps generalizing t rest with
  | nil => exact (List.append_nil rest).symm ▸ h
  | cons step later ih =>
    have hlater := ih (h.take hstays hs step)
    rw [List.append_assoc, ← TaskStep.asked_cons] at hlater
    exact hlater

end Finished

/-! ## Before the end -/

/-- A call between two requests. -/
def between (base : Call) (history : List (Surroundings × CallStep)) (rest : List CallRequest)
    (events : List RelayEvent) : CallTask where
  call := base.run history
  made := (carried history).length + rest.length
  waiting := numbered (carried history).length rest
  events := events
  joining := none
  closed := false
  replies := numbered 0 (base.answers history)

/-- A call with a request to join that waits for the URL of the relay. -/
def seeking (base : Call) (history : List (Surroundings × CallStep)) (av : AvFlags)
    (rest : List CallRequest) (events : List RelayEvent) : CallTask where
  call := (base.run history).begun av
  made := (carried history).length + 1 + rest.length
  waiting := numbered ((carried history).length + 1) rest
  events := events
  joining := some (carried history).length
  closed := false
  replies := numbered 0 (base.answers history)

/-- What a call has made of the requests that were made to it, in order. -/
inductive Serves (base : Call) (asked : List CallRequest) : CallTask → Prop
  /-- It has carried out the first ones. -/
  | going (history : List (Surroundings × CallStep)) (rest : List CallRequest)
    (events : List RelayEvent) (hasked : asked = carried history ++ rest)
    (hgoing : .destroy ∉ carried history) : Serves base asked (between base history rest events)
  /-- It is about to carry out the next one, which is to join. -/
  | joining (history : List (Surroundings × CallStep)) (av : AvFlags) (rest : List CallRequest)
    (events : List RelayEvent) (hasked : asked = carried history ++ .join av :: rest)
    (hgoing : .destroy ∉ carried history) (hjoins : (base.run history).state.canJoin = true) :
    Serves base asked (seeking base history av rest events)
  /-- It was destroyed. -/
  | ended {c : Call} {requests : List CallRequest}
    {replies : List (Except CallError CallReply)} {t : CallTask} (rest : List CallRequest)
    (hasked : asked = requests ++ rest) (hends : Ends base requests replies c)
    (h : Finished c replies rest t) : Serves base asked t

theorem serves_new (base : Call) : Serves base [] (new base) :=
  .going [] [] [] rfl List.not_mem_nil

/-! ### Steps between two requests -/

/-- What is not a request is done between two of them. -/
theorem between_step (hstep : step.request? = none) :
    { between base history rest events with call := (base.run history).take w step } =
      between base (history ++ [(w, step)]) rest events := by
  rw [between, between, run_concat, carried_concat hstep, answers_concat hstep]

/-- The next request is carried out and answered. -/
theorem between_conclude (request : CallRequest) :
    ({ between base history (request :: rest) events with
      waiting := numbered ((carried history).length + 1) rest }).conclude
        (carried history).length ((base.run history).perform w request) =
      between base (history ++ [(w, .request request)]) rest events := by
  rw [between, between, run_concat, carried_request, answers_request, numbered_append,
    List.length_append, length_answers, conclude, answer]
  simp [Call.take, Nat.add_assoc, Nat.add_comm]

/-- Joining goes on. -/
theorem seeking_conclude (av : AvFlags) :
    ({ seeking base history av rest events with joining := none }).conclude
        (carried history).length ((base.run history).perform w (.join av)) =
      between base (history ++ [(w, .request (.join av))]) rest events := by
  rw [seeking, between, run_concat, carried_request, answers_request, numbered_append,
    List.length_append, length_answers, conclude, answer]
  simp [Call.take]

theorem between_concat (request : CallRequest) :
    (between base history rest events).accept request =
      between base history (rest ++ [request]) events := by
  rw [between, between, numbered_append, List.length_append, ← Nat.add_assoc]
  rfl

theorem seeking_concat (av : AvFlags) (request : CallRequest) :
    (seeking base history av rest events).accept request =
      seeking base history av (rest ++ [request]) events := by
  rw [seeking, seeking, numbered_append, List.length_append, ← Nat.add_assoc]
  rfl

/-- Giving up a call changes nothing about what it was asked. -/
theorem seeking_cancel (av : AvFlags) :
    { seeking base history av rest events with call := ((base.run history).begun av).cancel } =
      seeking base (history ++ [(.barren, .cancel)]) av rest events := by
  rw [seeking, seeking, run_concat, carried_concat rfl, answers_concat rfl]
  rfl

/-- A request to join that is possible waits for the URL; any other one is carried out. -/
theorem carryOut_cases (t : CallTask) (w : Surroundings) (number : Nat) (request : CallRequest) :
    (∃ av, request = .join av ∧ t.call.state.canJoin = true ∧
      t.carryOut w number request =
        { t with call := t.call.begun av, joining := some number }) ∨
      t.carryOut w number request = t.conclude number (t.call.perform w request) := by
  cases request with
  | join av =>
    by_cases hs : t.call.state.canJoin = true
    · exact Or.inl ⟨av, rfl, hs, by rw [carryOut, beginJoin_of_canJoin hs]⟩
    · refine Or.inr ?_
      rw [carryOut, beginJoin, if_neg hs, perform, join_of_not_canJoin hs]
      rfl
  | _ => exact Or.inr rfl

/-- Where nobody takes part there is no key, so a frame changes nothing. -/
theorem seeking_frame {av : AvFlags} (hbase : Lifecycle base count)
    (hs : (base.run history).state.canJoin = true) (place : Nat) (bytes : List UInt8) :
    { seeking base history av rest events with
      call := ((seeking base history av rest events).call.handleFrame place bytes).1 } =
      seeking base history av rest events := by
  have hbare := (hbase.run history).bare (isParticipating_of_canJoin hs)
  have hnone : ((base.run history).begun av).keys.currentKey? = none := by
    change (base.run history).keys.currentKey? = none
    rw [KeyRing.currentKey?, hbare.current]
    rfl
  have hframe := Lifecycle.handleFrame_of_currentKey? hnone place bytes
  rw [seeking, hframe]

/-- Joining waits, or goes on with the URL, or ends as the call was given up. -/
theorem resume_cases {number : Nat} (hjoining : t.joining = some number) (w : Surroundings) :
    t.resume w = t ∨
      (∃ answer, w.url = some answer ∧ t.resume w = { t with joining := none }.conclude number
        (answered (t.call.connect w answer) fun _ => .done)) ∨
      w.url = none ∧ t.resume w =
        { t with joining := none }.conclude number (t.call, .error .closed) := by
  rw [resume, hjoining]
  cases hurl : w.url with
  | some answer => exact Or.inr (Or.inl ⟨answer, rfl, rfl⟩)
  | none =>
    dsimp only
    split
    · exact Or.inr (Or.inr ⟨rfl, rfl⟩)
    · exact Or.inl rfl

/-- What is not a request leaves the call between two of them. -/
theorem serves_step (hasked : asked = carried history ++ rest)
    (hgoing : .destroy ∉ carried history) (w : Surroundings) (step : CallStep)
    (events : List RelayEvent) (hstep : step.request? = none) :
    Serves base asked
      { between base history rest events with call := (base.run history).take w step } := by
  rw [between_step hstep]
  refine .going _ rest events ?_ ?_ <;> rw [carried_concat hstep] <;> assumption

theorem serves_request {request : CallRequest}
    (hasked : asked = carried history ++ request :: rest) (hgoing : .destroy ∉ carried history)
    (hkeeps : request ≠ .destroy) (w : Surroundings) (events : List RelayEvent) :
    Serves base asked (between base (history ++ [(w, .request request)]) rest events) := by
  refine .going _ rest events ?_ ?_ <;> rw [carried_request]
  · rw [hasked, List.append_assoc]
    rfl
  · simp [hgoing, hkeeps.symm]

/-- The next request is carried out. -/
theorem serves_conclude (base : Call) {request : CallRequest}
    (hasked : asked = carried history ++ request :: rest)
    (hgoing : .destroy ∉ carried history) (w : Surroundings) (events : List RelayEvent) :
    Serves base asked (({ between base history (request :: rest) events with
      waiting := numbered ((carried history).length + 1) rest }).conclude
        (carried history).length ((base.run history).perform w request)) := by
  by_cases hdestroys : request = .destroy
  · subst hdestroys
    refine .ended rest (hasked.trans (List.append_cons _ _ _)) (.asked history hgoing) ?_
    have hlength : (base.answers history ++ [Except.ok CallReply.done]).length =
        (carried history).length + 1 := by
      rw [List.length_append, length_answers]
      rfl
    have hclosing : Finished (base.run history).destroy (base.answers history ++ [.ok .done]) rest
        _ := .closing events
    rw [hlength, numbered_append, length_answers, Nat.zero_add, Nat.add_right_comm] at hclosing
    exact hclosing
  · rw [between_conclude]
    exact serves_request hasked hgoing hdestroys w events

namespace Serves

/-- A call may be given up at any time. -/
theorem cancel (hbase : Lifecycle base count) (h : Serves base asked t) :
    Serves base asked { t with call := t.call.cancel } := by
  cases h with
  | going history rest events hasked hgoing =>
    exact serves_step hasked hgoing .barren .cancel events rfl
  | joining history av rest events hasked hgoing hjoins =>
    refine (seeking_cancel av).symm ▸ .joining _ av rest events ?_ ?_ ?_
    · rw [carried_concat rfl, hasked]
    · rwa [carried_concat rfl]
    · rw [run_concat]
      exact hjoins
  | ended rest hasked hends h =>
    have hfinished := h.take (hends.take_eq hbase) hends.destroyed .cancel
    exact .ended rest hasked hends ((List.append_nil rest) ▸ hfinished)

theorem accept (h : Serves base asked t) (request : CallRequest) :
    Serves base (asked ++ [request]) (t.accept request) := by
  cases h with
  | going history rest events hasked hgoing =>
    rw [between_concat]
    exact .going history _ events (by rw [hasked, List.append_assoc]) hgoing
  | joining history av rest events hasked hgoing hjoins =>
    rw [seeking_concat]
    exact .joining history av _ events (by rw [hasked, List.append_assoc]; rfl) hgoing hjoins
  | ended rest hasked hends h =>
    exact .ended _ (by rw [hasked, List.append_assoc]) hends (h.accept request)

theorem submit (hbase : Lifecycle base count) (h : Serves base asked t) (request : CallRequest) :
    Serves base (asked ++ [request]) (t.submit request) := by
  rw [CallTask.submit]
  split
  · exact (h.cancel hbase).accept request
  · exact h.accept request

/-- The oldest request is carried out, or begins to be. -/
theorem takeRequest (halive : (base.run history).state.isDestroyed = false)
    (hasked : asked = carried history ++ rest) (hgoing : .destroy ∉ carried history)
    (w : Surroundings) (events : List RelayEvent) :
    Serves base asked ((between base history rest events).takeRequest w) := by
  rw [CallTask.takeRequest, between, halive]
  cases rest with
  | nil => exact .going history [] events hasked hgoing
  | cons request rest =>
    -- a request to join only begins; every other one is concluded at once
    dsimp only [numbered_cons]
    have hconclude := serves_conclude base hasked hgoing w events
    rw [between] at hconclude
    obtain ⟨av, rfl, hjoins, heq⟩ | heq := carryOut_cases
      { between base history (request :: rest) events with
        waiting := numbered ((carried history).length + 1) rest } w (carried history).length request
    · refine heq.symm ▸ ?_
      have hjoining := Serves.joining history av rest events hasked hgoing hjoins
      rw [seeking, Nat.add_right_comm] at hjoining
      exact hjoining
    · exact heq.symm ▸ hconclude

/-- Joining goes on as soon as it can. -/
theorem resume {av : AvFlags} (hasked : asked = carried history ++ .join av :: rest)
    (hgoing : .destroy ∉ carried history) (hjoins : (base.run history).state.canJoin = true)
    (w : Surroundings) (events : List RelayEvent) :
    Serves base asked ((seeking base history av rest events).resume w) := by
  have hconclude : Serves base asked (({ seeking base history av rest events with
      joining := none }).conclude (carried history).length
        ((base.run history).perform w (.join av))) := by
    rw [seeking_conclude]
    exact serves_request hasked hgoing nofun w events
  rw [perform, join_of_canJoin hjoins] at hconclude
  obtain heq | ⟨answer, hurl, heq⟩ | ⟨hurl, heq⟩ :=
    resume_cases (t := seeking base history av rest events) rfl w <;> rw [heq]
  · exact .joining history av rest events hasked hgoing hjoins
  · rw [hurl] at hconclude
    exact hconclude
  · rw [hurl] at hconclude
    exact hconclude

/-- What happens to a call between two requests. -/
theorem take_between (hstate : (base.run history).state ≠ .destroyed)
    (hasked : asked = carried history ++ rest) (hgoing : .destroy ∉ carried history)
    (events : List RelayEvent) {step : TaskStep} (hnone : step.request? = none) :
    Serves base asked ((between base history rest events).take step) := by
  have halive := isDestroyed_of_ne hstate
  cases step with
  | submit request => cases hnone
  | cancel => exact serves_step hasked hgoing .barren .cancel events rfl
  | deliver event => exact .going history rest (events ++ [event]) hasked hgoing
  | frame place bytes => exact serves_step hasked hgoing .barren (.frame place bytes) events rfl
  | takeRequest w => exact takeRequest halive hasked hgoing w events
  | takeEvent w =>
    rw [CallTask.take, takeEvent, between, halive]
    cases events with
    | nil => exact .going history rest [] hasked hgoing
    | cons event events => exact serves_step hasked hgoing w (.event event) events rfl
  | resume w => exact .going history rest events hasked hgoing
  | abandon =>
    rw [CallTask.take, abandon, between, halive]
    cases rest with
    | cons request rest =>
      -- what waits comes first
      exact .going history (request :: rest) events hasked hgoing
    | nil =>
      refine .ended [] hasked (.abandoned history hgoing) ?_
      have hclosing : Finished (base.run history).destroy (base.answers history) [] _ :=
        .closing events
      rw [length_answers] at hclosing
      exact hclosing
  | settle =>
    rw [CallTask.take, settle_of_going hstate]
    exact .going history rest events hasked hgoing

/-- What happens to a call while a request to join waits: nothing else is taken. -/
theorem take_seeking {av : AvFlags} (hbase : Lifecycle base count)
    (hasked : asked = carried history ++ .join av :: rest) (hgoing : .destroy ∉ carried history)
    (hjoins : (base.run history).state.canJoin = true) (events : List RelayEvent)
    {step : TaskStep} (hnone : step.request? = none) :
    Serves base asked ((seeking base history av rest events).take step) := by
  have hkeep := Serves.joining history av rest events hasked hgoing hjoins
  cases step with
  | submit request => cases hnone
  | cancel => exact hkeep.cancel hbase
  | deliver event => exact .joining history av rest (events ++ [event]) hasked hgoing hjoins
  | frame place bytes =>
    rw [CallTask.take, seeking_frame hbase hjoins]
    exact hkeep
  | resume w => exact resume hasked hgoing hjoins w events
  | takeRequest w | takeEvent w | abandon | settle => exact hkeep

/-- What happens to a call changes nothing but what its requests explain. -/
theorem take (hbase : Lifecycle base count) (hs : base.state ≠ .destroyed)
    (h : Serves base asked t) (step : TaskStep) :
    Serves base (asked ++ step.request?.toList) (t.take step) := by
  by_cases hrequest : ∃ request, step = .submit request
  · obtain ⟨request, rfl⟩ := hrequest
    exact h.submit hbase request
  · have hnone : step.request? = none := by
      cases step <;> first | rfl | exact absurd ⟨_, rfl⟩ hrequest
    rw [hnone, Option.toList_none, List.append_nil]
    cases h with
    | going history rest events hasked hgoing =>
      exact take_between (state_run_ne_destroyed hbase hs hgoing) hasked hgoing events hnone
    | joining history av rest events hasked hgoing hjoins =>
      exact take_seeking hbase hasked hgoing hjoins events hnone
    | ended rest hasked hends h =>
      have hfinished := h.take (hends.take_eq hbase) hends.destroyed step
      rw [hnone, Option.toList_none, List.append_nil] at hfinished
      exact .ended rest hasked hends hfinished

theorem run (hbase : Lifecycle base count) (hs : base.state ≠ .destroyed)
    (h : Serves base asked t) (steps : List TaskStep) :
    Serves base (asked ++ TaskStep.asked steps) (t.run steps) := by
  induction steps generalizing t asked with
  | nil => exact (List.append_nil asked).symm ▸ h
  | cons step later ih =>
    rw [TaskStep.asked_cons, ← List.append_assoc]
    exact ih (h.take hbase hs step)

theorem id (hbase : Lifecycle base count) (h : Serves base asked t) : t.call.id = base.id := by
  cases h with
  | going history rest events hasked hgoing => exact id_run hbase history
  | joining history av rest events hasked hgoing hjoins => exact id_run hbase history
  | ended rest hasked hends h =>
    obtain ⟨history, hc⟩ := hends.eq_run
    rw [h.call, hc]
    exact id_run hbase history

/-- Whatever is destroyed was destroyed by a request, or because there can be none any more. -/
theorem ends (hbase : Lifecycle base count) (hs : base.state ≠ .destroyed)
    (h : Serves base asked t) (hdestroyed : t.call.state = .destroyed) :
    ∃ requests replies rest, asked = requests ++ rest ∧ Ends base requests replies t.call ∧
      Finished t.call replies rest t := by
  cases h with
  | going history rest events hasked hgoing =>
    exact absurd hdestroyed (state_run_ne_destroyed hbase hs hgoing)
  | joining history av rest events hasked hgoing hjoins => cases hdestroyed
  | ended rest hasked hends h =>
    obtain rfl := h.call
    exact ⟨_, _, rest, hasked, hends, h⟩

end Serves

/-- What has closed stays so. -/
theorem closed_take (h : t.closed = true) (step : TaskStep) : (t.take step).closed = true := by
  have haccept : ∀ {t : CallTask} (request : CallRequest), t.closed = true →
      (t.accept request).closed = true := by
    intro t request h
    rw [accept]
    dsimp only
    rw [if_pos h]
    exact h
  cases step with
  | submit request =>
    refine haccept request ?_
    split <;> exact h
  | cancel => exact h
  | frame place bytes => exact h
  | deliver event =>
    rw [take, deliver, if_pos h]
    exact h
  | takeRequest w =>
    rw [take, takeRequest]
    split
    · rename_i number request rest _ _ _
      obtain ⟨av, -, -, heq⟩ | heq :=
        carryOut_cases { t with waiting := rest } w number request <;> rw [heq] <;> exact h
    · exact h
  | takeEvent w =>
    rw [take, takeEvent]
    split <;> exact h
  | resume w =>
    cases hjoining : t.joining with
    | none =>
      rw [take, resume, hjoining]
      exact h
    | some number =>
      obtain heq | ⟨answer, -, heq⟩ | ⟨-, heq⟩ := resume_cases hjoining w <;>
        rw [take, heq] <;> exact h
  | abandon =>
    rw [take, abandon]
    split <;> exact h
  | settle =>
    rw [take, settle, h, Bool.not_true, Bool.and_false]
    exact h

end CallTask
end GroupCall
