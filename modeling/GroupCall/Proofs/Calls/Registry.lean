/-
# What the registry of calls promises

Names are registered and given up, calls are created, asked, carried on and closed, and what has
ended is swept, in any order.  A call is what its own steps make of it, whatever is done with
other calls and with the registry.  While a name leads to a call that runs, no other one is
created under it, and only giving up the name takes it out.
-/
import GroupCall.Call.Manager
import GroupCall.Proofs.Calls.Progress
import GroupCall.Proofs.Table

namespace GroupCall

/-- Something that happens to the calls of a client. -/
inductive ManagerStep where
  /-- A call is created, unless there is one that runs. -/
  | create (id : CallId) (chat : ChatId) (callKey : Option MediaKey)
  /-- A name is given up. -/
  | unregister (id : CallId)
  /-- All names are given up. -/
  | unregisterAll
  /-- A call that has ended is taken out. -/
  | sweep (handle : Nat)
  /-- Something happens to the call of a handle. -/
  | act (handle : Nat) (step : TaskStep)

namespace ManagerStep

/-- What happens to the call of a handle in a step. -/
def own? (handle : Nat) : ManagerStep → Option TaskStep
  | .act acting step => if acting = handle then some step else none
  | _ => none

/-- What happens to the call of a handle in a run. -/
def own (handle : Nat) (steps : List ManagerStep) : List TaskStep := steps.filterMap (own? handle)

theorem own_append (handle : Nat) (first second : List ManagerStep) :
    own handle (first ++ second) = own handle first ++ own handle second := List.filterMap_append

theorem own_cons (handle : Nat) (step : ManagerStep) (rest : List ManagerStep) :
    own handle (step :: rest) = (step.own? handle).toList ++ own handle rest := by
  cases h : step.own? handle <;> simp [own, h]

end ManagerStep

namespace CallManager

open CallTask ManagerStep

variable {m : CallManager} {us : UserId} {secret : IdentitySecret} {config : CallConfig}
  {id : CallId} {handle : Nat} {t : CallTask} {steps : List ManagerStep}

/-- The calls after a step. -/
def take (m : CallManager) : ManagerStep → CallManager
  | .create id chat callKey => (m.create id chat callKey).1
  | .unregister id => { m with registry := m.registry.erase id }
  | .unregisterAll => { m with registry := .empty }
  | .sweep handle => m.sweep handle
  | .act handle step => m.modify handle fun t => t.take step

/-- The calls after a run. -/
def run (m : CallManager) (steps : List ManagerStep) : CallManager := steps.foldl take m

theorem run_append (m : CallManager) (first second : List ManagerStep) :
    m.run (first ++ second) = (m.run first).run second := List.foldl_append

/-! ## What is made of steps -/

/-- Destroying the call of a name gives up the name first. -/
theorem destroyCall_of_get? (h : m.get? id = some handle) :
    m.destroyCall id =
      (m.run [.unregister id, .act handle (.submit .destroy)], .ok handle) := by
  rw [destroyCall, h]
  rfl

/-- Destroying all calls gives up all names first. -/
theorem shutdown_eq_run (m : CallManager) :
    m.shutdown = m.run
      (.unregisterAll :: m.registry.values.map fun handle => .act handle (.submit .destroy)) := by
  rw [shutdown, run, List.foldl_cons, List.foldl_map]
  rfl

/-! ## Creating and sweeping -/

theorem running?_eq_some_iff :
    m.running? id = some handle ↔ m.get? id = some handle ∧ m.isClosed handle = false := by
  simp [running?, Option.filter_eq_some_iff]

theorem create_of_running (h : m.running? id = some handle) (chat : ChatId)
    (callKey : Option MediaKey) : m.create id chat callKey = (m, handle) := by
  rw [create, h]

/-- A call that is created begins, and its name leads to it. -/
theorem create_of_not_running (h : m.running? id = none) (chat : ChatId)
    (callKey : Option MediaKey) :
    (m.create id chat callKey).1 = { m with
      tasks := m.tasks ++ [.new (.new id chat m.us m.config m.secret callKey)]
      registry := m.registry.insert id m.tasks.length } := by
  rw [create, h]

/-- Sweeping a call that has closed takes out its name, if that still leads to it. -/
theorem get?_sweep_of_closed (ht : m.task? handle = some t) (hclosed : t.closed = true)
    (hname : m.get? t.call.id = some handle) : (m.sweep handle).get? t.call.id = none := by
  have hturned : m.isClosed handle = true := by
    rw [isClosed, ht]
    exact hclosed
  rw [sweep, ht]
  dsimp only
  rw [hname]
  dsimp only
  rw [hclosed, hturned, Bool.and_self, if_pos rfl, get?, Table.get?_erase, if_pos rfl]

/-- Sweeping takes out a name only if it leads to a call that has closed. -/
theorem sweep_cases (m : CallManager) (handle : Nat) :
    m.sweep handle = m ∨
      ∃ t registered, m.task? handle = some t ∧ m.get? t.call.id = some registered ∧
        m.isClosed registered = true ∧
        m.sweep handle = { m with registry := m.registry.erase t.call.id } := by
  rw [sweep]
  split
  · exact Or.inl rfl
  · rename_i t ht
    split
    · exact Or.inl rfl
    · rename_i registered hregistered
      split
      · rename_i hclosed
        rw [Bool.and_eq_true] at hclosed
        exact Or.inr ⟨t, registered, ht, hregistered, hclosed.2, rfl⟩
      · exact Or.inl rfl

theorem tasks_sweep (m : CallManager) (handle : Nat) : (m.sweep handle).tasks = m.tasks := by
  obtain heq | ⟨t, registered, -, -, -, heq⟩ := m.sweep_cases handle <;> rw [heq]

/-! ## A call is what its own steps make of it -/

theorem task?_append {tasks : List CallTask} (h : m.task? handle = some t) :
    (m.tasks ++ tasks)[handle]? = some t :=
  (List.getElem?_append_left (List.getElem?_eq_some_iff.1 h).1).trans h

/-- What every call goes through in a step is its own. -/
theorem task?_take (h : m.task? handle = some t) (step : ManagerStep) :
    (m.take step).task? handle = some (t.run (step.own? handle).toList) := by
  cases step with
  | create id chat callKey =>
    cases hrunning : m.running? id with
    | some running =>
      rw [take, create_of_running hrunning]
      exact h
    | none =>
      rw [take, create_of_not_running hrunning]
      exact task?_append h
  | unregister id => exact h
  | unregisterAll => exact h
  | sweep swept =>
    rw [take, task?, tasks_sweep]
    exact h
  | act acting step =>
    rw [take, modify, task?, List.getElem?_modify, ← task?, h, own?]
    split <;> rfl

theorem task?_run (h : m.task? handle = some t) (steps : List ManagerStep) :
    (m.run steps).task? handle = some (t.run (own handle steps)) := by
  induction steps generalizing m t with
  | nil => exact h
  | cons step rest ih =>
    rw [own_cons, CallTask.run_append]
    exact ih (task?_take h step)

theorem length_tasks_modify (m : CallManager) (handle : Nat) (f : CallTask → CallTask) :
    (m.modify handle f).tasks.length = m.tasks.length := List.length_modify f m.tasks handle

/-- A call that is new was just created. -/
theorem created_take {step : ManagerStep} (hnone : m.task? handle = none)
    (h : (m.take step).task? handle = some t) :
    ∃ id chat callKey, step = .create id chat callKey ∧ m.running? id = none ∧
      handle = m.tasks.length ∧ t = .new (.new id chat m.us m.config m.secret callKey) := by
  have habsent : m.tasks.length ≤ handle := List.getElem?_eq_none_iff.1 hnone
  cases step with
  | create id chat callKey =>
    cases hrunning : m.running? id with
    | some running =>
      rw [take, create_of_running hrunning, hnone] at h
      cases h
    | none =>
      rw [take, create_of_not_running hrunning, task?, List.getElem?_append_right habsent,
        List.getElem?_singleton] at h
      split at h
      · rename_i hzero
        cases h
        exact ⟨id, chat, callKey, rfl, hrunning, by omega, rfl⟩
      · cases h
  | unregister id => cases hnone.symm.trans h
  | unregisterAll => cases hnone.symm.trans h
  | sweep swept =>
    rw [take, task?, tasks_sweep] at h
    cases hnone.symm.trans h
  | act acting step =>
    rw [← length_tasks_modify m acting fun t => t.take step] at habsent
    cases (List.getElem?_eq_none_iff.2 habsent).symm.trans h

/-- Neither who we are nor how calls are set up is ever different. -/
theorem setting_take (m : CallManager) (step : ManagerStep) :
    (m.take step).us = m.us ∧ (m.take step).secret = m.secret ∧
      (m.take step).config = m.config := by
  cases step with
  | create id chat callKey =>
    cases hrunning : m.running? id with
    | some running => rw [take, create_of_running hrunning]; exact ⟨rfl, rfl, rfl⟩
    | none => rw [take, create_of_not_running hrunning]; exact ⟨rfl, rfl, rfl⟩
  | sweep swept =>
    obtain heq | ⟨t, registered, -, -, -, heq⟩ := m.sweep_cases swept <;> rw [take, heq] <;>
      exact ⟨rfl, rfl, rfl⟩
  | _ => exact ⟨rfl, rfl, rfl⟩

theorem setting_run (m : CallManager) (steps : List ManagerStep) :
    (m.run steps).us = m.us ∧ (m.run steps).secret = m.secret ∧
      (m.run steps).config = m.config := by
  induction steps generalizing m with
  | nil => exact ⟨rfl, rfl, rfl⟩
  | cons step rest ih =>
    obtain ⟨hus, hsecret, hconfig⟩ := m.setting_take step
    obtain ⟨hus', hsecret', hconfig'⟩ := ih (m.take step)
    exact ⟨hus'.trans hus, hsecret'.trans hsecret, hconfig'.trans hconfig⟩

/-- Every call was created at some moment and is what its own steps have made of it since. -/
theorem created_run (h : ((new us secret config).run steps).task? handle = some t) :
    ∃ before id chat callKey after, steps = before ++ .create id chat callKey :: after ∧
      ((new us secret config).run before).running? id = none ∧
      handle = ((new us secret config).run before).tasks.length ∧
      t = (CallTask.new (.new id chat us config secret callKey)).run (own handle after) := by
  -- from the end of the run, so that a call is either there before the last step or new in it
  induction steps using List.reverseRecOn generalizing t with
  | nil => cases h
  | append_singleton steps step ih =>
    rw [run_append] at h
    cases hearlier : ((new us secret config).run steps).task? handle with
    | some earlier =>
      obtain ⟨before, id, chat, callKey, after, rfl, hrunning, hhandle, rfl⟩ := ih hearlier
      refine ⟨before, id, chat, callKey, after ++ [step], by simp, hrunning, hhandle, ?_⟩
      have hnow := task?_run hearlier [step]
      rw [hnow] at h
      rw [own_append, CallTask.run_append]
      exact (Option.some.inj h).symm
    | none =>
      obtain ⟨id, chat, callKey, rfl, hrunning, hhandle, rfl⟩ := created_take hearlier h
      obtain ⟨hus, hsecret, hconfig⟩ := (new us secret config).setting_run steps
      refine ⟨steps, id, chat, callKey, [], rfl, hrunning, hhandle, ?_⟩
      rw [hus, hsecret, hconfig]
      rfl

theorem dependable_new (id : CallId) (chat : ChatId) (us : UserId) (config : CallConfig)
    (secret : IdentitySecret) (callKey : Option MediaKey) (steps : List TaskStep) :
    Dependable (.new id chat us config secret callKey) (TaskStep.asked steps)
      ((CallTask.new (.new id chat us config secret callKey)).run steps) :=
  dependable_run (Call.lifecycle_new id chat us config secret callKey) nofun steps

/-- A call keeps its name. -/
theorem id_take (h : ((new us secret config).run steps).task? handle = some t) (step : TaskStep) :
    (t.take step).call.id = t.call.id := by
  obtain ⟨before, id, chat, callKey, after, -, -, -, rfl⟩ := created_run h
  have hnow := dependable_new id chat us config secret callKey (own handle after)
  have hlater := dependable_new id chat us config secret callKey (own handle after ++ [step])
  rw [CallTask.run_append] at hlater
  exact hlater.id.trans hnow.id.symm

/-! ## What names lead to -/

/-- A name leads to a call of that name. -/
def Named (m : CallManager) : Prop :=
  ∀ id handle, m.get? id = some handle → ∃ t, m.task? handle = some t ∧ t.call.id = id

theorem named_take (h : ((new us secret config).run steps).Named) (step : ManagerStep) :
    (((new us secret config).run steps).take step).Named := by
  intro id handle hname
  cases step with
  | create id' chat callKey =>
    cases hrunning : ((new us secret config).run steps).running? id' with
    | some running =>
      rw [take, create_of_running hrunning] at hname ⊢
      exact h id handle hname
    | none =>
      rw [take, create_of_not_running hrunning] at hname ⊢
      rw [get?, Table.get?_insert] at hname
      split at hname
      · rename_i hid
        cases hname
        exact ⟨_, List.getElem?_concat_length, hid.symm⟩
      · obtain ⟨t, ht, hid⟩ := h id handle hname
        exact ⟨t, task?_append ht, hid⟩
  | unregister id' =>
    rw [take, get?, Table.get?_erase] at hname
    split at hname
    · cases hname
    · exact h id handle hname
  | unregisterAll => cases hname
  | sweep swept =>
    rw [take, task?, tasks_sweep]
    obtain heq | ⟨t, registered, -, -, -, heq⟩ :=
      sweep_cases ((new us secret config).run steps) swept <;> rw [take, heq] at hname
    · exact h id handle hname
    · rw [get?, Table.get?_erase] at hname
      split at hname
      · cases hname
      · exact h id handle hname
  | act acting step =>
    obtain ⟨t, ht, hid⟩ := h id handle hname
    refine ⟨_, task?_take ht _, ?_⟩
    rw [own?]
    split
    · exact (id_take ht step).trans hid
    · exact hid

theorem named_run (us : UserId) (secret : IdentitySecret) (config : CallConfig)
    (steps : List ManagerStep) : ((new us secret config).run steps).Named := by
  induction steps using List.reverseRecOn with
  | nil => exact fun id handle hname => by cases hname
  | append_singleton steps step ih =>
    rw [run_append]
    exact named_take ih step

/-! ## What takes a name out -/

/-- A call that runs keeps its name, unless that is given up. -/
theorem get?_take_of_open (h : m.get? id = some handle) (hopen : m.isClosed handle = false)
    (step : ManagerStep) (hone : step ≠ .unregister id) (hall : step ≠ .unregisterAll) :
    (m.take step).get? id = some handle := by
  cases step with
  | create id' chat callKey =>
    cases hrunning : m.running? id' with
    | some running =>
      rw [take, create_of_running hrunning]
      exact h
    | none =>
      have hother : id ≠ id' := by
        rintro rfl
        cases hrunning.symm.trans (running?_eq_some_iff.2 ⟨h, hopen⟩)
      rw [take, create_of_not_running hrunning, get?, Table.get?_insert, if_neg hother]
      exact h
  | unregister id' =>
    have hother : id ≠ id' := fun heq => hone (heq ▸ rfl)
    rw [take, get?, Table.get?_erase, if_neg hother]
    exact h
  | unregisterAll => exact absurd rfl hall
  | sweep swept =>
    obtain heq | ⟨t, registered, -, hregistered, hclosed, heq⟩ := m.sweep_cases swept <;>
      rw [take, heq]
    · exact h
    · -- what is taken out has closed, so it is not the one that runs
      have hother : id ≠ t.call.id := by
        rintro rfl
        cases h.symm.trans hregistered
        cases hopen.symm.trans hclosed
      rw [get?, Table.get?_erase, if_neg hother]
      exact h
  | act acting step => exact h

/-- What is closed stays so. -/
theorem isClosed_take (h : m.isClosed handle = true) (ht : m.task? handle = some t)
    (step : ManagerStep) : (m.take step).isClosed handle = true := by
  rw [isClosed, ht] at h
  rw [isClosed, task?_take ht]
  cases step.own? handle with
  | none => exact h
  | some step => exact closed_take h step

/-- A call that runs keeps its name along a run, unless that is given up. -/
theorem get?_run_of_open (hnamed : m.Named) (h : m.get? id = some handle)
    (hopen : (m.run steps).isClosed handle = false)
    (hkept : ∀ step ∈ steps, step ≠ .unregister id ∧ step ≠ .unregisterAll) :
    (m.run steps).get? id = some handle := by
  obtain ⟨t, ht, -⟩ := hnamed id handle h
  induction steps using List.reverseRecOn with
  | nil => exact h
  | append_singleton steps step ih =>
    obtain ⟨hearlier, hstep⟩ := List.forall_mem_append.1 hkept
    obtain ⟨hone, hall⟩ := hstep step List.mem_cons_self
    rw [run_append] at hopen ⊢
    -- what runs at the end ran all along
    have hopen' : (m.run steps).isClosed handle = false := by
      by_contra hclosed
      have hlater := isClosed_take (by simpa using hclosed) (task?_run ht steps) step
      cases hopen.symm.trans hlater
    exact get?_take_of_open (ih hopen' hearlier) hopen' step hone hall

/-! ## Other names -/

/-- Whether a step has to do with a name. -/
def Concerns (m : CallManager) (id : CallId) : ManagerStep → Prop
  | .create id' _ _ => id' = id
  | .unregister id' => id' = id
  | .unregisterAll => True
  | .sweep handle => ∃ t, m.task? handle = some t ∧ t.call.id = id
  | .act handle _ => ∃ t, m.task? handle = some t ∧ t.call.id = id

/-- No step of a run has to do with a name. -/
def Spares (m : CallManager) (id : CallId) : List ManagerStep → Prop
  | [] => True
  | step :: rest => ¬ m.Concerns id step ∧ (m.take step).Spares id rest

/-- A name leads where it led, and its calls are the same. -/
structure SameFor (id : CallId) (m m' : CallManager) : Prop where
  /-- Where it leads. -/
  get? : m'.get? id = m.get? id
  /-- Its calls. -/
  tasks : ∀ handle t, t.call.id = id → (m'.task? handle = some t ↔ m.task? handle = some t)

theorem SameFor.trans {m' m'' : CallManager} (h : SameFor id m m') (h' : SameFor id m' m'') :
    SameFor id m m'' :=
  ⟨h'.get?.trans h.get?, fun handle t ht => (h'.tasks handle t ht).trans (h.tasks handle t ht)⟩

theorem get?_take_of_spared {step : ManagerStep} (h : ¬ m.Concerns id step) :
    (m.take step).get? id = m.get? id := by
  cases step with
  | create id' chat callKey =>
    cases hrunning : m.running? id' with
    | some running => rw [take, create_of_running hrunning]
    | none =>
      rw [take, create_of_not_running hrunning, get?, Table.get?_insert, if_neg (Ne.symm h)]
      rfl
  | unregister id' =>
    rw [take, get?, Table.get?_erase, if_neg (Ne.symm h)]
    rfl
  | unregisterAll => exact absurd trivial h
  | sweep swept =>
    obtain heq | ⟨t, registered, ht, -, -, heq⟩ := m.sweep_cases swept <;> rw [take, heq]
    rw [get?, Table.get?_erase, if_neg fun hid => h ⟨t, ht, hid.symm⟩]
    rfl
  | act acting step => rfl

/-- Whoever is acted on in a step that spares a name does not have that name. -/
theorem own?_of_spared {step : ManagerStep} (h : ¬ m.Concerns id step)
    (ht : m.task? handle = some t) (hid : t.call.id = id) : step.own? handle = none := by
  cases step with
  | act acting step =>
    rw [own?, if_neg]
    rintro rfl
    exact h ⟨t, ht, hid⟩
  | _ => rfl

/-- What is done under other names changes nothing. -/
theorem sameFor_take {step : ManagerStep}
    (h : ¬ ((new us secret config).run steps).Concerns id step) :
    SameFor id ((new us secret config).run steps)
      (((new us secret config).run steps).take step) := by
  refine ⟨get?_take_of_spared h, fun handle t hid => ⟨fun ht => ?_, fun ht => ?_⟩⟩
  · cases hearlier : ((new us secret config).run steps).task? handle with
    | none =>
      obtain ⟨id', chat, callKey, rfl, -, -, rfl⟩ := created_take hearlier ht
      exact absurd hid h
    | some earlier =>
      have hnow := (task?_take hearlier step).symm.trans ht
      have hid' : earlier.call.id = id := by
        rw [← hid, ← Option.some.inj hnow]
        cases step.own? handle with
        | none => rfl
        | some step => exact (id_take hearlier step).symm
      rw [own?_of_spared h hearlier hid'] at hnow
      exact hnow
  · have hnow := task?_take ht step
    rw [own?_of_spared h ht hid] at hnow
    exact hnow

theorem sameFor_run {later : List ManagerStep}
    (h : ((new us secret config).run steps).Spares id later) :
    SameFor id ((new us secret config).run steps)
      (((new us secret config).run steps).run later) := by
  induction later generalizing steps with
  | nil => exact ⟨rfl, fun _ _ _ => Iff.rfl⟩
  | cons step rest ih =>
    obtain ⟨hfirst, hrest⟩ := h
    have hlater := @ih (steps ++ [step]) ((run_append _ steps [step]).symm ▸ hrest)
    rw [run_append] at hlater
    exact (sameFor_take hfirst).trans hlater

/-! ## All runs -/

/-- What can be relied on with the calls of a client. -/
structure Orderly (us : UserId) (secret : IdentitySecret) (config : CallConfig)
    (steps : List ManagerStep) (m : CallManager) : Prop where
  /-- Where a name leads to a call that runs, creating gives that one and begins nothing. -/
  creates : ∀ id handle chat callKey, m.get? id = some handle → m.isClosed handle = false →
    m.create id chat callKey = (m, handle)
  /-- Where it leads to none that runs, one begins, and the name leads to that one. -/
  begins : ∀ id chat callKey, m.running? id = none →
    (m.create id chat callKey).2 = m.tasks.length ∧
      (m.create id chat callKey).1.get? id = some m.tasks.length ∧
      (m.create id chat callKey).1.task? m.tasks.length =
        some (.new (.new id chat us config secret callKey))
  /-- Every call was created where its name led to none that ran, and is what its own steps have
  made of it since: it carries out the requests to it one at a time, in order, and turns away
  those that come after its end. -/
  calls : ∀ handle t, m.task? handle = some t → ∃ before id chat callKey after,
    steps = before ++ .create id chat callKey :: after ∧
      ((new us secret config).run before).running? id = none ∧
      handle = ((new us secret config).run before).tasks.length ∧
      t = (CallTask.new (.new id chat us config secret callKey)).run (own handle after) ∧
      Dependable (.new id chat us config secret callKey) (TaskStep.asked (own handle after)) t
  /-- It goes on with its own steps. -/
  goesOn : ∀ handle t later, m.task? handle = some t →
    (m.run later).task? handle = some (t.run (own handle later))
  /-- A name leads to a call of that name. -/
  named : m.Named
  /-- Steps that have to do with other names change neither where a name leads nor its calls. -/
  apart : ∀ id later, m.Spares id later → SameFor id m (m.run later)
  /-- Sweeping takes out the name of a call that has closed, if that still leads to it. -/
  clears : ∀ handle t, m.task? handle = some t → t.closed = true →
    m.get? t.call.id = some handle → (m.sweep handle).get? t.call.id = none
  /-- It takes out no name that leads to a call that runs. -/
  sweeps : ∀ id handle swept, m.get? id = some handle → m.isClosed handle = false →
    (m.sweep swept).get? id = some handle
  /-- Nor does anything else but giving up the name. -/
  keeps : ∀ id handle later, m.get? id = some handle → (m.run later).isClosed handle = false →
    (∀ step ∈ later, step ≠ .unregister id ∧ step ≠ .unregisterAll) →
    (m.run later).get? id = some handle
  /-- Destroying the call of a name gives up the name, and asks the call to end. -/
  destroys : ∀ id handle, m.get? id = some handle → m.destroyCall id =
    (m.run [.unregister id, .act handle (.submit .destroy)], .ok handle)
  /-- Destroying all calls gives up all names, and asks every call to end. -/
  shuts : m.shutdown = m.run
    (.unregisterAll :: m.registry.values.map fun handle => .act handle (.submit .destroy))

/-- In every run of a client, whatever the order in which calls are created, asked, carried on,
destroyed and swept: a name that leads to a call that runs is not given to another one, the
requests to a call are carried out one at a time in order and turned away after its end, what
is done under other names is of no consequence, and what has ended is swept without taking out
a newer call of the same name. -/
theorem registry_along_runs (us : UserId) (secret : IdentitySecret) (config : CallConfig)
    (steps : List ManagerStep) :
    Orderly us secret config steps ((new us secret config).run steps) where
  creates id handle chat callKey h hopen :=
    create_of_running (running?_eq_some_iff.2 ⟨h, hopen⟩) chat callKey
  begins id chat callKey hnone := by
    obtain ⟨hus, hsecret, hconfig⟩ := (new us secret config).setting_run steps
    refine ⟨by rw [create, hnone], ?_, ?_⟩ <;> rw [create_of_not_running hnone]
    · rw [get?, Table.get?_insert, if_pos rfl]
    · rw [hus, hsecret, hconfig]
      exact List.getElem?_concat_length
  calls handle t h := by
    obtain ⟨before, id, chat, callKey, after, hsteps, hrunning, hhandle, rfl⟩ := created_run h
    exact ⟨before, id, chat, callKey, after, hsteps, hrunning, hhandle, rfl,
      dependable_new id chat us config secret callKey (own handle after)⟩
  goesOn handle t later h := task?_run h later
  named := named_run us secret config steps
  apart id later h := sameFor_run h
  clears handle t ht hclosed hname := get?_sweep_of_closed ht hclosed hname
  sweeps id handle swept h hopen := get?_take_of_open h hopen (.sweep swept) nofun nofun
  keeps id handle later h hopen hkept :=
    get?_run_of_open (named_run us secret config steps) h hopen hkept
  destroys id handle h := destroyCall_of_get? h
  shuts := shutdown_eq_run _

/-- A name that was given up leads to a newer call, and the older one is swept without it. -/
example (us : UserId) (secret : IdentitySecret) (config : CallConfig) (chat : ChatId) :
    ((new us secret config).run
      [.create ⟨"a"⟩ chat none, .unregister ⟨"a"⟩, .act 0 (.submit .destroy),
        .create ⟨"a"⟩ chat none, .act 0 (.takeRequest .barren), .act 0 .settle,
        .sweep 0]).get? ⟨"a"⟩ = some 1 := by
  rfl

end CallManager
end GroupCall
