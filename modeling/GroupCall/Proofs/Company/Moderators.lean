/-
# Who is a moderator

We are a moderator as long as the last word about our user says so: an answer that names us,
or a command that appoints or dismisses us.  Nothing that ends a participation or a link is
such a word, so rights that were granted before linger on where the answer that lets us in
again does not name us.
-/
import GroupCall.Proofs.Company.Roster
import GroupCall.Proofs.Slots.Ownership

namespace GroupCall

/-! ## Words about a user -/

/-- What a command says of the rights of a user, if it is about that user. -/
def Command.right? (user : UserId) : Command → Option Bool
  | .modAdd user' => if user' = user then some true else none
  | .modDel user' => if user' = user then some false else none
  | _ => none

/-- Whether a user is a moderator after a command. -/
def Command.judge (user : UserId) (before : Bool) (command : Command) : Bool :=
  (command.right? user).getD before

namespace Admission

variable (a : Admission) (us : UserId)

/-- Whether the answer names a user as a moderator, as updated by the commands behind it. -/
def names : Bool := a.heard.foldl (Command.judge us) (a.answer.moderators.contains us)

/-- Whether we were a moderator before the answer, which does not name us, and nothing was said
of us since. -/
def lingers : Bool :=
  a.wasModerator && !a.answer.moderators.contains us &&
    a.heard.all fun command => (command.right? us).isNone

end Admission

/-- Where nothing is said of a user, its rights are as before. -/
theorem foldl_judge_of_silent {us : UserId} {heard : List Command}
    (h : (heard.all fun command => (command.right? us).isNone) = true) (before : Bool) :
    heard.foldl (Command.judge us) before = before := by
  induction heard with
  | nil => rfl
  | cons command rest ih =>
    rw [List.all_cons, Bool.and_eq_true, Option.isNone_iff_eq_none] at h
    rw [List.foldl_cons, Command.judge, h.1]
    exact ih h.2

/-- Where something is said, it does not matter what they were before. -/
theorem foldl_judge_of_not_silent {us : UserId} {heard : List Command}
    (h : (heard.all fun command => (command.right? us).isNone) = false) (before before' : Bool) :
    heard.foldl (Command.judge us) before = heard.foldl (Command.judge us) before' := by
  induction heard generalizing before before' with
  | nil => cases h
  | cons command rest ih =>
    rw [List.foldl_cons, List.foldl_cons]
    cases hright : command.right? us with
    | some b => rw [Command.judge, Command.judge, hright, Option.getD_some, Option.getD_some]
    | none =>
      refine ih ?_ _ _
      rwa [List.all_cons, hright, Option.isNone_none, Bool.true_and] at h

/-- Rights come from what was said since the answer, or they linger. -/
theorem Admission.foldl_judge (a : Admission) (us : UserId) :
    a.heard.foldl (Command.judge us) (a.wasModerator || a.answer.moderators.contains us) =
      (a.names us || a.lingers us) := by
  rw [names, lingers]
  cases hsilent : a.heard.all fun command => (command.right? us).isNone with
  | true =>
    rw [foldl_judge_of_silent hsilent, foldl_judge_of_silent hsilent]
    cases a.wasModerator <;> cases a.answer.moderators.contains us <;> rfl
  | false => rw [foldl_judge_of_not_silent hsilent _ (a.answer.moderators.contains us),
      Bool.and_false, Bool.or_false]

/-- Rights that linger do not come from what was said since the answer. -/
theorem Admission.names_of_lingers {a : Admission} {us : UserId} (h : a.lingers us = true) :
    a.names us = false := by
  rw [lingers, Bool.and_eq_true, Bool.and_eq_true, Bool.not_eq_true'] at h
  obtain ⟨⟨-, hnone⟩, hsilent⟩ := h
  rw [names, foldl_judge_of_silent hsilent, hnone]

/-! ## Words about us -/

namespace Company

variable (k : Company)

theorem us_welcome (answer : Answer) : (k.welcome answer).us = k.us := by
  rw [welcome, apply_foldl (f := announce) (g := us) fun _ _ => rfl,
    apply_foldl (f := fun k user => k.appoint user true) (g := us) fun _ _ => rfl]

theorem isModerator_appointAll (users : List UserId) (k : Company) :
    (users.foldl (fun k user => k.appoint user true) k).isModerator =
      (k.isModerator || users.contains k.us) := by
  induction users generalizing k with
  | nil => simp
  | cons user rest ih =>
    rw [List.foldl_cons, ih, List.contains_cons]
    by_cases huser : user = k.us
    · simp [appoint, huser]
    · simp [appoint, huser, beq_eq_false_iff_ne.2 (Ne.symm huser)]

/-- An answer adds to our rights and takes none away. -/
theorem isModerator_welcome (answer : Answer) :
    (k.welcome answer).isModerator = (k.isModerator || answer.moderators.contains k.us) := by
  rw [welcome, apply_foldl (f := announce) (g := isModerator) fun _ _ => rfl,
    isModerator_appointAll]

theorem us_hear (inCall : Bool) (command : Command) : (k.hear inCall command).us = k.us := by
  cases inCall <;> cases command <;> rfl

/-- A command changes our rights if it is about us. -/
theorem isModerator_hear (inCall : Bool) (command : Command) :
    (k.hear inCall command).isModerator = command.judge k.us k.isModerator := by
  cases command with
  | modAdd user => by_cases h : user = k.us <;> simp [hear, appoint, Command.judge, Command.right?, h]
  | modDel user => by_cases h : user = k.us <;> simp [hear, appoint, Command.judge, Command.right?, h]
  | _ => cases inCall <;> rfl

theorem us_disband : k.disband.us = k.us := by
  rw [disband, apply_foldl (f := dismiss) (g := us) fun _ _ => rfl]

/-- Our rights outlive our time in the call. -/
theorem isModerator_disband : k.disband.isModerator = k.isModerator := by
  rw [disband, apply_foldl (f := dismiss) (g := isModerator) fun _ _ => rfl]

end Company

namespace Call

variable {c : Call} {w : Surroundings} {step : CallStep} {before last : Option Admission}

/-! ## Our rights along runs -/

/-- We are a moderator by the last word about us, where an answer that does not name us is no
word. -/
structure Judged (us : UserId) (c : Call) (last : Option Admission) : Prop where
  /-- That user is ours. -/
  ours : c.us = us
  /-- What was said counts since the last admission. -/
  judged : ∀ a, last = some a → c.isModerator =
    a.heard.foldl (Command.judge us) (a.wasModerator || a.answer.moderators.contains us)

theorem Judged.take {us : UserId} (h : Judged us c before) (w : Surroundings) (step : CallStep) :
    Judged us (c.take w step) (c.admissionAfter w step before) := by
  obtain ⟨rfl, hjudged⟩ := h
  have hus : ∀ {d : Call} {k : Company}, d.company = k → k.us = c.us → d.us = c.us :=
    fun heq hk => (congrArg Company.us heq).trans hk
  have hright : ∀ {d : Call} {k : Company}, d.company = k → d.isModerator = k.isModerator :=
    fun heq => congrArg Company.isModerator heq
  cases c.turn_take w step with
  | answered answer hheard hs hin hcompany =>
    refine ⟨hus hcompany (Company.us_welcome _ answer), fun a ha => ?_⟩
    rw [admissionAfter, answered?_eq_some hheard hs hin] at ha
    obtain rfl := Option.some.inj ha
    rw [hright hcompany, Company.isModerator_welcome]
    rfl
  | heard command hheard hstate hcompany =>
    refine ⟨hus hcompany (Company.us_hear _ _ command), fun a ha => ?_⟩
    have hnone : c.answered? w step = none := answered?_of_state_eq hstate
    rw [admissionAfter, hnone, hheard] at ha
    obtain ⟨a₀, ha₀, rfl⟩ := Option.map_eq_some_iff.1 ha
    rw [hright hcompany, Company.isModerator_hear]
    simp only [Option.toList_some, List.foldl_append, List.foldl_cons, List.foldl_nil]
    exact congrArg (command.judge c.us) (hjudged a₀ ha₀)
  | unheard hheard hstate hcompany =>
    refine ⟨hus hcompany rfl, fun a ha => ?_⟩
    have hnone : c.answered? w step = none := by rw [answered?, hheard]
    rw [admissionAfter, hnone, hheard] at ha
    obtain ⟨a₀, ha₀, rfl⟩ := Option.map_eq_some_iff.1 ha
    have hsame : (c.take w step).isModerator = c.isModerator := hright hcompany
    rw [hsame]
    simpa using hjudged a₀ ha₀
  | disbanded hheard hstate hcompany =>
    refine ⟨hus hcompany (Company.us_disband _), fun a ha => ?_⟩
    rw [admissionAfter, answered?_eq_none fun _ => hstate] at ha
    obtain ⟨a₀, ha₀, rfl⟩ := Option.map_eq_some_iff.1 ha
    rw [hright hcompany, Company.isModerator_disband]
    refine (hjudged a₀ ha₀).trans ?_
    -- the last command says nothing about anybody's rights
    cases hlast : c.heard? step with
    | none => simp
    | some command =>
      obtain ⟨reason, rfl⟩ := hheard command hlast
      simp [List.foldl_append, Command.judge, Command.right?]

theorem judged_new (id : CallId) (chat : ChatId) (us : UserId) (config : CallConfig)
    (secret : IdentitySecret) (callKey : Option MediaKey) :
    Judged us (new id chat us config secret callKey) none := ⟨rfl, by simp⟩

theorem Judged.run {us : UserId} (h : Judged us c last) (steps : List (Surroundings × CallStep)) :
    Judged us (c.run steps) (c.lastAdmission last steps) := by
  induction steps generalizing c last with
  | nil => exact h
  | cons step rest ih => exact ih (h.take step.1 step.2)

/-! ## Requests about the speaking of others -/

/-- Whether a request is about the speaking of somebody else. -/
def isAboutOthers (c : Call) : CallRequest → Bool
  | .approveSpeakRequest _ _ => true
  | .stopSpeak cid => cid ≠ 0 && !c.isUs cid
  | _ => false

/-- Whoever is no moderator is refused what is about others. -/
theorem perform_of_not_isModerator {request : CallRequest} (h : c.isAboutOthers request = true)
    (hnone : c.isModerator = false) (w : Surroundings) :
    (c.perform w request).2 = .error .accessDenied := by
  cases request with
  | approveSpeakRequest cid allow =>
    rw [perform, approveSpeakRequest, moderate_of_not_moderator hnone]
    rfl
  | stopSpeak cid =>
    have hother : ¬ (cid = 0 ∨ c.isUs cid = true) := by simpa [isAboutOthers] using h
    rw [perform, stopSpeak, if_neg hother, moderate_of_not_moderator hnone]
    rfl
  | _ => cases h

/-- What is about others is carried out in the call. -/
theorem state_of_isAboutOthers {request : CallRequest} (h : c.isAboutOthers request = true)
    (hok : (c.perform w request).2.isOk = true) : c.state = .inProgress := by
  have hchecked : ∀ {operation : String} {find : Call → Except CallError OutboundCommand}
      {follow : Call → Call},
      (answered (c.attempt (moderate w operation find follow)) fun _ => .done).2.isOk = true →
        c.state = .inProgress := by
    intro operation find follow hok
    obtain ⟨e, heq⟩ | ⟨-, heq⟩ := c.moderate_cases w operation find follow
    · rw [heq] at hok
      cases hok
    · obtain ⟨e, hrefused⟩ | ⟨relay, found, hs, -⟩ := c.command_cases w operation find follow
      · rw [heq, hrefused] at hok
        cases hok
      · exact hs
  cases request with
  | approveSpeakRequest cid allow => exact hchecked hok
  | stopSpeak cid =>
    have hother : ¬ (cid = 0 ∨ c.isUs cid = true) := by simpa [isAboutOthers] using h
    rw [perform, stopSpeak, if_neg hother] at hok
    exact hchecked hok
  | _ => cases h

/-- Along every run of a new call we are a moderator exactly if the answer that let us in last
names us, as updated by the commands behind it, or if rights linger that we had before it: the
first alone is the case exactly while none linger.  Requests about the speaking of others are
carried out with such rights only, and are refused without them. -/
theorem rights_along_runs (id : CallId) (chat : ChatId) (us : UserId) (config : CallConfig)
    (secret : IdentitySecret) (callKey : Option MediaKey)
    (steps : List (Surroundings × CallStep)) :
    let start := new id chat us config secret callKey
    let c := start.run steps
    (∀ a, start.lastAdmission none steps = some a →
      c.isModerator = (a.names us || a.lingers us) ∧
        (c.isModerator = a.names us ↔ a.lingers us = false)) ∧
      ∀ w request, c.isAboutOthers request = true →
        (c.isModerator = false → (c.perform w request).2 = .error .accessDenied) ∧
        ((c.perform w request).2.isOk = true → ∃ a, start.lastAdmission none steps = some a ∧
          (a.names us = true ∨ a.lingers us = true)) := by
  intro start c
  have henlisted : Enlisted c (start.lastAdmission none steps) :=
    (enlisted_new id chat us config secret callKey).run steps
  have hjudged : Judged us c (start.lastAdmission none steps) :=
    (judged_new id chat us config secret callKey).run steps
  have hright : ∀ a, start.lastAdmission none steps = some a →
      c.isModerator = (a.names us || a.lingers us) := fun a ha =>
    (hjudged.judged a ha).trans (a.foldl_judge us)
  refine ⟨fun a ha => ⟨hright a ha, ?_⟩, fun w request hother =>
    ⟨fun hnone => perform_of_not_isModerator hother hnone w, fun hok => ?_⟩⟩
  · rw [hright a ha]
    cases hlingers : a.lingers us with
    | true => simp [Admission.names_of_lingers hlingers]
    | false => simp
  · obtain ⟨a, ha, -⟩ := henlisted.inside (state_of_isAboutOthers hother hok)
    refine ⟨a, ha, ?_⟩
    rw [← Bool.or_eq_true, ← hright a ha]
    by_contra hnone
    rw [perform_of_not_isModerator hother (by simpa using hnone)] at hok
    cases hok

/-- We are a moderator in one participation, lose the link, and are let in again by an answer
that names no moderator. -/
def letInAgain : List (Surroundings × CallStep) :=
  [(calm .new, .request (.join ⟨1⟩)),
    (calm .connected, .event ⟨1, .stateChanged .connected⟩),
    (calm .joined, .event ⟨1, .frame (.command (.answer
      ⟨1, ⟨"v=0\r\n", none, none, []⟩, 0, [], .empty, .empty, [⟨"U0"⟩]⟩))⟩),
    (calm .disconnected, .event ⟨1, .stateChanged .disconnected⟩),
    (calm .connected, .event ⟨1, .stateChanged .connected⟩),
    (calm .joined, .event ⟨1, .frame (.command (.answer
      ⟨1, ⟨"v=0\r\n", none, none, []⟩, 0, [⟨9, ⟨"U2"⟩, ⟨2⟩⟩], .empty, .empty, []⟩))⟩)]

/-- The rights of the first participation linger, and let us grant somebody's request. -/
theorem rights_linger :
    let start := new ⟨"call"⟩ ⟨"chat"⟩ ⟨"U0"⟩ ⟨1, 16, 1, 1, none⟩ (Vector.replicate 32 1) none
    let c := start.run letInAgain
    (start.lastAdmission none letInAgain).map (fun a => a.names ⟨"U0"⟩) = some false ∧
      c.isModerator = true ∧
      (c.perform (calm .joined) (.approveSpeakRequest 9 true)).2.isOk = true ∧
      (c.perform (calm .joined) (.approveSpeakRequest 9 true)).1.journal.getLast? =
        some (.posted 1 (.send (.speakRequest (some 9)))) := by
  decide +kernel

end Call
end GroupCall
