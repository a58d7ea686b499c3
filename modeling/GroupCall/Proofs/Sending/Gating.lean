/-
# What we send

After every run our tracks are switched as our flags say, and as we are allowed or asked to send.
That we may speak is a matter of the call.  What the relay wants of our video is told from the
run beside the call: it says so itself, and it is forgotten when we leave and when the link of
somebody who asked to be let in is lost.
-/
import GroupCall.Proofs.Sending.Moves

namespace GroupCall
namespace Call

variable {c c' d : Call} {w : Surroundings} {step : CallStep} {relay count : Nat}

/-! ## What holds between steps -/

/-- Our tracks are switched as they should be, and only in the call we ask to speak or speak. -/
structure Sending (c : Call) : Prop extends Gated c where
  /-- Speaking is a matter of the call. -/
  quiet : c.speaker ≠ .none → c.state = .inProgress

namespace Sending

/-- Nothing is sent without media. -/
theorem of_slots_eq_none (hs : c.slots = none) (ho : c.offer = none) (hquiet : c.speaker = .none) :
    Sending c where
  toGated := .of_slots_eq_none hs ho
  quiet hne := absurd hquiet hne

theorem onward {deeds : List CallDeed} (h : Sending c) (hc : Onward deeds c c') : Sending c' where
  toGated := hc.gated h.toGated
  quiet hne := by
    rw [hc.state_eq]
    rcases hc.speaker with hsame | hnone | hin
    · exact h.quiet (hsame ▸ hne)
    · exact absurd hnone hne
    · exact hin

theorem sent {P : OutboundCommand → Prop} (h : Sending c) (hc : Sent P c c') : Sending c' := by
  cases hc with
  | nothing hc => exact h.onward hc
  | command _ _ _ hc => exact h.onward hc

/-- Tracks that have their keys may be switched at any stage. -/
theorem applyLocalAv (h : Keyed c) (hquiet : c.speaker ≠ .none → c.state = .inProgress) :
    Sending c.applyLocalAv where
  toGated := h.applyLocalAv
  quiet := by
    rw [speaker_of_rewired (Rewired.applyLocalAv c), (Rewired.applyLocalAv c).state_eq]
    exact hquiet

theorem withFlags (h : Sending c) (av : AvFlags) : Sending (c.withFlags av) := by
  have hkeyed : Keyed { c with av := av } := ⟨h.seated, h.offered, h.ivs⟩
  exact applyLocalAv hkeyed h.quiet

theorem wish (h : Sending c) (role : SlotRole) (on : Bool) :
    Sending (c.wish role on).applyLocalAv := by
  have hkeyed : Keyed (c.wish role on) := by
    cases role <;> exact ⟨h.seated, h.offered, h.ivs⟩
  have hquiet : (c.wish role on).speaker ≠ .none → (c.wish role on).state = .inProgress := by
    cases role <;> exact h.quiet
  exact applyLocalAv hkeyed hquiet

theorem begun (h : Bare c) (av : AvFlags) : Sending (c.begun av) :=
  of_slots_eq_none h.slots h.offer h.speaker

theorem leave (hs : c.state.isParticipating = true) (code : TermCode) :
    Sending (c.leave code) := by
  have hrest := (left_leave hs code).rest
  exact of_slots_eq_none (by rw [hrest]) (by rw [hrest]) (by rw [hrest])

/-- What is destroyed sends what it sent before, which is nothing. -/
theorem destroyed (h : Sending c) (hquiet : c.speaker = .none) : Sending c.destroyed where
  toGated := ⟨⟨h.seated, h.offered, h.ivs⟩, h.gates⟩
  quiet hne := absurd hquiet hne

/-- What a move keeps. -/
theorem move (h : Sending c) (hlife : Lifecycle c count) (hmove : Move c w step c') :
    Sending c' := by
  have hbare : c.state.canJoin = true → Bare c := fun hs =>
    hlife.bare (isParticipating_of_canJoin hs)
  cases hmove with
  | sent hc => exact h.sent hc
  | flags _ hc => exact (h.withFlags _).sent hc
  | wished _ _ _ => exact h.wish _ _
  | begun hs _ => exact begun (hbare hs) _
  | linked url relay hs _ =>
    exact of_slots_eq_none (hbare hs).slots (hbare hs).offer (hbare hs).speaker
  | @refused av d code hs _ hd =>
    refine leave ?_ code
    rw [show d.state = .connecting from hd.state_eq]
    rfl
  | @up relay offer d hs _ _ hd hspeaker _ hgated =>
    refine ⟨hgated.asking relay offer, fun hne => ?_⟩
    -- whoever waits for the link does not speak
    have hsilent : (d.asking relay offer).speaker = c.speaker := by
      rw [asking, speaker_moveTo]
      exact hspeaker
    rw [hsilent] at hne
    rw [h.quiet hne] at hs
    cases hs
  | letIn _ _ _ hd hc =>
    have hin := (h.toKeyed.spares hd).goIn
    exact (Sending.mk hin fun _ => state_goIn _).sent hc
  | lost hs _ _ =>
    rw [linkLost_eq hs]
    refine ⟨h.toGated.hushed.moveTo _, fun hne => absurd ?_ hne⟩
    rw [speaker_moveTo, speaker_hushed]
  | left hs hstate _ _ => exact leave (by rw [hstate]; exact hs) _
  | destroyed hs _ => exact h.destroyed (hlife.bare hs).speaker
  | leftDestroyed hs => exact (leave hs _).destroyed (by rw [(left_leave hs _).rest])

theorem take (h : Sending c) (hlife : Lifecycle c count) (w : Surroundings) (step : CallStep) :
    Sending (c.take w step) := h.move hlife (move_take h.toGated hlife w step)

theorem run (h : Sending c) (hlife : Lifecycle c count)
    (steps : List (Surroundings × CallStep)) : Sending (c.run steps) := by
  induction steps generalizing c count with
  | nil => exact h
  | cons step rest ih => exact ih (h.take hlife step.1 step.2) (hlife.take step.1 step.2)

end Sending

theorem sending_new (id : CallId) (chat : ChatId) (us : UserId) (config : CallConfig)
    (secret : IdentitySecret) (callKey : Option MediaKey) :
    Sending (new id chat us config secret callKey) := .of_slots_eq_none rfl rfl rfl

/-! ## What the relay wants -/

/-- What a step brings of a wish of our relay for our video. -/
def wishIn? (c : Call) : CallStep → Option (SlotRole × Bool)
  | .event ⟨connection, .frame (.command command)⟩ =>
    if c.relay = some connection then command.wish? else none
  | _ => none

/-- Whether a step takes the link of somebody who asked to be let in. -/
def losesLink (c : Call) : CallStep → Bool
  | .event ⟨connection, .stateChanged .disconnected⟩ =>
    decide (c.relay = some connection) && (c.state = .joining || c.state = .inProgress)
  | _ => false

/-- Whether our participation ends in a step. -/
def leavesIn (c : Call) (w : Surroundings) (step : CallStep) : Bool :=
  c.state.isParticipating && !(c.take w step).state.isParticipating

/-- Whether our video is wanted in a role after a step, if it was so before or not. -/
def wantedAfter (c : Call) (role : SlotRole) (w : Surroundings) (step : CallStep)
    (before : Bool) : Bool :=
  if c.leavesIn w step || c.losesLink step then false
  else
    match c.wishIn? step with
    | some (wished, on) => if wished = role then on else before
    | none => before

/-- Whether our video is wanted in a role after a run, if it was so before or not. -/
def wantedAlong (c : Call) (role : SlotRole) (before : Bool) :
    List (Surroundings × CallStep) → Bool
  | [] => before
  | (w, step) :: rest =>
    (c.take w step).wantedAlong role (c.wantedAfter role w step before) rest

/-- The wishes for our video are part of where a call stands. -/
theorem isWanted_of_standing {role : SlotRole} (hrole : role ≠ .audio) {s : Standing}
    (h : c'.standing = s) (hvthumb : s.vthumbWanted = c.vthumbWanted)
    (hhires : s.hiresWanted = c.hiresWanted) : c'.isWanted role = c.isWanted role := by
  subst h
  cases role with
  | audio => exact absurd rfl hrole
  | vthumb => exact hvthumb
  | hires => exact hhires

theorem Bare.isWanted (h : Bare c) (role : SlotRole) : c.isWanted role = false := by
  cases role with
  | audio => simp [Call.isWanted, h.speaker]
  | vthumb => exact h.vthumb
  | hires => exact h.hires

theorem isWanted_leave (hs : c.state.isParticipating = true) (code : TermCode)
    {role : SlotRole} (hrole : role ≠ .audio) : (c.leave code).isWanted role = false := by
  have hstanding := standing_leave hs code
  cases role with
  | audio => exact absurd rfl hrole
  | vthumb => exact congrArg Standing.vthumbWanted hstanding
  | hires => exact congrArg Standing.hiresWanted hstanding

theorem take_of_wishIn? {role : SlotRole} {on : Bool} (h : c.wishIn? step = some (role, on))
    (w : Surroundings) : c.take w step = (c.wish role on).applyLocalAv := by
  unfold wishIn? at h
  split at h
  · rename_i connection command
    split at h
    · rename_i hrelay
      rw [take, onRelayEvent, if_pos hrelay]
      exact deliverCommand_of_wish? h w
    · cases h
  · cases h

theorem take_of_losesLink (h : c.losesLink step = true) (w : Surroundings) :
    (c.state = .joining ∨ c.state = .inProgress) ∧ c.take w step = c.linkLost := by
  unfold losesLink at h
  split at h
  · rename_i connection
    simp only [Bool.and_eq_true, decide_eq_true_eq, Bool.or_eq_true] at h
    refine ⟨h.2, ?_⟩
    rw [take, onRelayEvent, if_pos h.1]
    rfl
  · cases h

/-- What a move that is no wish and loses no link makes of the wishes of the relay. -/
theorem isWanted_move (hlife : Lifecycle c count) (hwish : c.wishIn? step = none)
    (hkept : c.losesLink step = false) {role : SlotRole} (hrole : role ≠ .audio)
    (hmove : Move c w step c') :
    c'.isWanted role =
      if c.state.isParticipating && !c'.state.isParticipating then false else c.isWanted role := by
  -- we take no part before, we take part after, or nothing about the stage is different
  have hgone : c.state.isParticipating = false → c'.isWanted role = false →
      c'.isWanted role = if c.state.isParticipating && !c'.state.isParticipating then false
        else c.isWanted role := fun hs hnot => by
    rw [hs, (hlife.bare hs).isWanted, hnot]
    rfl
  have hgoesOn : c'.state.isParticipating = true → c'.isWanted role = c.isWanted role →
      c'.isWanted role = if c.state.isParticipating && !c'.state.isParticipating then false
        else c.isWanted role := fun hs hsame => by
    rw [hs, hsame, Bool.not_true, Bool.and_false]
    rfl
  have hstays : c'.state = c.state → c'.isWanted role = c.isWanted role →
      c'.isWanted role = if c.state.isParticipating && !c'.state.isParticipating then false
        else c.isWanted role := fun hstate hsame => by
    rw [hstate, hsame, Bool.and_not_self]
    rfl
  cases hmove with
  | sent hc => exact hstays hc.state_eq (hc.isWanted_eq hrole)
  | @flags av _ _ hc =>
    have hstanding := standing_withFlags c av
    exact hstays (hc.state_eq.trans (congrArg Standing.state hstanding))
      ((hc.isWanted_eq hrole).trans (isWanted_of_standing hrole hstanding rfl rfl))
  | wished hrelay hstep hcommand =>
    rw [hstep, wishIn?, if_pos hrelay, hcommand] at hwish
    cases hwish
  | begun hs _ | linked _ _ hs _ =>
    have haway := isParticipating_of_canJoin hs
    have hnot := (hlife.bare haway).isWanted role
    exact hgone haway ((isWanted_of_standing hrole rfl rfl rfl).trans hnot)
  | @refused av d code hs _ hd =>
    have hstate : d.state = .connecting := hd.state_eq
    exact hgone (isParticipating_of_canJoin hs)
      (isWanted_leave (by rw [hstate]; rfl) code hrole)
  | @up relay offer d hs _ _ hd _ _ _ =>
    have hstanding := standing_asking
      ((congrArg Standing.state hd).trans hs) relay offer
    rw [hd] at hstanding
    refine hgoesOn ?_ (isWanted_of_standing hrole hstanding rfl rfl)
    rw [show (d.asking relay offer).state = .joining from congrArg Standing.state hstanding]
    rfl
  | @letIn relay answer d _ _ _ _ hd hc =>
    have hstanding := standing_goIn d
    rw [hd.standing] at hstanding
    refine hgoesOn ?_ ((hc.isWanted_eq hrole).trans
      (isWanted_of_standing hrole hstanding rfl rfl))
    rw [hc.state_eq, state_goIn]
    rfl
  | lost hs hrelay hstep =>
    rw [hstep, losesLink] at hkept
    simp [hrelay] at hkept
    rcases hs with hs | hs
    · exact absurd hs hkept.1
    · exact absurd hs hkept.2
  | @left d code hs hstate _ _ =>
    have hin : d.state.isParticipating = true := by rw [hstate]; exact hs
    rw [isWanted_leave hin code hrole, show (d.leave code).state = .clientNotParticipating from
      congrArg Standing.state (standing_leave hin code), hs]
    rfl
  | destroyed hs _ =>
    have hnot := (hlife.bare hs).isWanted role
    exact hgone hs ((isWanted_of_standing hrole rfl rfl rfl).trans hnot)
  | @leftDestroyed code hs =>
    have hnot : (c.leave code).destroyed.isWanted role = false :=
      (isWanted_of_standing hrole rfl rfl rfl).trans (isWanted_leave hs code hrole)
    rw [hnot, hs]
    rfl

/-- After every step the wishes of the relay are those that were told. -/
theorem isWanted_take (h : Sending c) (hlife : Lifecycle c count) (w : Surroundings)
    (step : CallStep) {role : SlotRole} (hrole : role ≠ .audio) :
    (c.take w step).isWanted role = c.wantedAfter role w step (c.isWanted role) := by
  rw [wantedAfter]
  by_cases hloses : c.losesLink step = true
  · obtain ⟨hs, heq⟩ := take_of_losesLink hloses w
    have hstanding := standing_linkLost hs
    rw [hloses, Bool.or_true, if_pos rfl, heq]
    cases role with
    | audio => exact absurd rfl hrole
    | vthumb => exact congrArg Standing.vthumbWanted hstanding
    | hires => exact congrArg Standing.hiresWanted hstanding
  · have hkept : c.losesLink step = false := by simpa using hloses
    cases hwish : c.wishIn? step with
    | some wished =>
      obtain ⟨wished, on⟩ := wished
      have heq := take_of_wishIn? hwish w
      have hrewired := Rewired.applyLocalAv (c.wish wished on)
      have hstate : (c.take w step).state = c.state := by
        rw [heq, hrewired.state_eq]
        cases wished <;> rfl
      have hwanted : (c.take w step).isWanted role = (c.wish wished on).isWanted role := by
        have hstanding := standing_of_rewired hrewired
        rw [heq]
        exact isWanted_of_standing hrole hstanding rfl rfl
      rw [leavesIn, hstate, hkept, Bool.and_not_self, hwanted]
      cases wished <;> cases role <;> first | rfl | exact absurd rfl hrole
    | none =>
      rw [isWanted_move hlife hwish hkept hrole (move_take h.toGated hlife w step), hkept,
        Bool.or_false, leavesIn]

theorem isWanted_run (h : Sending c) (hlife : Lifecycle c count)
    (steps : List (Surroundings × CallStep)) {role : SlotRole} (hrole : role ≠ .audio) :
    (c.run steps).isWanted role = c.wantedAlong role (c.isWanted role) steps := by
  induction steps generalizing c count with
  | nil => rfl
  | cons step rest ih =>
    obtain ⟨w, step⟩ := step
    rw [wantedAlong, ← isWanted_take h hlife w step hrole]
    exact ih (h.take hlife w step) (hlife.take w step)

/-! ## What is switched on -/

/-- Our tracks are switched on exactly if our flags have what they carry, we are not on hold, and
we may speak or are asked for our video. -/
structure Switched (c : Call) (slots : Slots) (vthumb hires : Bool) : Prop where
  /-- Our sound. -/
  audio : ∃ t, c.engine.tracks.get? slots.audio.track = some t ∧
    (t.enabled = true ↔ c.av.audio = true ∧ c.av.onHold = false ∧ c.speaker = .active)
  /-- Our video in low resolution. -/
  vthumb : ∃ t, c.engine.tracks.get? slots.vthumb.track = some t ∧
    (t.enabled = true ↔ c.av.video = true ∧ c.av.onHold = false ∧ vthumb = true)
  /-- Our video in high resolution. -/
  hires : ∃ t, c.engine.tracks.get? slots.hires.track = some t ∧
    (t.enabled = true ↔ c.av.video = true ∧ c.av.onHold = false ∧ hires = true)

/-- Our track in a role: it is there, it encrypts under the IV that we offer, and it is on exactly
if we are to send in the role. -/
theorem Gated.exists_own (h : Gated c) {slots : Slots} (hs : c.slots = some slots)
    (role : SlotRole) : ∃ t sdp ivs, c.engine.tracks.get? (slots.own role).track = some t ∧
      c.offer = some (sdp, ivs) ∧ t.sendIv? = some (ivs.of role) ∧ t.enabled = c.sends role := by
  have hoffered : c.offer.isSome = true := by rw [h.offered, hs]; rfl
  obtain ⟨⟨sdp, ivs⟩, hoffer⟩ := Option.isSome_iff_exists.1 hoffered
  obtain ⟨on, hon⟩ := h.ivs sdp ivs hoffer role
  -- the output is that of a track, so there is one
  have hgate := h.gates role _ _ hon
  obtain ⟨t, ht, heq⟩ := Option.map_eq_some_iff.1 hon
  obtain ⟨henabled, hiv⟩ := Prod.mk.inj heq
  rw [own?, hs, Option.bind_some] at ht
  exact ⟨t, sdp, ivs, ht, hoffer, hiv, henabled.trans hgate⟩

theorem sends_iff (c : Call) (role : SlotRole) :
    c.sends role = true ↔ role.isSent c.av = true ∧ c.isWanted role = true := by
  rw [sends, Bool.and_eq_true]

theorem Gated.switched (h : Gated c) {slots : Slots} (hs : c.slots = some slots) :
    Switched c slots c.vthumbWanted c.hiresWanted where
  audio := by
    obtain ⟨t, -, -, ht, -, -, hon⟩ := h.exists_own hs .audio
    refine ⟨t, ht, ?_⟩
    rw [hon, sends_iff, isSent_iff]
    simp [isWanted, and_assoc, and_left_comm]
  vthumb := by
    obtain ⟨t, -, -, ht, -, -, hon⟩ := h.exists_own hs .vthumb
    refine ⟨t, ht, ?_⟩
    rw [hon, sends_iff, isSent_iff]
    simp [isWanted, and_assoc, and_left_comm]
  hires := by
    obtain ⟨t, -, -, ht, -, -, hon⟩ := h.exists_own hs .hires
    refine ⟨t, ht, ?_⟩
    rw [hon, sends_iff, isSent_iff]
    simp [isWanted, and_assoc, and_left_comm]

/-- **What we send.**  After every run of a new call, if there are slots: our sound is switched on
exactly if our flags have it, we are not on hold and we may speak, and our video in low or in high
resolution exactly if our flags have it, we are not on hold and the relay wants it, as the run
tells.  And only in the call we speak or ask to. -/
theorem gates_along_runs (id : CallId) (chat : ChatId) (us : UserId) (config : CallConfig)
    (secret : IdentitySecret) (callKey : Option MediaKey)
    (steps : List (Surroundings × CallStep)) :
    let start := new id chat us config secret callKey
    let c := start.run steps
    (∀ slots, c.slots = some slots → Switched c slots (start.wantedAlong .vthumb false steps)
      (start.wantedAlong .hires false steps)) ∧
    (c.speaker ≠ .none → c.state = .inProgress) := by
  intro start c
  have hlife := lifecycle_new id chat us config secret callKey
  have hstart := sending_new id chat us config secret callKey
  have hc : Sending c := hstart.run hlife steps
  refine ⟨fun slots hslots => ?_, hc.quiet⟩
  have hvthumb : c.vthumbWanted = start.wantedAlong .vthumb false steps :=
    isWanted_run hstart hlife steps (show SlotRole.vthumb ≠ .audio by simp)
  have hhires : c.hiresWanted = start.wantedAlong .hires false steps :=
    isWanted_run hstart hlife steps (show SlotRole.hires ≠ .audio by simp)
  rw [← hvthumb, ← hhires]
  exact hc.switched hslots

end Call
end GroupCall
