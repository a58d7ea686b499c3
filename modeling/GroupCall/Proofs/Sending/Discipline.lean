/-
# What is handed to the relay

A ledger is told from the deeds of a call: its stage, the connections that are open, and the last
request to join of the present participation, with what it offered and whether its answer was
accepted.  What is handed to a connection has to fit where the ledger stands: a request to join
while we wait for the link, with the offer of the requests before it; anything else in the call,
behind an accepted answer.

The deeds of a run are entered one after the other, and after each step the ledger agrees with the
call.  What the ledger cannot know is said of the step in which a deed is done: that the offered
IVs are those of our tracks, that the flags are ours, and that we are moderators where we have to
be.
-/
import GroupCall.Proofs.Sending.Gating
import GroupCall.Proofs.Keys.Handing

namespace GroupCall

/-- A request to join that was handed over. -/
structure Asked where
  /-- The connection. -/
  relay : Nat
  /-- What it offers. -/
  sdp : Sdp
  /-- The IVs that it names. -/
  ivs : SendIvs
  /-- Whether its answer was accepted. -/
  accepted : Bool

/-- What the deeds of a call tell of its participation. -/
structure Ledger where
  /-- The stage that was told last. -/
  stage : CallState
  /-- The connections that are open. -/
  relays : List Nat
  /-- The last request to join, in the present participation. -/
  asked : Option Asked

namespace Ledger

/-- Nothing was done yet. -/
def blank : Ledger := ⟨.initial, [], none⟩

/-- The ledger after a deed. -/
def enter (l : Ledger) : CallDeed → Ledger
  | .told (.stateChanged .inProgress) =>
    { l with stage := .inProgress, asked := l.asked.map fun a => { a with accepted := true } }
  | .told (.stateChanged stage) => { l with stage := stage }
  | .told (.terminated _) => { l with asked := none }
  | .connected relay _ => { l with relays := l.relays ++ [relay] }
  | .disconnected relay => { l with relays := l.relays.erase relay }
  | .posted relay (.join (.join sdp ivs _ _ _)) =>
    { l with asked := some ⟨relay, sdp, ivs, false⟩ }
  | _ => l

/-- The ledger after some deeds. -/
def after (l : Ledger) (deeds : List CallDeed) : Ledger := deeds.foldl enter l

/-- What may be done, where the ledger stands.  We ask to join while we wait for the link, and with
the offer that we made before; whatever else is handed over is in the call, behind the accepted
answer to the last request; and we get into the call from joining. -/
def Permits (l : Ledger) : CallDeed → Prop
  | .posted relay (.join command) =>
    l.stage = .connecting ∧ l.relays = [relay] ∧ ∃ sdp ivs av speaker vthumbs,
      command = .join sdp ivs av speaker vthumbs ∧
        ∀ a, l.asked = some a → a.sdp = sdp ∧ a.ivs = ivs
  | .posted relay (.send command) =>
    l.stage = .inProgress ∧ l.relays = [relay] ∧ command.isJoin = false ∧
      ∃ a, l.asked = some a ∧ a.relay = relay ∧ a.accepted = true
  | .told (.stateChanged .inProgress) => l.stage = .joining
  | _ => True

/-- Deeds of which each may be done. -/
def Orderly : Ledger → List CallDeed → Prop
  | _, [] => True
  | l, deed :: rest => l.Permits deed ∧ (l.enter deed).Orderly rest

variable {l : Ledger} {state : CallState} {relay : Option Nat} {offer : Option (Sdp × SendIvs)}

theorem after_append (l : Ledger) (first second : List CallDeed) :
    l.after (first ++ second) = (l.after first).after second := List.foldl_append

theorem orderly_append (l : Ledger) (first second : List CallDeed) :
    l.Orderly (first ++ second) ↔ l.Orderly first ∧ (l.after first).Orderly second := by
  induction first generalizing l with
  | nil => simp [Orderly, after]
  | cons deed rest ih => simp [Orderly, after, ih, and_assoc]

/-- Deeds that are not about the participation leave the ledger as it is. -/
theorem enter_of_not_isOutward {deed : CallDeed} (h : deed.isOutward = false) (l : Ledger) :
    l.Permits deed ∧ l.enter deed = l := by
  cases deed with
  | told news =>
    cases news with
    | stateChanged stage => cases h
    | terminated code => cases h
    | _ => exact ⟨trivial, rfl⟩
  | posted _ _ => cases h
  | connected _ _ => cases h
  | disconnected _ => cases h
  | _ => exact ⟨trivial, rfl⟩

theorem after_filter (l : Ledger) (deeds : List CallDeed) :
    l.after (deeds.filter CallDeed.isOutward) = l.after deeds := by
  induction deeds generalizing l with
  | nil => rfl
  | cons deed rest ih =>
    by_cases h : deed.isOutward = true
    · rw [List.filter_cons_of_pos h]
      exact ih _
    · obtain ⟨-, hsame⟩ := enter_of_not_isOutward (by simpa using h) l
      rw [List.filter_cons_of_neg h, ih l, after, after, List.foldl_cons, hsame]

theorem orderly_filter (l : Ledger) (deeds : List CallDeed) :
    l.Orderly (deeds.filter CallDeed.isOutward) ↔ l.Orderly deeds := by
  induction deeds generalizing l with
  | nil => rfl
  | cons deed rest ih =>
    by_cases h : deed.isOutward = true
    · rw [List.filter_cons_of_pos h, Orderly, Orderly, ih]
    · obtain ⟨hpermits, hsame⟩ := enter_of_not_isOutward (by simpa using h) l
      rw [List.filter_cons_of_neg h, Orderly, hsame, ih l, and_iff_right hpermits]

/-! ## The ledger agrees with the call -/

/-- The ledger of a call that is at a stage, with its connection and its offer. -/
structure Fits (l : Ledger) (state : CallState) (relay : Option Nat)
    (offer : Option (Sdp × SendIvs)) : Prop where
  /-- The stage. -/
  stage : l.stage = state
  /-- No connection is open but ours. -/
  relays : l.relays = relay.toList
  /-- We asked our connection to join, with our offer. -/
  asked : ∀ a, l.asked = some a → relay = some a.relay ∧ offer = some (a.sdp, a.ivs)
  /-- Whoever is joining has asked. -/
  joining : state = .joining → l.asked.isSome = true
  /-- Whoever is in the call was let in. -/
  accepted : state = .inProgress → ∃ a, l.asked = some a ∧ a.accepted = true

namespace Fits

theorem blank : blank.Fits .initial none none where
  stage := rfl
  relays := rfl
  asked a ha := by cases ha
  joining hs := by cases hs
  accepted hs := by cases hs

/-- Whoever has no connection has not asked. -/
theorem asked_eq_none (h : l.Fits state none offer) : l.asked = none := by
  cases hasked : l.asked with
  | none => rfl
  | some a =>
    obtain ⟨hrelay, -⟩ := h.asked a hasked
    cases hrelay

/-- A stage outside of joining and of the call is told. -/
theorem moveTo (h : l.Fits state relay offer) (next : CallState) (hjoining : next ≠ .joining)
    (hin : next ≠ .inProgress) :
    l.Permits (.told (.stateChanged next)) ∧
      (l.enter (.told (.stateChanged next))).Fits next relay offer := by
  cases next with
  | joining => exact absurd rfl hjoining
  | inProgress => exact absurd rfl hin
  | _ =>
    exact ⟨trivial, rfl, h.relays, h.asked, fun hs => absurd hs hjoining, fun hs => absurd hs hin⟩

/-- A connection is opened. -/
theorem connected (h : l.Fits .connecting none offer) (relay : Nat) (url : String) :
    (l.enter (.connected relay url)).Fits .connecting (some relay) offer where
  stage := h.stage
  relays := by
    change l.relays ++ [relay] = _
    rw [h.relays]
    rfl
  asked a ha := by
    change l.asked = some a at ha
    rw [h.asked_eq_none] at ha
    cases ha
  joining hs := by cases hs
  accepted hs := by cases hs

/-- We ask to join, with the offer that we made before if we made one. -/
theorem join {relay : Nat} {sdp : Sdp} {ivs : SendIvs} {before : Option (Sdp × SendIvs)}
    (h : l.Fits .connecting (some relay) before)
    (hkept : before.isSome = true → before = some (sdp, ivs)) (av : AvFlags) (speaker : Bool)
    (vthumbs : Option UInt32) :
    l.Orderly [.posted relay (.join (.join sdp ivs av speaker vthumbs)),
        .told (.stateChanged .joining)] ∧
      (l.after [.posted relay (.join (.join sdp ivs av speaker vthumbs)),
        .told (.stateChanged .joining)]).Fits .joining (some relay) (some (sdp, ivs)) := by
  refine ⟨⟨⟨h.stage, h.relays, sdp, ivs, av, speaker, vthumbs, rfl, fun a ha => ?_⟩,
    trivial, trivial⟩, rfl, h.relays, fun a ha => ?_, fun _ => rfl, by simp⟩
  · -- whoever asked before has an offer, and it is still this one
    obtain ⟨-, hoffer⟩ := h.asked a ha
    rw [hkept (by rw [hoffer]; rfl)] at hoffer
    obtain ⟨hsdp, hivs⟩ := Prod.mk.inj (Option.some.inj hoffer)
    exact ⟨hsdp.symm, hivs.symm⟩
  · cases Option.some.inj ha
    exact ⟨rfl, rfl⟩

/-- We are let in. -/
theorem goIn (h : l.Fits .joining relay offer) :
    l.Permits (.told (.stateChanged .inProgress)) ∧
      (l.enter (.told (.stateChanged .inProgress))).Fits .inProgress relay offer := by
  obtain ⟨asked, hasked⟩ := Option.isSome_iff_exists.1 (h.joining rfl)
  -- the request is the same one, and only now it counts as accepted
  have hnow : (l.enter (.told (.stateChanged .inProgress))).asked =
      some { asked with accepted := true } := congrArg (Option.map _) hasked
  refine ⟨h.stage, rfl, h.relays, fun a ha => ?_, ?_, fun _ => ⟨_, hnow, rfl⟩⟩
  · cases Option.some.inj (hnow.symm.trans ha)
    exact h.asked asked hasked
  · simp

/-- In the call a command is handed to our connection. -/
theorem send {relay : Nat} (h : l.Fits .inProgress (some relay) offer)
    {command : OutboundCommand} (hjoin : command.isJoin = false) :
    l.Permits (.posted relay (.send command)) := by
  obtain ⟨a, hasked, haccepted⟩ := h.accepted rfl
  obtain ⟨hrelay, -⟩ := h.asked a hasked
  exact ⟨h.stage, h.relays, hjoin, a, hasked, (Option.some.inj hrelay).symm, haccepted⟩

/-- The participation ends. -/
theorem farewell (h : l.Fits state relay offer) (code : TermCode) :
    l.Orderly (Call.farewell relay code) ∧
      (l.after (Call.farewell relay code)).Fits .clientNotParticipating none none := by
  obtain ⟨hpermits, -⟩ := h.moveTo .terminatingParticipation (by simp) (by simp)
  cases relay with
  | none =>
    refine ⟨⟨hpermits, trivial, trivial, trivial⟩, rfl, h.relays, fun a ha => ?_, by simp, by simp⟩
    cases ha
  | some relay =>
    refine ⟨⟨hpermits, trivial, trivial, trivial, trivial⟩, rfl, ?_, fun a ha => ?_, by simp,
      by simp⟩
    · change l.relays.erase relay = []
      rw [h.relays]
      simp
    · cases ha

end Fits
end Ledger

namespace Call

variable {c c' d : Call} {w : Surroundings} {step : CallStep} {count : Nat}

/-! ## The deeds of a run are entered -/

/-- The ledger of what a call did. -/
def ledger (c : Call) : Ledger := Ledger.blank.after c.journal

/-- Every deed was permitted when it was done, and the ledger agrees with the call. -/
structure Disciplined (c : Call) : Prop where
  /-- What was done. -/
  orderly : Ledger.blank.Orderly c.outward
  /-- Where that led. -/
  fits : (Ledger.blank.after c.outward).Fits c.state c.relay c.offer

theorem disciplined_new (id : CallId) (chat : ChatId) (us : UserId) (config : CallConfig)
    (secret : IdentitySecret) (callKey : Option MediaKey) :
    Disciplined (new id chat us config secret callKey) := ⟨trivial, .blank⟩

namespace Disciplined

/-- Some more deeds are done, each where it is permitted. -/
theorem further {deeds : List CallDeed} (h : Disciplined c)
    (houtward : c'.outward = c.outward ++ deeds)
    (hdeeds : ∀ l : Ledger, l.Fits c.state c.relay c.offer →
      l.Orderly deeds ∧ (l.after deeds).Fits c'.state c'.relay c'.offer) : Disciplined c' := by
  obtain ⟨horderly, hfits⟩ := hdeeds _ h.fits
  refine ⟨?_, ?_⟩
  · rw [houtward]
    exact (Ledger.orderly_append _ _ _).2 ⟨h.orderly, horderly⟩
  · rw [houtward, Ledger.after_append]
    exact hfits

/-- The call stands where it stood. -/
theorem of_standing (h : Disciplined c) (hstate : c'.state = c.state) (hrelay : c'.relay = c.relay)
    (hoffer : c'.offer = c.offer) (houtward : c'.outward = c.outward) : Disciplined c' := by
  rw [← List.append_nil c.outward] at houtward
  refine h.further houtward fun l hl => ⟨trivial, ?_⟩
  rw [hstate, hrelay, hoffer]
  exact hl

theorem sent {P : OutboundCommand → Prop} (h : Disciplined c) (hc : Sent P c c')
    (hp : ∀ command, P command → command.isJoin = false) : Disciplined c' := by
  have hstate := hc.state_eq
  have hrelay := hc.relay_eq
  have hoffer := hc.offer_eq
  cases hc with
  | nothing hc =>
    exact h.of_standing hstate hrelay hoffer (by rw [hc.outward_eq, List.append_nil])
  | command hs hours hcommand hc =>
    refine h.further hc.outward_eq fun l hl => ?_
    rw [hstate, hrelay, hoffer]
    rw [hs, hours] at hl ⊢
    exact ⟨⟨hl.send (hp _ hcommand), trivial⟩, hl⟩

/-- The call moves to a stage outside of joining and of the call. -/
theorem moveTo (h : Disciplined c) (next : CallState) (hjoining : next ≠ .joining)
    (hin : next ≠ .inProgress) (hstate : c'.state = next) (hrelay : c'.relay = c.relay)
    (hoffer : c'.offer = c.offer)
    (houtward : c'.outward = c.outward ++ [.told (.stateChanged next)]) : Disciplined c' := by
  refine h.further houtward fun l hl => ?_
  obtain ⟨hpermits, hfits⟩ := hl.moveTo next hjoining hin
  rw [hstate, hrelay, hoffer]
  exact ⟨⟨hpermits, trivial⟩, hfits⟩

/-- The participation ends, whatever became of the offer. -/
theorem leave (h : Disciplined c) (hs : c.state.isParticipating = true)
    (hstate : d.state = c.state) (hrelay : d.relay = c.relay) (houtward : d.outward = c.outward)
    (code : TermCode) : Disciplined (d.leave code) := by
  have hin : d.state.isParticipating = true := by rw [hstate]; exact hs
  have hstanding := standing_leave hin code
  have hstate' : (d.leave code).state = .clientNotParticipating :=
    congrArg Standing.state hstanding
  have hrelay' : (d.leave code).relay = none := congrArg Standing.relay hstanding
  have hoffer' : (d.leave code).offer = none := congrArg Standing.offer hstanding
  have houtward' := outward_leave hin code
  rw [houtward, hrelay] at houtward'
  refine h.further houtward' fun l hl => ?_
  rw [hstate', hrelay', hoffer']
  exact hl.farewell code

theorem destroyed (h : Disciplined c) : Disciplined c.destroyed :=
  h.moveTo .destroyed (by simp) (by simp) rfl rfl rfl
    (congrArg Standing.outward (standing_destroyed c))

theorem begun (h : Disciplined c) (av : AvFlags) : Disciplined (c.begun av) :=
  h.moveTo .connecting (by simp) (by simp) rfl rfl rfl
    (congrArg Standing.outward (standing_begun c av))

/-- We ask to join, with media that are set up now or were before. -/
theorem asking (h : Disciplined c) (hgated : Gated c) {relay : Nat} {offer : Sdp × SendIvs}
    (hs : c.state = .connecting) (hours : c.relay = some relay)
    (hd : d.standing = { c.standing with installed := true, offer := some offer })
    (hkept : c.slots.isSome = true → c.offer = some offer) :
    Disciplined (d.asking relay offer) := by
  have hstanding := standing_asking ((congrArg Standing.state hd).trans hs) relay offer
  have hsame : d.outward = c.outward := congrArg Standing.outward hd
  have hrelay : d.relay = c.relay := congrArg Standing.relay hd
  have hoffer : d.offer = some offer := congrArg Standing.offer hd
  have houtward : (d.asking relay offer).outward = _ := congrArg Standing.outward hstanding
  rw [hsame] at houtward
  refine h.further houtward fun l hl => ?_
  have hstate' : (d.asking relay offer).state = .joining := congrArg Standing.state hstanding
  have hrelay' : (d.asking relay offer).relay = c.relay :=
    (congrArg Standing.relay hstanding).trans hrelay
  have hoffer' : (d.asking relay offer).offer = some offer :=
    (congrArg Standing.offer hstanding).trans hoffer
  rw [hstate', hrelay', hoffer', hours]
  rw [hs, hours] at hl
  -- media and offer come together, so an offer from before was kept
  exact hl.join (fun hoffered => hkept (hgated.offered ▸ hoffered)) _ _ _

theorem goIn (h : Disciplined c) (hs : c.state = .joining) : Disciplined c.goIn := by
  have hstanding := standing_goIn c
  refine h.further (congrArg Standing.outward hstanding) fun l hl => ?_
  have hrelay : c.goIn.relay = c.relay := congrArg Standing.relay hstanding
  have hoffer : c.goIn.offer = c.offer := congrArg Standing.offer hstanding
  rw [hs] at hl
  obtain ⟨hpermits, hfits⟩ := hl.goIn
  rw [state_goIn, hrelay, hoffer]
  exact ⟨⟨hpermits, trivial⟩, hfits⟩

/-- What a move keeps. -/
theorem move (h : Disciplined c) (hgated : Gated c) (hlife : Lifecycle c count)
    (hmove : Move c w step c') : Disciplined c' := by
  cases hmove with
  | sent hc => exact h.sent hc fun _ hmay => hmay.1
  | @flags av _ _ hc =>
    have hstanding := standing_withFlags c av
    have hflags : Disciplined (c.withFlags av) := h.of_standing (congrArg Standing.state hstanding)
      (congrArg Standing.relay hstanding) (congrArg Standing.offer hstanding)
      (congrArg Standing.outward hstanding)
    exact hflags.sent hc fun _ hmay => hmay.1
  | @wished _ _ role on _ _ _ =>
    obtain ⟨_, _, hstanding⟩ := standing_wished c role on
    exact h.of_standing (congrArg Standing.state hstanding) (congrArg Standing.relay hstanding)
      (congrArg Standing.offer hstanding) (congrArg Standing.outward hstanding)
  | begun _ _ => exact h.begun _
  | @linked av url relay hs _ =>
    have hnone : (c.begun av).relay = none := (hlife.bare (isParticipating_of_canJoin hs)).relay
    refine (h.begun av).further (congrArg Standing.outward (standing_linkedTo _ url relay))
      fun l hl => ?_
    rw [hnone] at hl
    exact ⟨⟨trivial, trivial⟩, hl.connected relay url⟩
  | @refused av d code hs _ hd =>
    exact (h.begun av).leave rfl hd.state_eq hd.relay_eq hd.outward_eq code
  | up hs hours _ hd _ hkept _ => exact h.asking hgated hs hours hd hkept
  | @letIn _ _ d _ hs _ _ hd hc =>
    have hbefore : Disciplined d :=
      h.of_standing hd.state_eq hd.relay_eq hd.offer_eq hd.outward_eq
    refine (hbefore.goIn (hd.state_eq.trans hs)).sent hc fun command hkey => ?_
    obtain ⟨id, wrapped, rfl⟩ := hkey
    rfl
  | lost hs _ _ =>
    have hstanding := standing_linkLost hs
    exact h.moveTo .connecting (by simp) (by simp) (congrArg Standing.state hstanding)
      (congrArg Standing.relay hstanding) (congrArg Standing.offer hstanding)
      (congrArg Standing.outward hstanding)
  | left hs hstate hrelay houtward => exact h.leave hs hstate hrelay houtward _
  | destroyed _ _ => exact h.destroyed
  | leftDestroyed hs => exact (h.leave hs rfl rfl rfl _).destroyed

theorem take (h : Disciplined c) (hgated : Gated c) (hlife : Lifecycle c count)
    (w : Surroundings) (step : CallStep) : Disciplined (c.take w step) :=
  h.move hgated hlife (move_take hgated hlife w step)

theorem run (h : Disciplined c) (hc : Sending c) (hlife : Lifecycle c count)
    (steps : List (Surroundings × CallStep)) : Disciplined (c.run steps) := by
  induction steps generalizing c count with
  | nil => exact h
  | cons step rest ih =>
    obtain ⟨w, step⟩ := step
    exact ih (h.take hc.toGated hlife w step) (hc.take hlife w step) (hlife.take w step)

end Disciplined

/-! ## What a step hands over -/

/-- We ask our connection to join: we waited for the link, and are joining now.  The request
carries our flags, and what it offers are the IVs of our tracks. -/
structure Asks (c c' : Call) (relay : Nat) (command : OutboundCommand) : Prop where
  /-- We waited for the link. -/
  connecting : c.state = .connecting
  /-- We are joining. -/
  joining : c'.state = .joining
  /-- The connection is ours. -/
  ours : c.relay = some relay
  /-- What is offered. -/
  offer : ∃ sdp ivs slots, command = .join sdp ivs c.av c.av.audio c.config.vthumbsOnJoin ∧
    c'.offer = some (sdp, ivs) ∧ c'.slots = some slots ∧
    ∀ role, ∃ t, c'.engine.tracks.get? (slots.own role).track = some t ∧
      t.sendIv? = some (ivs.of role)

/-- A command is handed to our connection in the call, where we are or are let in by the answer
that this step brings. -/
structure HandsOver (c c' : Call) (step : CallStep) (relay : Nat) (command : OutboundCommand) :
    Prop where
  /-- We are in the call, or are let in. -/
  before : c.state = .inProgress ∨ c.state = .joining ∧
    ∃ answer, step = .event ⟨relay, .frame (.command (.answer answer))⟩
  /-- We are in the call. -/
  after : c'.state = .inProgress
  /-- The connection is ours. -/
  ours : c.relay = some relay
  /-- Another participant's speaking is the matter of moderators. -/
  may : c.MaySend command

/-- What is to be said of a deed that a step does. -/
def Warrants (c c' : Call) (step : CallStep) : CallDeed → Prop
  | .posted relay (.join command) => Asks c c' relay command
  | .posted relay (.send command) => HandsOver c c' step relay command
  | .told (.stateChanged .inProgress) => c.state = .joining ∧ ∃ relay answer,
    c.relay = some relay ∧ step = .event ⟨relay, .frame (.command (.answer answer))⟩
  | _ => True

theorem warrants_farewell (relay : Option Nat) (code : TermCode) :
    ∀ deed ∈ farewell relay code, Warrants c c' step deed := by
  cases relay <;> simp [farewell, Warrants]

/-- A request to join that opens a link carries what our tracks are keyed with. -/
theorem asks_asking {relay : Nat} {offer : Sdp × SendIvs} (hs : c.state = .connecting)
    (hours : c.relay = some relay)
    (hd : d.standing = { c.standing with installed := true, offer := some offer })
    (hgated : Gated d) :
    Asks c (d.asking relay offer) relay
      (.join offer.1 offer.2 d.av d.av.audio d.config.vthumbsOnJoin) := by
  have hstanding := standing_asking ((congrArg Standing.state hd).trans hs) relay offer
  have hoffer : (d.asking relay offer).offer = some offer :=
    (congrArg Standing.offer hstanding).trans (congrArg Standing.offer hd)
  have hinstalled : (d.asking relay offer).slots.isSome = true :=
    (congrArg Standing.installed hstanding).trans (congrArg Standing.installed hd)
  obtain ⟨slots, hslots⟩ := Option.isSome_iff_exists.1 hinstalled
  have hav : d.av = c.av := congrArg Standing.av hd
  have hconfig : d.config = c.config := congrArg Standing.config hd
  refine ⟨hs, congrArg Standing.state hstanding, hours, offer.1, offer.2, slots, ?_, hoffer, hslots,
    fun role => ?_⟩
  · rw [hav, hconfig]
  · obtain ⟨t, sdp, ivs, ht, hmade, hiv, -⟩ := (hgated.asking relay offer).exists_own hslots role
    obtain rfl : offer = (sdp, ivs) := Option.some.inj (hoffer.symm.trans hmade)
    exact ⟨t, ht, hiv⟩

/-- What is handed over from a call with our connection is warranted. -/
theorem warrants_sent {P : OutboundCommand → Prop} (hc : Sent P d c')
    (hmay : ∀ command, P command → c.MaySend command) (hours : d.relay = c.relay)
    (hbefore : d.state = .inProgress → ∀ relay, c.relay = some relay →
      c.state = .inProgress ∨ c.state = .joining ∧
        ∃ answer, step = .event ⟨relay, .frame (.command (.answer answer))⟩) :
    ∃ deeds, c'.outward = d.outward ++ deeds ∧ ∀ deed ∈ deeds, Warrants c c' step deed := by
  have hstate := hc.state_eq
  cases hc with
  | nothing hc => exact ⟨[], hc.outward_eq, by simp⟩
  | @command relay _ hs hrelay hcommand hc =>
    have hrelay' : c.relay = some relay := hours.symm.trans hrelay
    refine ⟨_, hc.outward_eq, fun deed hdeed => ?_⟩
    obtain rfl := List.mem_singleton.1 hdeed
    exact ⟨hbefore hs relay hrelay', hstate.trans hs, hrelay', hmay _ hcommand⟩

/-- Every deed of a move is warranted. -/
theorem warrants_move (hmove : Move c w step c') :
    ∃ deeds, c'.outward = c.outward ++ deeds ∧ ∀ deed ∈ deeds, Warrants c c' step deed := by
  cases hmove with
  | sent hc => exact warrants_sent hc (fun _ hmay => hmay) rfl fun hs _ _ => .inl hs
  | @flags av _ _ hc =>
    have hstanding := standing_withFlags c av
    have hstate : (c.withFlags av).state = c.state := congrArg Standing.state hstanding
    have houtward : (c.withFlags av).outward = c.outward := congrArg Standing.outward hstanding
    rw [← houtward]
    exact warrants_sent hc (fun _ hmay => hmay) (congrArg Standing.relay hstanding)
      fun hs _ _ => .inl (hstate.symm.trans hs)
  | @wished _ _ role on _ _ _ =>
    obtain ⟨_, _, hstanding⟩ := standing_wished c role on
    exact ⟨[], (congrArg Standing.outward hstanding).trans (List.append_nil _).symm, by simp⟩
  | @begun av _ _ =>
    exact ⟨_, congrArg Standing.outward (standing_begun c av), by simp [Warrants]⟩
  | @linked av url relay _ _ =>
    have houtward : ((c.begun av).linkedTo url relay).outward =
        (c.begun av).outward ++ [.connected relay url] :=
      congrArg Standing.outward (standing_linkedTo _ url relay)
    have hbegun : (c.begun av).outward = _ := congrArg Standing.outward (standing_begun c av)
    rw [hbegun, List.append_assoc] at houtward
    exact ⟨_, houtward, by simp [Warrants]⟩
  | @refused av d code hs _ hd =>
    have hstate : d.state = .connecting := hd.state_eq
    have hbegun : d.outward = c.outward ++ [.told (.stateChanged .connecting)] :=
      hd.outward_eq.trans (congrArg Standing.outward (standing_begun c av))
    have houtward := outward_leave (show d.state.isParticipating = true by rw [hstate]; rfl) code
    rw [hbegun, List.append_assoc] at houtward
    exact ⟨_, houtward, List.forall_mem_cons.2 ⟨trivial, warrants_farewell _ code⟩⟩
  | @up relay offer d hs hours _ hd _ _ hgated =>
    have hstanding := standing_asking ((congrArg Standing.state hd).trans hs) relay offer
    have hsame : d.outward = c.outward := congrArg Standing.outward hd
    have houtward : (d.asking relay offer).outward = _ := congrArg Standing.outward hstanding
    rw [hsame] at houtward
    exact ⟨_, houtward, List.forall_mem_cons.2 ⟨asks_asking hs hours hd hgated, by
      simp [Warrants]⟩⟩
  | @letIn relay answer d _ hs hours hstep hd hc =>
    have hrelay : d.goIn.relay = c.relay :=
      (congrArg Standing.relay (standing_goIn d)).trans hd.relay_eq
    have hsame : d.outward = c.outward := hd.outward_eq
    have hin : d.goIn.outward = d.outward ++ [.told (.stateChanged .inProgress)] :=
      congrArg Standing.outward (standing_goIn d)
    have hbefore : d.goIn.state = .inProgress → ∀ relay, c.relay = some relay →
        c.state = .inProgress ∨ c.state = .joining ∧
          ∃ answer, step = .event ⟨relay, .frame (.command (.answer answer))⟩ := by
      intro _ relay' hrelay'
      obtain rfl : relay = relay' := Option.some.inj (hours.symm.trans hrelay')
      exact .inr ⟨hs, answer, hstep⟩
    obtain ⟨deeds, houtward, hdeeds⟩ :=
      warrants_sent hc (fun _ => maySend_of_isKey) hrelay hbefore
    -- that we are in is told first, and our key goes out behind it
    rw [hin, hsame, List.append_assoc] at houtward
    exact ⟨_, houtward, List.forall_mem_cons.2 ⟨⟨hs, relay, answer, hours, hstep⟩, hdeeds⟩⟩
  | lost hs _ _ =>
    exact ⟨_, congrArg Standing.outward (standing_linkLost hs), by simp [Warrants]⟩
  | @left d code hs hstate _ houtward =>
    have hin : d.state.isParticipating = true := by rw [hstate]; exact hs
    exact ⟨_, (outward_leave hin code).trans (by rw [houtward]), warrants_farewell _ code⟩
  | destroyed _ _ =>
    exact ⟨_, congrArg Standing.outward (standing_destroyed c), by simp [Warrants]⟩
  | @leftDestroyed code hs =>
    have houtward : (c.leave code).destroyed.outward =
        (c.leave code).outward ++ [.told (.stateChanged .destroyed)] :=
      congrArg Standing.outward (standing_destroyed _)
    rw [outward_leave hs, List.append_assoc] at houtward
    exact ⟨_, houtward, List.forall_mem_append.2 ⟨warrants_farewell _ code, by simp [Warrants]⟩⟩

/-- Every deed of a step is warranted. -/
theorem warrants_take (h : Gated c) (hlife : Lifecycle c count) (w : Surroundings)
    (step : CallStep) : ∀ deed ∈ c.deeds w step, Warrants c (c.take w step) step deed := by
  intro deed hdeed
  obtain ⟨deeds, houtward, hdeeds⟩ := warrants_move (move_take h hlife w step)
  have hjournal : (c.take w step).outward =
      c.outward ++ (c.deeds w step).filter CallDeed.isOutward := by
    rw [outward, journal_take hlife.settled, List.filter_append, outward]
  obtain rfl := List.append_cancel_left (houtward.symm.trans hjournal)
  by_cases hout : deed.isOutward = true
  · exact hdeeds deed (List.mem_filter.2 ⟨hdeed, hout⟩)
  · -- no other deed needs a warrant
    unfold Warrants
    split
    · exact absurd rfl hout
    · exact absurd rfl hout
    · exact absurd rfl hout
    · trivial

/-- **What is handed to the relay.**  In every run of a new call each deed fits where the ledger of
the deeds before it stands: we ask to join while we wait for the link, each time with the offer and
the IVs of the first request of the participation, and anything else is handed to our connection in
the call, behind the accepted answer to the last request.  The ledger agrees with the call.  And in
every step after that, a request to join carries our flags and the IVs of the encryptors of our
tracks and makes us joining, a command about another participant's speaking comes from a moderator
and names somebody who is connected, and it is an answer that lets us in. -/
theorem outbound_along_runs (id : CallId) (chat : ChatId) (us : UserId) (config : CallConfig)
    (secret : IdentitySecret) (callKey : Option MediaKey)
    (steps : List (Surroundings × CallStep)) :
    let c := (new id chat us config secret callKey).run steps
    Ledger.blank.Orderly c.journal ∧ c.ledger.Fits c.state c.relay c.offer ∧
      ∀ w step, ∀ deed ∈ c.deeds w step, Warrants c (c.take w step) step deed := by
  intro c
  have hlife := lifecycle_new id chat us config secret callKey
  have hstart := sending_new id chat us config secret callKey
  have hc : Sending c := hstart.run hlife steps
  have hdone : Disciplined c :=
    (disciplined_new id chat us config secret callKey).run hstart hlife steps
  have horderly := hdone.orderly
  have hfits := hdone.fits
  rw [outward, Ledger.orderly_filter] at horderly
  rw [outward, Ledger.after_filter] at hfits
  exact ⟨horderly, hfits, fun w step => warrants_take hc.toGated (hlife.run steps) w step⟩

/-- Whoever was let in has asked its connection, and the answer was accepted. -/
example :
    let c := (new ⟨"call"⟩ ⟨"chat"⟩ ⟨"U0"⟩ ⟨1, 16, 1, 1, none⟩ (Vector.replicate 32 1) none).run
      handedOver
    c.ledger.asked.map (fun a => (a.relay, a.accepted)) = some (1, true) := by
  decide +kernel

end Call
end GroupCall
