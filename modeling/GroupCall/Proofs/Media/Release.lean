/-
# What is released as a participation ends

Leaving closes the engine if our media are set up, and only then.  A set-up that fails behind
some tracks installs nothing, so these stay with the engine as the participation ends, and the
next one finds them in front of its own.  What is left over is therefore what such set-ups
stranded since the engine was last closed.  It is all that the engine holds while we do not
take part, and every request to join describes it in front of our own tracks.
-/
import GroupCall.Proofs.Media.Inventory

namespace GroupCall

/-- No other description is offered in place of that of the tracks: what may stand in its place
is an error, or a text that has no compact form. -/
def EngineFaults.Truthful (faults : EngineFaults) : Prop :=
  ∀ text sdp, faults.offer = some (.ok text) → Sdp.compress text ≠ .ok sdp

/-! ## Leaving -/

/-- An inventory after our participation is over. -/
def Stock.released (s : Stock) : Stock :=
  { s with
    tracks := if s.installed then [] else s.tracks
    closes := if s.installed then s.closes + 1 else s.closes
    installed := false
    offer := none }

theorem Slots.build_releaseAll (s : Slots) (ts : MediaTracks) :
    (s.releaseAll ts).2.build = ts.build := by
  rw [releaseAll, releaseEach]
  generalize s.recv.keys = mids
  induction mids generalizing s ts with
  | nil => rfl
  | cons mid rest ih => exact (ih _ _).trans (Call.build_release s mid ts)

namespace Call

variable {c d : Call} {w : Surroundings} {config : CallConfig}
  {left : List (TrackKind × Direction)}

@[simp] theorem stock_dropRelay (c : Call) : c.dropRelay.stock = c.stock := by
  rw [dropRelay]
  split
  · rfl
  · exact stock_record (c := { c with relay := none }) rfl

theorem stock_closeMedia (c : Call) :
    c.closeMedia.stock =
      if c.stock.installed then
        { c.stock with tracks := [], closes := c.stock.closes + 1, installed := false }
      else c.stock := by
  rw [closeMedia]
  split
  · rename_i hnone
    rw [if_neg (by simp [stock, hnone])]
  · rename_i slots hsome
    rw [if_pos (by simp [stock, hsome])]
    have hreleased := stock_onSlots (f := Slots.releaseAll) Slots.build_releaseAll c
    dsimp only
    generalize c.onSlots Slots.releaseAll = e at hreleased
    have hswitched : (((e.switch slots.vthumb false).switch slots.hires false).switch
        slots.audio false).stock = c.stock := by
      simpa using hreleased
    generalize ((e.switch slots.vthumb false).switch slots.hires false).switch
      slots.audio false = d at hswitched
    rw [← hswitched]
    rfl

theorem stock_quit (c : Call) (code : TermCode) : (c.quit code).stock = c.stock.released := by
  have hforgot (e : Call) : e.forgetParticipation.stock = { e.stock with offer := none } := rfl
  rw [quit, stock_tell, stock_moveTo, stock_setSpeaker, hforgot, stock_closeMedia,
    stock_clearSessions, stock_dropRelay]
  -- without slots there is nothing to close
  cases hinstalled : c.stock.installed <;> simp [Stock.released, hinstalled]

/-- Whoever leaves releases what was installed. -/
theorem stock_leave (hs : c.state.isParticipating = true) (code : TermCode) :
    (c.leave code).stock = c.stock.released := by
  have hmove : c.state.canTransition .terminatingParticipation = true := by
    cases hstate : c.state <;> simp_all [CallState.isParticipating, CallState.canTransition]
  have hleaving : c.leaving.state = .terminatingParticipation := by
    rw [leaving, if_pos hs, moveTo_eq hmove]
    rfl
  rw [leave_eq, if_pos hleaving, stock_quit, leaving, if_pos hs, stock_moveTo]

/-! ## Setting up -/

/-- The build of tracks is the same after ours were given their encryptors. -/
theorem stock_installMedia {places : List Nat} (hp : Installable c.engine c.config places)
    (sdp : Sdp) (ivs : SendIvs) :
    (c.installMedia sdp ivs places).stock =
      { c.stock with installed := true, offer := some (sdp, ivs) } := by
  obtain ⟨vthumb, hires, audio, recv, rfl, -, -⟩ := hp.parts
  simp only [installMedia, stock_applyLocalAv]
  refine (stock_withTracks ?_).trans rfl
  simp [Slots.bindLocal, Slot.bindLocal]

/-- What an engine offers of itself, and no other description, has a compact form. -/
theorem eq_offerText (htruthful : w.faults.Truthful) {e : MediaEngine} {offer : String} {sdp : Sdp}
    (h : e.offer w.faults = .ok offer) (hcompress : Sdp.compress offer = .ok sdp) :
    offer = MediaEngine.offerText e.tracks.all := by
  rw [MediaEngine.offer] at h
  split at h
  · rename_i replaced hreplaced
    rw [h] at hreplaced
    exact absurd hcompress (htruthful offer sdp hreplaced)
  · split at h <;> cases h
    rfl

/-- What is described are the tracks of the engine. -/
theorem outlines_of_describe (htruthful : w.faults.Truthful) {sdp : Sdp}
    (h : c.describe w = .ok sdp) : sdp.outlines = c.engine.tracks.outlines := by
  rw [describe] at h
  cases hoffer : c.engine.offer w.faults with
  | error reason =>
    rw [hoffer] at h
    cases h
  | ok offer =>
    cases hcompress : Sdp.compress offer with
    | error e =>
      rw [hoffer] at h
      simp only [Except.mapError, bind, Except.bind, hcompress] at h
      split at h <;> cases h
    | ok plain =>
      rw [hoffer] at h
      simp only [Except.mapError, bind, Except.bind, hcompress] at h
      split at h
      · cases h
      · cases h
        have houtlines : plain.outlines = c.engine.tracks.outlines := by
          rw [eq_offerText htruthful hoffer hcompress] at hcompress
          exact MediaEngine.outlines_of_compress hcompress
        exact (plain.outlines_layered c.config.simulcastIndex).trans houtlines

/-! ## What is left over -/

/-- What an engine holds is what was left over and, while our media are set up, our tracks.
What we offer then describes both. -/
structure Stocked (config : CallConfig) (left : List (TrackKind × Direction)) (s : Stock) :
    Prop where
  /-- The call is set up in this way. -/
  setting : s.config = config
  /-- The tracks of the engine. -/
  tracks : s.tracks = lineUp (left ++ if s.installed then config.tracks else [])
  /-- What we offer. -/
  offer : ∀ o ∈ s.offer, s.installed = true ∧ o.1.outlines = lineUp (left ++ config.tracks)

theorem Stocked.tracks_of_not_installed {s : Stock} (h : Stocked config left s)
    (hs : s.installed = false) : s.tracks = lineUp left := by
  have htracks := h.tracks
  rwa [hs, if_neg (by simp), List.append_nil] at htracks

/-- Without slots, the engine holds what is left over, and nothing is offered. -/
theorem Stocked.of_not_installed {s : Stock} (hsetting : s.config = config)
    (hs : s.installed = false) (htracks : s.tracks = lineUp left) (hoffer : s.offer = none) :
    Stocked config left s := by
  refine ⟨hsetting, ?_, by simp [hoffer]⟩
  rw [hs, if_neg (by simp), List.append_nil]
  exact htracks

theorem Stocked.offer_of_not_installed {s : Stock} (h : Stocked config left s)
    (hs : s.installed = false) : s.offer = none := by
  refine Option.eq_none_iff_forall_not_mem.2 fun o ho => ?_
  have hinstalled := (h.offer o ho).1
  rw [hs] at hinstalled
  cases hinstalled

/-- Leaving releases what was left over together with our tracks, if these are installed. -/
theorem Stocked.released {s : Stock} (h : Stocked config left s) :
    Stocked config (if s.installed then [] else left) s.released := by
  refine .of_not_installed h.setting rfl ?_ rfl
  cases hs : s.installed with
  | true => simp [Stock.released, hs, lineUp]
  | false => simp [Stock.released, hs, h.tracks_of_not_installed hs]

/-- A set-up that fails leaves over what was handed out. -/
theorem Stocked.setUpMedia_error (h : Stocked config left c.stock) (hs : c.slots = none)
    {e : CallError} (hmedia : (c.setUpMedia w).2 = .error e) :
    Stocked config (left ++ w.faults.granted c.engine.requested config.tracks)
        (c.setUpMedia w).1.stock ∧
      (c.setUpMedia w).1.stock.installed = false ∧
      (c.setUpMedia w).1.stock.closes = c.stock.closes ∧
      (c.setUpMedia w).1.stock.described = c.stock.described := by
  obtain rfl : c.config = config := h.setting
  have hbare : c.stock.installed = false := by simp [stock, hs]
  have houtlines := MediaEngine.outlines_addTracks (h.tracks_of_not_installed hbare) w.faults
    c.config.tracks
  have hcloses := MediaEngine.closes_addTracks c.engine w.faults c.config.tracks
  obtain ⟨why, heq⟩ | ⟨places, sdp, -, -, heq⟩ := c.setUpMedia_cases w
  · rw [heq]
    exact ⟨.of_not_installed rfl hbare houtlines (h.offer_of_not_installed hbare), hbare, hcloses,
      rfl⟩
  · rw [heq] at hmedia
    cases hmedia

/-- Media that are set up join what is left over. -/
theorem Stocked.setUpMedia (h : Stocked config left c.stock) (hs : c.slots = none)
    (htruthful : w.faults.Truthful) (hmedia : (c.setUpMedia w).2 = .ok ()) :
    Stocked config left (c.setUpMedia w).1.stock ∧
      (c.setUpMedia w).1.stock.installed = true ∧
      (c.setUpMedia w).1.stock.closes = c.stock.closes ∧
      (c.setUpMedia w).1.stock.described = c.stock.described := by
  obtain rfl : c.config = config := h.setting
  have hbare : c.stock.installed = false := by simp [stock, hs]
  have houtlines := MediaEngine.outlines_addTracks (h.tracks_of_not_installed hbare) w.faults
    c.config.tracks
  have hcloses := MediaEngine.closes_addTracks c.engine w.faults c.config.tracks
  obtain ⟨why, heq⟩ | ⟨places, sdp, hadd, hdescribe, heq⟩ := c.setUpMedia_cases w
  · rw [heq] at hmedia
    cases hmedia
  · have hgranted := (MediaEngine.isOk_addTracks_iff c.engine w.faults c.config.tracks).1
      (by rw [hadd]; rfl)
    rw [hgranted] at houtlines
    rw [heq, stock_installMedia (MediaEngine.addTracks_fresh _ _ hadd)]
    refine ⟨⟨rfl, houtlines, ?_⟩, rfl, hcloses, rfl⟩
    rintro o ho
    cases ho
    exact ⟨rfl, (outlines_of_describe htruthful hdescribe).trans houtlines⟩

/-! ## A socket opens -/

theorem state_ensureMedia (c : Call) (w : Surroundings) : (c.ensureMedia w).1.state = c.state := by
  obtain ⟨engine, heq, -⟩ | ⟨slots, offer, engine, -, heq⟩ := ensureMedia_cases c w <;> rw [heq]

/-- A request to join that is accepted describes what we offer. -/
theorem stock_sendJoin (hs : c.state = .connecting) (w : Surroundings) :
    (∃ e, c.sendJoin w = (c, .error e)) ∨
      ∃ sdp ivs, c.offer = some (sdp, ivs) ∧ (c.sendJoin w).2 = .ok () ∧
        (c.sendJoin w).1.stock = { c.stock with described := c.stock.described ++ [sdp] } := by
  obtain ⟨e, heq⟩ | ⟨relay, sdp, ivs, hoffer, -, heq⟩ := c.sendJoin_cases w
  · exact .inl ⟨e, heq⟩
  · refine .inr ⟨sdp, ivs, hoffer, ?_, ?_⟩ <;> rw [heq]
    · rw [setState_joining hs]
    · rw [stock_setState]
      simp [stock, described, post, record, joinRequest, CallDeed.described?]

/-- Media that are set up, now or before, join what is left over. -/
theorem Stocked.ensureMedia (h : Stocked config left c.stock) (htruthful : w.faults.Truthful)
    (hmedia : (c.ensureMedia w).2 = .ok ()) :
    Stocked config left (c.ensureMedia w).1.stock ∧
      (c.ensureMedia w).1.stock.installed = true ∧
      (c.ensureMedia w).1.stock.closes = c.stock.closes ∧
      (c.ensureMedia w).1.stock.described = c.stock.described := by
  rw [Call.ensureMedia] at hmedia ⊢
  split at hmedia
  · rename_i hnone
    exact h.setUpMedia hnone htruthful hmedia
  · rename_i slots hsome
    exact ⟨h, by simp [stock, hsome], rfl, rfl⟩

/-- Our media are to be set up, and that fails. -/
def FailsToSetUp (c : Call) (w : Surroundings) : Prop :=
  c.slots = none ∧ (c.setUpMedia w).2.isOk = false

instance (c : Call) (w : Surroundings) : Decidable (c.FailsToSetUp w) :=
  decidable_of_iff (c.slots.isNone = true ∧ (c.setUpMedia w).2.isOk = false)
    (by simp [FailsToSetUp])

theorem failsToSetUp_iff (c : Call) (w : Surroundings) :
    c.FailsToSetUp w ↔ (c.ensureMedia w).2.isOk = false := by
  rw [FailsToSetUp, Call.ensureMedia]
  split
  · rename_i hnone
    simp [hnone]
  · rename_i slots hsome
    simp [hsome, Except.isOk, Except.toBool]

theorem onNews_connected_of_error (hs : c.state = .connecting) {e : CallError}
    (hlink : c.ensureMedia w = (d, .error e)) :
    c.onNews w (.stateChanged .connected) = (d.report e).leave .signalingFailure := by
  rw [onNews, linkUp, if_pos hs, hlink]

theorem onNews_connected_of_refused (hs : c.state = .connecting)
    (hlink : c.ensureMedia w = (d, .ok ())) {e : CallError} (hsent : d.sendJoin w = (d, .error e)) :
    c.onNews w (.stateChanged .connected) = (d.report e).leave .signalingFailure := by
  have hup := linkUp_of_ensureMedia (w := w) hs (congrArg Prod.snd hlink)
  rw [hlink, hsent] at hup
  rw [onNews, hup]

theorem onNews_connected_of_sent (hs : c.state = .connecting)
    (hlink : c.ensureMedia w = (d, .ok ())) (hsent : (d.sendJoin w).2 = .ok ()) :
    c.onNews w (.stateChanged .connected) = (d.sendJoin w).1 := by
  have hup := linkUp_of_ensureMedia (w := w) hs (congrArg Prod.snd hlink)
  rw [hlink] at hup
  rw [onNews, hup]
  generalize d.sendJoin w = outcome at hsent
  obtain ⟨d', result⟩ := outcome
  cases hsent
  rfl

theorem isParticipating_report (hs : c.state = .connecting) (e : CallError) :
    ((c.ensureMedia w).1.report e).state.isParticipating = true :=
  (congrArg CallState.isParticipating ((state_ensureMedia c w).trans hs)).trans rfl

/-- A set-up that fails as a socket opens ends the participation, and what was handed out is left
over. -/
theorem Stocked.opened_of_failsToSetUp (h : Stocked config left c.stock)
    (hs : c.state = .connecting) (hfails : c.FailsToSetUp w) :
    let c' := c.onNews w (.stateChanged .connected)
    c'.state = .clientNotParticipating ∧ c'.stock.installed = false ∧
      c'.stock.closes = c.stock.closes ∧ c'.described = c.described ∧
      Stocked config (left ++ w.faults.granted c.engine.requested config.tracks) c'.stock := by
  intro c'
  have hin (e : CallError) := isParticipating_report (w := w) hs e
  obtain ⟨hnone, hresult⟩ := hfails
  have hmedia : c.ensureMedia w = c.setUpMedia w := by rw [Call.ensureMedia, hnone]
  cases hsetUp : c.setUpMedia w with
  | mk d result =>
    rw [hmedia, hsetUp] at hin
    cases result with
    | ok _ =>
      rw [hsetUp] at hresult
      cases hresult
    | error e =>
      obtain ⟨hstocked, hbare, hcloses, hdescribed⟩ :=
        h.setUpMedia_error (w := w) hnone (congrArg Prod.snd hsetUp)
      rw [hsetUp] at hstocked hbare hcloses hdescribed
      have heq : c' = (d.report e).leave .signalingFailure :=
        onNews_connected_of_error hs (hmedia.trans hsetUp)
      have hstock : c'.stock = d.stock.released := by
        rw [heq, stock_leave (hin e), stock_report]
      have hreleased := hstocked.released
      rw [if_neg (by simp [hbare])] at hreleased
      refine ⟨?_, by rw [hstock]; rfl, ?_, (congrArg Stock.described hstock).trans hdescribed, ?_⟩
      · rw [heq, (left_leave (hin e) _).rest]
      · rw [hstock, ← hcloses]
        exact if_neg (by simp [hbare])
      · rw [hstock]
        exact hreleased

/-- Media that are set up as a socket opens are described, with what is left over, as we ask to
be let in; or that fails, and everything is released. -/
theorem Stocked.opened (h : Stocked config left c.stock) (hs : c.state = .connecting)
    (hfails : ¬ c.FailsToSetUp w) (htruthful : w.faults.Truthful) :
    let c' := c.onNews w (.stateChanged .connected)
    (c'.stock.closes = c.stock.closes ∧ Stocked config left c'.stock ∧
        ∃ sdp, c'.described = c.described ++ [sdp] ∧
          sdp.outlines = lineUp (left ++ config.tracks)) ∨
      c'.stock.closes = c.stock.closes + 1 ∧ c'.described = c.described ∧
        Stocked config [] c'.stock := by
  intro c'
  have hstate := (state_ensureMedia c w).trans hs
  have hin (e : CallError) := isParticipating_report (w := w) hs e
  rw [failsToSetUp_iff] at hfails
  cases hmedia : c.ensureMedia w with
  | mk d result =>
    rw [hmedia] at hstate hin hfails
    cases result with
    | error e => exact absurd rfl hfails
    | ok _ =>
      obtain ⟨hstocked, hinstalled, hcloses, hdescribed⟩ :=
        h.ensureMedia htruthful (congrArg Prod.snd hmedia)
      rw [hmedia] at hstocked hinstalled hcloses hdescribed
      obtain ⟨e, hrefused⟩ | ⟨sdp, ivs, hoffer, hsent, hstock⟩ := stock_sendJoin hstate w
      · -- the refusal ends the participation, and our media are installed by then
        have hstock : c'.stock = d.stock.released := by
          rw [show c' = _ from onNews_connected_of_refused hs hmedia hrefused, stock_leave (hin e),
            stock_report]
        have hreleased := hstocked.released
        rw [if_pos hinstalled] at hreleased
        refine Or.inr ⟨?_, (congrArg Stock.described hstock).trans hdescribed, ?_⟩
        · rw [hstock, ← hcloses]
          exact if_pos hinstalled
        · rw [hstock]
          exact hreleased
      · have hstock' : c'.stock = { d.stock with described := d.stock.described ++ [sdp] } :=
          (congrArg stock (onNews_connected_of_sent hs hmedia hsent)).trans hstock
        refine Or.inl ⟨?_, ?_, sdp, ?_, (hstocked.offer (sdp, ivs) hoffer).2⟩
        · rw [hstock']
          exact hcloses
        · rw [hstock']
          exact ⟨hstocked.setting, hstocked.tracks, hstocked.offer⟩
        · refine (congrArg Stock.described hstock').trans ?_
          rw [hdescribed]
          rfl

theorem exists_describe (hoffer : w.faults.offer = none) (halive : c.cancelled = false)
    (hall : c.engine.tracks.all ≠ []) {sdp : Sdp}
    (hcompress : Sdp.compress (MediaEngine.offerText c.engine.tracks.all) = .ok sdp) :
    ∃ sdp, c.describe w = .ok sdp := by
  have hown : c.engine.offer w.faults =
      .ok (MediaEngine.offerText c.engine.tracks.all) := by
    rw [MediaEngine.offer, hoffer]
    exact if_neg (by simpa using hall)
  refine ⟨sdp.layered c.config.simulcastIndex, ?_⟩
  simp only [describe, hown, requireAlive, halive, Except.mapError, bind, Except.bind, hcompress]
  rfl

/-- A set-up succeeds if every track can be had, the engine may offer its own tracks, and the call
was not cancelled. -/
theorem Stocked.not_failsToSetUp (h : Stocked config left c.stock)
    (hgranted : w.faults.granted c.engine.requested config.tracks = config.tracks)
    (hoffer : w.faults.offer = none) (halive : c.cancelled = false)
    (hroom : MediaEngine.firstSource + 10 * (left.length + config.tracks.length) + 500 ≤
      UInt64.size) : ¬ c.FailsToSetUp w := by
  rintro ⟨hs, hfails⟩
  obtain rfl : c.config = config := h.setting
  have hbare : c.stock.installed = false := by simp [stock, hs]
  have houtlines := MediaEngine.outlines_addTracks (h.tracks_of_not_installed hbare) w.faults
    c.config.tracks
  have hok := (MediaEngine.isOk_addTracks_iff c.engine w.faults c.config.tracks).2 hgranted
  rw [hgranted] at houtlines
  rw [Call.setUpMedia] at hfails
  cases hadd : c.engine.addTracks w.faults c.config.tracks with
  | mk engine result =>
    rw [hadd] at houtlines hok hfails
    cases result with
    | error reason => cases hok
    | ok places =>
      have hlength : engine.tracks.all.length = left.length + c.config.tracks.length := by
        have hlengths := congrArg List.length houtlines
        rwa [MediaTracks.outlines, List.length_map, length_lineUp, List.length_append] at hlengths
      -- an offer of nothing is no text, but a set-up always adds our own tracks
      have hall : engine.tracks.all ≠ [] := by
        intro hnil
        rw [hnil, CallConfig.length_tracks, List.length_nil] at hlength
        omega
      rw [← hlength] at hroom
      obtain ⟨sdp, hcompress, -⟩ := MediaEngine.exists_compress hroom
      obtain ⟨sdp, hdescribe⟩ := exists_describe (c := { c with engine := engine }) (w := w)
        hoffer halive hall hcompress
      dsimp only at hfails
      rw [attempt_demand_bind, hdescribe] at hfails
      cases hfails

/-- Where nothing fails as a socket opens, we ask to be let in. -/
theorem Stocked.described_of_opened (h : Stocked config left c.stock) (hs : c.state = .connecting)
    {relay : Nat} (hrelay : c.relay = some relay) (hoffering : Offering c)
    (hfails : ¬ c.FailsToSetUp w) (htruthful : w.faults.Truthful) (htakes : w.TakesJoin) :
    ∃ sdp, (c.onNews w (.stateChanged .connected)).described = c.described ++ [sdp] ∧
      sdp.outlines = lineUp (left ++ config.tracks) := by
  have hmedia : (c.ensureMedia w).2 = .ok () := by
    rw [failsToSetUp_iff] at hfails
    cases hresult : (c.ensureMedia w).2 with
    | error e =>
      rw [hresult] at hfails
      exact absurd rfl hfails
    | ok _ => rfl
  obtain ⟨-, sdp, ivs, hjournal⟩ := linkUp_accepted hoffering hs hrelay hmedia htakes
  have hdescribed : (c.onNews w (.stateChanged .connected)).described = c.described ++ [sdp] := by
    rw [described, hjournal, List.filterMap_append]
    rfl
  obtain ⟨-, -, sdp', hdescribed', houtlines⟩ | ⟨-, hkept, -⟩ := h.opened hs hfails htruthful
  · have hsame := List.append_cancel_left (hdescribed'.symm.trans hdescribed)
    cases hsame
    exact ⟨sdp, hdescribed, houtlines⟩
  · rw [hkept] at hdescribed
    exact absurd (congrArg List.length hdescribed) (by simp)

/-! ## Every step -/

/-- Whether a step is the news that a socket is open for which we wait. -/
def isOpenedBy (c : Call) : CallStep → Bool
  | .event ⟨connection, .stateChanged .connected⟩ =>
    decide (c.relay = some connection) && decide (c.state = .connecting)
  | _ => false

theorem take_of_isOpenedBy {step : CallStep} (h : c.isOpenedBy step = true) (w : Surroundings) :
    c.state = .connecting ∧ c.take w step = c.onNews w (.stateChanged .connected) := by
  cases step with
  | event event =>
    obtain ⟨connection, news⟩ := event
    cases news with
    | stateChanged state =>
      cases state with
      | connected =>
        simp only [isOpenedBy, Bool.and_eq_true, decide_eq_true_eq] at h
        refine ⟨h.2, ?_⟩
        rw [Call.take, onRelayEvent, if_pos h.1]
      | _ => cases h
    | _ => cases h
  | _ => cases h

/-- The inventory is as before, or what was installed is released. -/
def Parted (c c' : Call) : Prop := c'.stock = c.stock ∨ c'.stock = c.stock.released

theorem parted_leave (ht : c.state ≠ .terminatingParticipation) (code : TermCode) :
    Parted c (c.leave code) := by
  by_cases hs : c.state.isParticipating = true
  · exact Or.inr (stock_leave hs code)
  · rw [leave_of_away (by simpa using hs) ht]
    exact Or.inl rfl

/-- Leaving, after something that does not touch the inventory. -/
theorem parted_leave_of_stock_eq (ht : c.state ≠ .terminatingParticipation)
    (hstate : d.state = c.state) (hstock : d.stock = c.stock) (code : TermCode) :
    Parted c (d.leave code) := by
  have hparted := parted_leave (c := d) (by rwa [hstate]) code
  rwa [Parted, hstock] at hparted

theorem parted_join (c : Call) (w : Surroundings) (av : AvFlags) : Parted c (c.join w av).1 := by
  by_cases hs : c.state.canJoin = true
  · have hbegun : (c.begun av).stock = c.stock := stock_tell _ _
    have hleave (e : Call) (he : e.stock = c.stock) (hstate : e.state = .connecting) :
        Parted c (e.leave .signalingFailure) := by
      refine Or.inr ((stock_leave (by rw [hstate]; rfl) _).trans ?_)
      rw [he]
    rw [join_of_canJoin hs]
    split
    · rename_i answer _
      cases answer with
      | error reason => exact hleave (c.begun av) hbegun rfl
      | ok url =>
        have hsought : ((c.begun av).record (.sought url)).stock = c.stock :=
          (stock_record rfl _).trans hbegun
        rw [connect]
        split
        · exact hleave _ hsought rfl
        · exact Or.inl ((stock_record rfl _).trans hsought)
    · exact Or.inl hbegun
  · rw [join_of_not_canJoin hs]
    exact Or.inl rfl

theorem parted_destroy (ht : c.state ≠ .terminatingParticipation) : Parted c c.destroy := by
  have hdeparted : Parted c c.departed := by
    rw [departed]
    split
    · exact parted_leave ht _
    · exact Or.inl rfl
  have hset : (c.departed.setState .destroyed).1.stock = c.departed.stock := stock_setState _ _
  rw [destroy_eq]
  split
  · exact Or.inl rfl
  · split
    · rwa [Parted, show ((c.departed.setState .destroyed).1.cancel).stock = c.departed.stock from
        hset]
    · rwa [Parted, hset]

theorem parted_perform (ht : c.state ≠ .terminatingParticipation) (w : Surroundings)
    (request : CallRequest) : Parted c (c.perform w request).1 := by
  by_cases hrelay : request.isForRelay = true
  · exact Or.inl (stock_perform c w hrelay)
  · cases request with
    | join av => exact parted_join c w av
    | hangup =>
      change Parted c c.hangup.1
      rw [hangup]
      split
      · exact parted_leave ht _
      · exact Or.inl rfl
    | abortReconnect => exact Or.inl (stock_abortReconnect c)
    | updateAv av => exact Or.inl (stock_updateAv c w av)
    | rotateKey => exact Or.inl (stock_rotateKey c w)
    | addParticipant user => exact Or.inl (stock_addParticipant c user)
    | removeParticipant user => exact Or.inl (stock_removeParticipant c user)
    | snapshot => exact Or.inl rfl
    | destroy => exact parted_destroy ht
    | _ => exact absurd rfl hrelay

theorem parted_onNews (ht : c.state ≠ .terminatingParticipation) (w : Surroundings)
    {news : RelayNews} (h : news ≠ .stateChanged .connected ∨ c.state ≠ .connecting) :
    Parted c (c.onNews w news) := by
  cases news with
  | stateChanged state =>
    cases state with
    | connected =>
      have hs : ¬ c.state = .connecting := h.resolve_left (by simp)
      rw [onNews, linkUp, if_neg hs]
      exact Or.inl rfl
    | disconnected => exact Or.inl (stock_linkLost c)
    | _ => exact Or.inl rfl
  | frame frame =>
    cases frame with
    | command command =>
      cases hend : RelayNews.endsParticipation (.frame (.command command)) with
      | false => exact Or.inl (stock_deliverCommand w hend c)
      | true =>
        cases command with
        | bye reason => exact parted_leave ht _
        | _ => cases hend
    | error code text =>
      have htold : ((c.tell (.relayError code (text.getD ""))).report
          (.relay code (text.getD ""))).stock = c.stock := by rw [stock_report, stock_tell]
      exact parted_leave_of_stock_eq ht (d := (c.tell _).report _) rfl htold _
  | failed error =>
    exact parted_leave_of_stock_eq ht (d := c.report (.connection error)) rfl (stock_report c _) _
  | closed => exact parted_leave ht _

/-- No step touches the inventory otherwise, unless a socket opens that was waited for. -/
theorem parted_take (ht : c.state ≠ .terminatingParticipation) (w : Surroundings)
    {step : CallStep} (h : c.isOpenedBy step = false) : Parted c (c.take w step) := by
  cases step with
  | request request => exact parted_perform ht w request
  | cancel => exact Or.inl rfl
  | frame place bytes => exact Or.inl (stock_handleFrame c place bytes)
  | event event =>
    obtain ⟨connection, news⟩ := event
    rw [Call.take, onRelayEvent]
    split
    · rename_i hrelay
      refine parted_onNews ht w ?_
      by_contra hboth
      simp only [not_or, ne_eq, not_not] at hboth
      dsimp only at hrelay hboth
      rw [hboth.1, isOpenedBy, hrelay, hboth.2] at h
      simp at h
    · exact Or.inl rfl

/-- The tracks that a step strands: those that a set-up hands out that fails behind them. -/
def strands (c : Call) (w : Surroundings) (step : CallStep) : List (TrackKind × Direction) :=
  if c.isOpenedBy step ∧ c.FailsToSetUp w then
    w.faults.granted c.engine.requested c.config.tracks
  else []

/-- What is left over after a step: nothing, if the engine was closed. -/
def leftAfter (c : Call) (w : Surroundings) (step : CallStep)
    (left : List (TrackKind × Direction)) : List (TrackKind × Direction) :=
  if (c.take w step).engine.closes = c.engine.closes then left ++ c.strands w step else []

theorem leftAfter_of_kept {step : CallStep}
    (h : (c.take w step).stock.closes = c.stock.closes) :
    c.leftAfter w step left = left ++ c.strands w step := if_pos h

theorem leftAfter_of_closed {step : CallStep}
    (h : (c.take w step).stock.closes = c.stock.closes + 1) : c.leftAfter w step left = [] :=
  if_neg fun hkept => Nat.succ_ne_self _ (h.symm.trans hkept)

/-- What is left over after a run: what was stranded since the engine was last closed. -/
def leftovers (c : Call) (left : List (TrackKind × Direction)) :
    List (Surroundings × CallStep) → List (TrackKind × Direction)
  | [] => left
  | (w, step) :: rest => (c.take w step).leftovers (c.leftAfter w step left) rest

/-- A step that strands nothing keeps what is left over, or releases it with what was installed;
it describes nothing. -/
theorem Stocked.take_of_parted (h : Stocked config left c.stock) {step : CallStep}
    (hstrands : c.strands w step = []) (hparted : Parted c (c.take w step)) :
    Stocked config (c.leftAfter w step left) (c.take w step).stock ∧
      (c.take w step).described = c.described := by
  obtain heq | heq := hparted
  · rw [leftAfter_of_kept (congrArg Stock.closes heq), hstrands, List.append_nil, heq]
    exact ⟨h, congrArg Stock.described heq⟩
  · have hreleased := h.released
    cases hinstalled : c.stock.installed with
    | true =>
      have hclosed : (c.take w step).stock.closes = c.stock.closes + 1 := by
        simp [heq, Stock.released, hinstalled]
      rw [hinstalled, if_pos rfl] at hreleased
      rw [leftAfter_of_closed hclosed, heq]
      exact ⟨hreleased, congrArg Stock.described heq⟩
    | false =>
      -- nothing was installed, so nothing is closed, and what is left over stays
      have hkept : (c.take w step).stock.closes = c.stock.closes := by
        simp [heq, Stock.released, hinstalled]
      rw [hinstalled, if_neg (by simp)] at hreleased
      rw [leftAfter_of_kept hkept, hstrands, List.append_nil, heq]
      exact ⟨hreleased, congrArg Stock.described heq⟩

/-- A request to join is the only thing that describes anything, and it describes what is left
over and our tracks. -/
theorem Stocked.take (h : Stocked config left c.stock) (ht : c.state ≠ .terminatingParticipation)
    (htruthful : w.faults.Truthful) (step : CallStep) :
    Stocked config (c.leftAfter w step left) (c.take w step).stock ∧
      ((c.take w step).described = c.described ∨
        ∃ sdp, (c.take w step).described = c.described ++ [sdp] ∧
          sdp.outlines = lineUp (left ++ config.tracks)) := by
  have hconfig : c.config = config := h.setting
  cases hopened : c.isOpenedBy step with
  | true =>
    obtain ⟨hs, htaken⟩ := take_of_isOpenedBy hopened w
    by_cases hfails : c.FailsToSetUp w
    · have hopen := h.opened_of_failsToSetUp hs hfails
      rw [← htaken] at hopen
      obtain ⟨-, -, hkept, hdescribed, hstocked⟩ := hopen
      rw [leftAfter_of_kept hkept, strands, if_pos ⟨hopened, hfails⟩, hconfig]
      exact ⟨hstocked, Or.inl hdescribed⟩
    · have hopen := h.opened hs hfails htruthful
      rw [← htaken] at hopen
      obtain ⟨hkept, hstocked, sdp, hdescribed, houtlines⟩ | ⟨hclosed, hdescribed, hstocked⟩ :=
        hopen
      · rw [leftAfter_of_kept hkept, strands, if_neg fun hboth => hfails hboth.2, List.append_nil]
        exact ⟨hstocked, Or.inr ⟨sdp, hdescribed, houtlines⟩⟩
      · rw [leftAfter_of_closed hclosed]
        exact ⟨hstocked, Or.inl hdescribed⟩
  | false =>
    have hstrands : c.strands w step = [] := if_neg (by simp [hopened])
    obtain ⟨hstocked, hdescribed⟩ := h.take_of_parted hstrands (parted_take ht w hopened)
    exact ⟨hstocked, Or.inl hdescribed⟩

theorem Stocked.run (h : Stocked config left c.stock) {count : Nat} (hlife : Lifecycle c count)
    {steps : List (Surroundings × CallStep)}
    (htruthful : ∀ step ∈ steps, step.1.faults.Truthful) :
    Stocked config (c.leftovers left steps) (c.run steps).stock := by
  -- the life of the call goes along: no step starts in the middle of a farewell
  induction steps generalizing c left count with
  | nil => exact h
  | cons step rest ih =>
    have htaken := h.take hlife.settled (htruthful step List.mem_cons_self) step.2
    exact ih htaken.1 (hlife.take step.1 step.2)
      fun step' hstep' => htruthful step' (List.mem_cons_of_mem _ hstep')

/-! ## Every run -/

/-- Nothing is left over where nothing was stranded. -/
theorem leftovers_eq_nil {steps : List (Surroundings × CallStep)}
    (h : ∀ before w step after, steps = before ++ (w, step) :: after →
      (c.run before).strands w step = []) : c.leftovers [] steps = [] := by
  induction steps generalizing c with
  | nil => rfl
  | cons first rest ih =>
    obtain ⟨w, step⟩ := first
    have hstrands : c.strands w step = [] := h [] w step rest rfl
    have hnone : c.leftAfter w step [] = [] := by
      rw [leftAfter, hstrands]
      split <;> rfl
    rw [leftovers, hnone]
    refine ih fun before w' step' after heq => ?_
    exact h ((w, step) :: before) w' step' after (by rw [heq, List.cons_append])

/-- Whatever is stranded is in the engine after the participation has ended. -/
theorem Stocked.stranded (h : Stocked config left c.stock) {step : CallStep}
    (hstrands : c.strands w step ≠ []) :
    (c.take w step).state = .clientNotParticipating ∧
      (c.take w step).engine.tracks.outlines = lineUp (left ++ c.strands w step) := by
  have hboth : c.isOpenedBy step = true ∧ c.FailsToSetUp w := by
    by_contra hneither
    exact hstrands (if_neg hneither)
  have hconfig : c.config = config := h.setting
  obtain ⟨hs, htaken⟩ := take_of_isOpenedBy hboth.1 w
  have hopen := h.opened_of_failsToSetUp hs hboth.2
  rw [← htaken] at hopen
  obtain ⟨hstate, hbare, -, -, hstocked⟩ := hopen
  refine ⟨hstate, ?_⟩
  rw [strands, if_pos hboth, hconfig]
  exact hstocked.tracks_of_not_installed hbare

/-- In every run on an engine that describes its own tracks, what the engine holds while we do
not take part is what is left over, and each request to join describes that and then our own
tracks.  Nothing is left over unless a set-up failed behind some tracks; where one does, the
participation ends and the engine keeps them. -/
theorem media_along_runs (id : CallId) (chat : ChatId) (us : UserId) (config : CallConfig)
    (secret : IdentitySecret) (callKey : Option MediaKey)
    (steps : List (Surroundings × CallStep))
    (htruthful : ∀ step ∈ steps, step.1.faults.Truthful) :
    let c := (new id chat us config secret callKey).run steps
    let left := (new id chat us config secret callKey).leftovers [] steps
    (c.state.isParticipating = false → c.engine.tracks.outlines = lineUp left) ∧
    (∀ w step, w.faults.Truthful →
      (c.take w step).described = c.described ∨
        ∃ sdp, (c.take w step).described = c.described ++ [sdp] ∧
          sdp.outlines = lineUp (left ++ config.tracks) ∧
          sdp.tracks.length = left.length + (3 + config.videoSlots + config.audioSlots)) ∧
    ((∀ before w step after, steps = before ++ (w, step) :: after →
      ((new id chat us config secret callKey).run before).strands w step = []) → left = []) ∧
    ∀ w step, c.strands w step ≠ [] →
      (c.take w step).state = .clientNotParticipating ∧
        (c.take w step).engine.tracks.outlines = lineUp (left ++ c.strands w step) := by
  intro c left
  have hlife : Lifecycle c ((new id chat us config secret callKey).joins steps) :=
    lifecycle_run id chat us config secret callKey steps
  have hnew : Stocked config [] (new id chat us config secret callKey).stock :=
    .of_not_installed rfl rfl rfl rfl
  have hstocked : Stocked config left c.stock :=
    hnew.run (lifecycle_new id chat us config secret callKey) htruthful
  refine ⟨fun hs => ?_, fun w step hw => ?_, leftovers_eq_nil,
    fun w step hstrands => hstocked.stranded hstrands⟩
  · have hslots := (hlife.bare hs).slots
    exact hstocked.tracks_of_not_installed (by simp [stock, hslots])
  · obtain hkept | ⟨sdp, hdescribed, houtlines⟩ := (hstocked.take hlife.settled hw step).2
    · exact Or.inl hkept
    · refine Or.inr ⟨sdp, hdescribed, houtlines, ?_⟩
      have hlength := congrArg List.length houtlines
      rwa [Sdp.outlines, List.length_map, length_lineUp, List.length_append,
        CallConfig.length_tracks] at hlength

/-- Calm surroundings with an engine that offers its own tracks, and hands out those for whose
numbers there is no reason not to. -/
def headless (relay : RelayState) (track : Nat → Option String) : Surroundings :=
  { calm relay with faults := ⟨track, none, none⟩ }

theorem truthful_headless (relay : RelayState) (track : Nat → Option String) :
    (headless relay track).faults.Truthful := by
  intro text sdp h
  cases h

/-- The third track of a set-up cannot be had. -/
def shortOfTrack : List (Surroundings × CallStep) :=
  [(headless .new fun _ => none, .request (.join ⟨1⟩)),
    (headless .connected fun n => if n = 2 then some "short" else none,
      .event ⟨1, .stateChanged .connected⟩)]

/-- A call of which one track of each kind is received. -/
def smallCall : Call :=
  new ⟨"call"⟩ ⟨"chat"⟩ ⟨"U0"⟩ ⟨1, 16, 1, 1, none⟩ (Vector.replicate 32 1) none

theorem truthful_shortOfTrack : ∀ step ∈ shortOfTrack, step.1.faults.Truthful := by
  simp [shortOfTrack, truthful_headless]

/-- Where the third track cannot be had, two are left over, and whatever is described next are
seven. -/
theorem media_along_short_run :
    (∀ step ∈ shortOfTrack, step.1.faults.Truthful) ∧
      (smallCall.run shortOfTrack).state.isParticipating = false ∧
      (smallCall.run shortOfTrack).engine.tracks.outlines =
        [⟨0, .video, .sendRecv⟩, ⟨1, .video, .sendRecv⟩] ∧
      ∀ step,
        ((smallCall.run shortOfTrack).take (headless .connected fun _ => none) step).described =
            (smallCall.run shortOfTrack).described ∨
          ∃ sdp, ((smallCall.run shortOfTrack).take (headless .connected fun _ => none)
              step).described = (smallCall.run shortOfTrack).described ++ [sdp] ∧
            sdp.tracks.length = 7 := by
  have haway : (smallCall.run shortOfTrack).state.isParticipating = false := by decide +kernel
  have hleft : smallCall.leftovers [] shortOfTrack =
      [(.video, .sendRecv), (.video, .sendRecv)] := by decide +kernel
  obtain ⟨houtlines, hdescribed, -, -⟩ := media_along_runs ⟨"call"⟩ ⟨"chat"⟩ ⟨"U0"⟩
    ⟨1, 16, 1, 1, none⟩ (Vector.replicate 32 1) none shortOfTrack truthful_shortOfTrack
  rw [← smallCall, hleft] at houtlines
  refine ⟨truthful_shortOfTrack, haway, houtlines haway, fun step => ?_⟩
  obtain hkept | ⟨sdp, hnext, -, hlength⟩ :=
    hdescribed (headless .connected fun _ => none) step (truthful_headless _ _)
  · exact Or.inl hkept
  · rw [← smallCall, hleft] at hlength
    exact Or.inr ⟨sdp, hnext, hlength⟩

/-- The next participation waits for its socket. -/
def waitingAgain : Call :=
  (smallCall.run shortOfTrack).take (headless .new fun _ => none) (.request (.join ⟨1⟩))

theorem stocked_waitingAgain :
    Stocked smallCall.config [(.video, .sendRecv), (.video, .sendRecv)] waitingAgain.stock := by
  have hnew : Stocked smallCall.config [] smallCall.stock := .of_not_installed rfl rfl rfl rfl
  have hlife : Lifecycle smallCall 0 := lifecycle_new _ _ _ _ _ _
  have hwaiting : waitingAgain = smallCall.run (shortOfTrack ++
      [(headless .new fun _ => none, .request (.join ⟨1⟩))]) := rfl
  have hleft : smallCall.leftovers [] (shortOfTrack ++
      [(headless .new fun _ => none, .request (.join ⟨1⟩))]) =
        [(.video, .sendRecv), (.video, .sendRecv)] := by decide +kernel
  rw [hwaiting, ← hleft]
  refine hnew.run hlife ?_
  simp [shortOfTrack, truthful_headless]

/-- A set-up that fails at its third track ends the participation with two tracks in the engine,
and the next request to join describes seven tracks instead of five. -/
theorem media_left_over :
    (smallCall.run shortOfTrack).state = .clientNotParticipating ∧
      (smallCall.run shortOfTrack).engine.tracks.all.length = 2 ∧
      ∃ sdp ∈ (waitingAgain.take (headless .connected fun _ => none)
        (.event ⟨1, .stateChanged .connected⟩)).described, sdp.tracks.length = 7 := by
  refine ⟨by decide +kernel, by decide +kernel, ?_⟩
  have hs : waitingAgain.state = .connecting := by decide +kernel
  have hrelay : waitingAgain.relay = some 1 := by decide +kernel
  have hslots : waitingAgain.slots = none := by decide +kernel
  have hoffering : Offering waitingAgain := fun hsome => by
    rw [hslots] at hsome
    cases hsome
  have hfails : ¬ waitingAgain.FailsToSetUp (headless .connected fun _ => none) :=
    stocked_waitingAgain.not_failsToSetUp (by decide +kernel) rfl (by decide +kernel)
      (by decide +kernel)
  obtain ⟨sdp, hdescribed, houtlines⟩ := stocked_waitingAgain.described_of_opened hs hrelay
    hoffering hfails (truthful_headless _ _) ⟨rfl, rfl⟩
  have hlength : sdp.tracks.length = 7 := by
    have hlengths := congrArg List.length houtlines
    rw [Sdp.outlines, List.length_map, length_lineUp] at hlengths
    exact hlengths
  refine ⟨sdp, ?_, hlength⟩
  rw [Call.take, onRelayEvent, if_pos hrelay, hdescribed]
  exact List.mem_append_right _ List.mem_cons_self

end Call
end GroupCall
