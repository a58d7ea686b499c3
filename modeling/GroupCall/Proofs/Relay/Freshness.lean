/-
# Stale addresses

A connection that is the only user of its cache dials the addresses that it knows and looks the
host up again behind the attempt's back.  An answer is either disregarded, or it names other
addresses than those in use, and then it replaces them at once.  Once the resolver answers one
set of addresses, that set is learned, and then the cache holds it or nothing: nothing is
replaced any more.
-/
import GroupCall.Proofs.Relay.Schedule
import GroupCall.Proofs.Relay.Solo

namespace GroupCall
namespace Solo

variable {s : Solo} {known : Addresses}

/-! ## Answers -/

/-- Whether an answer does nothing: one to another attempt, a failed or empty one, and one with
the addresses that are known. -/
def Disregards (s : Solo) (round : Nat) (answer : LookupAnswer) : Prop :=
  round ≠ s.connection.round ∨ ∀ fresh, answer = .ok fresh → fresh.isEmpty = false →
    ∃ known, s.entry = some known ∧ known.Same fresh

/-- An answer to the current attempt is one to an attempt on known addresses. -/
theorem Sound.cached (h : s.Sound) {link : Link} {answer : LookupAnswer}
    {rest : List (Nat × LookupAnswer)} (hphase : s.connection.phase = .serving link)
    (hanswers : s.connection.answers = (s.connection.round, answer) :: rest) :
    ∃ known, link.cached = some known ∧ s.entry = some known := by
  cases hcached : link.cached with
  | none =>
    have hasked : s.connection.round ∈ s.asked :=
      h.answers (s.connection.round, answer) (hanswers ▸ List.mem_cons_self)
    refine absurd hasked (h.others ?_)
    rw [hphase]
    exact congrArg some hcached
  | some known => exact ⟨known, rfl, h.inUse hphase hcached⟩

theorem Sound.disregards (h : s.Sound) {link : Link} {round : Nat} {answer : LookupAnswer}
    {rest : List (Nat × LookupAnswer)} (hphase : s.connection.phase = .serving link)
    (hanswers : s.connection.answers = (round, answer) :: rest)
    (hdisregards : s.Disregards round answer) :
    s.turn .takeAnswer = ⟨{ s.connection with answers := rest }, s.cache, []⟩ := by
  rw [turn, Turn.step_takeAnswer hphase hanswers, Turn.refresh_same]
  · rfl
  · rcases hdisregards with hother | hsame
    · exact Or.inl hother
    · by_cases hround : round = s.connection.round
      · subst hround
        obtain ⟨known, hcached, hentry⟩ := h.cached hphase hanswers
        refine Or.inr fun fresh hfresh hsome => ⟨known, hcached, ?_⟩
        obtain ⟨known', hentry', hsame⟩ := hsame fresh hfresh hsome
        rw [hentry] at hentry'
        cases hentry'
        exact hsame
      · exact Or.inl hround

/-- An answer that counts is one that replaces the socket. -/
theorem Sound.stale (h : s.Sound) {link : Link} {round : Nat} {fresh : Addresses}
    {rest : List (Nat × LookupAnswer)} (hphase : s.connection.phase = .serving link)
    (hanswers : s.connection.answers = (round, .ok fresh) :: rest)
    (hcounts : ¬ s.Disregards round (.ok fresh)) :
    ∃ known, Turn.Stale s.connection link known fresh rest := by
  rw [Disregards] at hcounts
  push Not at hcounts
  obtain ⟨rfl, fresh', hfresh, hsome, hother⟩ := hcounts
  cases hfresh
  obtain ⟨known, hcached, hentry⟩ := h.cached hphase hanswers
  exact ⟨known, hphase, hcached, hanswers, hsome, hother known hentry⟩

/-- The addresses that an answer named replace those in use: they are stored, the socket is
closed, and they are dialed without a delay and without a failure. -/
structure Replaced (s : Solo) (link : Link) (fresh : Addresses) : Prop where
  /-- They are stored. -/
  stored : (s.turn .takeAnswer).cache.get? s.connection.host = some fresh
  /-- The socket is closed. -/
  closed : .hangUp link.socket ∈ (s.turn .takeAnswer).actions
  /-- There is no delay. -/
  undelayed : (s.turn .takeAnswer).delays = []
  /-- No failure is counted. -/
  uncounted : (s.turn .takeAnswer).connection.backoff = s.connection.backoff ∧
    (s.turn .takeAnswer).connection.preferV6 = s.connection.preferV6
  /-- The next attempt dials them. -/
  redialed : s.connection.cancelled = false →
    (s.turn .takeAnswer).connection.phase = .dialing (some fresh) ∧
      (s.turn .takeAnswer).connection.round = s.connection.round + 1 ∧
      ∃ address, fresh.pick s.connection.preferV6 = some address ∧
        .dial (s.connection.round + 1) address ∈ (s.turn .takeAnswer).actions
  /-- If the owner has closed the connection there is none. -/
  ended : s.connection.cancelled = true →
    (s.turn .takeAnswer).connection.phase = .finished
  /-- It is counted among the replacements. -/
  counted : ∀ cache, s.replaced? (.input cache .takeAnswer) = some fresh

/-- What is neither a failure nor the opening of a socket counts nothing and waits for nothing. -/
theorem calm_turn (s : Solo) {input : RelayInput} (hfails : s.connection.fails input = false)
    (hlinks : s.connection.links input = false) : (s.turn input).delays = [] ∧
      (s.turn input).connection.backoff = s.connection.backoff ∧
      (s.turn input).connection.preferV6 = s.connection.preferV6 := by
  have hpace := Turn.pace_step ⟨s.connection, s.cache, []⟩ input
  rw [turn]
  generalize Turn.step ⟨s.connection, s.cache, []⟩ input = t at hpace
  cases hpace with
  | failure hfails' ht => cases hfails.symm.trans hfails'
  | opening hlinks' link => cases hlinks.symm.trans hlinks'
  | other _ _ hproceeds =>
    cases hproceeds with
    | timeless ht => exact ⟨ht.delays, ht.backoff, ht.preferV6⟩
    | dials ht addresses hoffer round hpick =>
      refine ⟨?_, ht.backoff, ht.preferV6⟩
      rw [Turn.delays_ask, ht.delays]
      rfl

/-- An answer that counts leads to an attempt on the addresses that it names. -/
theorem Sound.exists_cleared (h : s.Sound) {link : Link} {known fresh : Addresses}
    {rest : List (Nat × LookupAnswer)}
    (hstale : Turn.Stale s.connection link known fresh rest) :
    ∃ d : Turn, s.turn .takeAnswer = d.attempt ∧
      d.cache.get? d.connection.host = some fresh ∧ .hangUp link.socket ∈ d.actions ∧
      d.connection.host = s.connection.host ∧ d.connection.round = s.connection.round ∧
      d.connection.preferV6 = s.connection.preferV6 ∧
      d.connection.cancelled = s.connection.cancelled := by
  have hstored := DnsCache.get?_set_other (h.inUse hstale.phase hstale.cached) hstale.other
  refine ⟨_, Turn.Stale.step (t := ⟨s.connection, s.cache, []⟩) hstale, ?_, ?_, ?_, ?_, ?_, ?_⟩
  · rw [Turn.connection_cleared, Turn.cleared, Turn.cache_publish]
    exact hstored
  · exact Turn.mem_cleared _ link
  all_goals
    rw [Turn.connection_cleared]
    rfl

theorem Sound.replaced (h : s.Sound) {link : Link} {known fresh : Addresses}
    {rest : List (Nat × LookupAnswer)}
    (hstale : Turn.Stale s.connection link known fresh rest) : s.Replaced link fresh := by
  obtain ⟨d, hturn, hget, hclosed, hhost, hround, hprefer, hcancelled⟩ := h.exists_cleared hstale
  have hbegun := Turn.begun_attempt d
  obtain ⟨hdelays, hcounted⟩ :=
    s.calm_turn (show s.connection.fails .takeAnswer = false from rfl) rfl
  refine ⟨?_, ?_, hdelays, hcounted, fun hopen => ?_, fun hover => ?_, fun _ => ?_⟩
  · rw [hturn, hbegun.cache, ← hhost]
    exact hget
  · rw [hturn]
    exact hbegun.mem_actions hclosed
  · rw [hturn, ← hround, ← hprefer]
    exact hbegun.dials (hcancelled.trans hopen) hget hstale.some
  · rw [hturn, Turn.attempt, if_pos (hcancelled.trans hover)]
    exact Turn.phase_finish d
  · exact (if_pos hstale.isStale).trans hstale.learns

/-! ## One set of addresses -/

/-- What is known of the host, if anything, is one set of addresses. -/
def Settled (s : Solo) (known : Addresses) : Prop := ∀ a, s.entry = some a → known.Same a

/-- What is learned settles it. -/
theorem Settled.take (h : s.Settled known) {step : RelayStep}
    (hlearns : ∀ a, s.learns step = some a → known.Same a) : (s.take step).Settled known := by
  intro a ha
  rcases s.entry_take step with hsame | hnone | ⟨b, hb, hlearned⟩
  · exact h a (hsame ▸ ha)
  · rw [hnone] at ha
    cases ha
  · rw [hlearned] at ha
    cases ha
    exact hlearns _ hb

theorem exists_stale_of_replaced? {step : RelayStep} {fresh : Addresses}
    (h : s.replaced? step = some fresh) : ∃ cache link known rest,
      step = .input cache .takeAnswer ∧ Turn.Stale s.connection link known fresh rest := by
  cases step with
  | input cache input =>
    cases input with
    | takeAnswer =>
      rw [replaced?] at h
      split at h
      · rename_i hstale
        obtain ⟨link, known, fresh', rest, hstale⟩ := Turn.exists_stale hstale
        rw [hstale.learns] at h
        cases h
        exact ⟨cache, link, known, rest, rfl, hstale⟩
      · cases h
    | _ => cases h
  | _ => cases h

/-- What replaces others is learned. -/
theorem learns_of_replaced? {step : RelayStep} {fresh : Addresses}
    (h : s.replaced? step = some fresh) : s.learns step = some fresh := by
  obtain ⟨cache, link, known, rest, rfl, hstale⟩ := exists_stale_of_replaced? h
  exact hstale.learns

/-- Nothing is replaced by what is known. -/
theorem Sound.replaced?_eq_none (h : s.Sound) (hsettled : s.Settled known) {step : RelayStep}
    (hlearns : ∀ a, s.learns step = some a → known.Same a) : s.replaced? step = none := by
  cases hreplaced : s.replaced? step with
  | none => rfl
  | some fresh =>
    obtain ⟨cache, link, known', rest, rfl, hstale⟩ := exists_stale_of_replaced? hreplaced
    have hknown := hsettled known' (h.inUse hstale.phase hstale.cached)
    exact absurd (hknown.symm.trans (hlearns fresh hstale.learns)) hstale.other

/-- What replaces the addresses in use is known afterwards. -/
theorem Sound.settled (h : s.Sound) {step : RelayStep} {fresh : Addresses}
    (hreplaced : s.replaced? step = some fresh) (hsame : known.Same fresh) :
    (s.take step).Settled known := by
  obtain ⟨cache, link, known', rest, rfl, hstale⟩ := exists_stale_of_replaced? hreplaced
  intro a ha
  rw [entry_input, (h.replaced hstale).stored] at ha
  cases ha
  exact hsame

/-- While one set of addresses is learned that is known already, nothing is replaced. -/
theorem Sound.replacing_of_settled (h : s.Sound) (hsettled : s.Settled known)
    (after : List RelayStep) (hsolicited : s.Solicited after)
    (hlearned : ∀ a ∈ s.learned after, known.Same a) : s.replacing after = [] := by
  induction after generalizing s with
  | nil => rfl
  | cons step rest ih =>
    obtain ⟨hfirst, hrest⟩ := List.forall_mem_append.1 hlearned
    have hlearns : ∀ a, s.learns step = some a → known.Same a := fun a ha =>
      hfirst a (Option.mem_toList.2 ha)
    rw [replacing, h.replaced?_eq_none hsettled hlearns]
    exact ih (h.take hsolicited.1) (hsettled.take hlearns) hsolicited.2 hrest

/-- While one set of addresses is learned, it replaces others at most once. -/
theorem Sound.replacing_of_learned (h : s.Sound) (after : List RelayStep)
    (hsolicited : s.Solicited after) (hlearned : ∀ a ∈ s.learned after, known.Same a) :
    (s.replacing after).length ≤ 1 ∧ ∀ a ∈ s.replacing after, known.Same a := by
  induction after generalizing s with
  | nil => exact ⟨Nat.zero_le 1, List.forall_mem_nil _⟩
  | cons step rest ih =>
    obtain ⟨hfirst, hrest⟩ := List.forall_mem_append.1 hlearned
    have hsound := h.take hsolicited.1
    rw [replacing]
    cases hreplaced : s.replaced? step with
    | none => exact ih hsound hsolicited.2 hrest
    | some fresh =>
      have hsame := hfirst fresh (Option.mem_toList.2 (learns_of_replaced? hreplaced))
      have hsettled := h.settled hreplaced hsame
      rw [hsound.replacing_of_settled hsettled rest hsolicited.2 hrest]
      exact ⟨le_refl _, List.forall_mem_singleton.2 hsame⟩

/-! ## Answers that wait -/

/-- The answers to the current attempt that wait name addresses of one kind. -/
def Offers (s : Solo) (p : Addresses → Prop) : Prop := ∀ fresh,
  (s.connection.round, .ok fresh) ∈ s.connection.answers → p fresh

variable {p : Addresses → Prop}

/-- What is learned is what the resolver answers, or what waited. -/
theorem Offers.learns (h : s.Offers p) {step : RelayStep}
    (hnamed : ∀ a, step.named? = some a → p a) : ∀ a, s.learns step = some a → p a := by
  intro a ha
  cases step with
  | input cache input =>
    rw [Solo.learns, Connection.learns.eq_def] at ha
    split at ha
    · split at ha
      · cases ha
        exact hnamed _ rfl
      · cases ha
    · split at ha
      · rename_i round fresh rest _ hanswers
        split at ha
        · rename_i hours
          cases ha
          refine h a ?_
          rw [hanswers, ← hours.1]
          exact List.mem_cons_self
        · cases ha
      · cases ha
    · cases ha
  | _ => cases ha

theorem named?_of_answer? {step : RelayStep} {round : Nat} {fresh : Addresses}
    (h : step.answer? = some (round, .ok fresh)) : step.named? = some fresh := by
  cases step with
  | input cache input =>
    cases input with
    | refreshed round' answer =>
      cases h
      rfl
    | _ => cases h
  | _ => cases h

/-- An answer to an earlier attempt is none to a later one. -/
theorem Offers.take (h : s.Offers p) (htraced : s.Traced) {step : RelayStep}
    (hnamed : ∀ a, step.named? = some a → p a) : (s.take step).Offers p := by
  intro fresh hfresh
  obtain ⟨hround, hanswers⟩ := s.onward_take step
  rcases hanswers _ hfresh with hwaits | harrives
  · have hle := htraced.answered_le _ hwaits
    exact h fresh (Nat.le_antisymm hle hround ▸ hwaits)
  · exact hnamed fresh (named?_of_answer? harrives)

/-- What the resolver answers is learned, and what waited. -/
theorem Sound.learned_of_offers (h : s.Sound) (hoffers : s.Offers p) (after : List RelayStep)
    (hsolicited : s.Solicited after)
    (hnamed : ∀ step ∈ after, ∀ a, step.named? = some a → p a) :
    ∀ a ∈ s.learned after, p a := by
  induction after generalizing s with
  | nil => exact List.forall_mem_nil _
  | cons step rest ih =>
    obtain ⟨hstep, hrest⟩ := List.forall_mem_cons.1 hnamed
    refine List.forall_mem_append.2 ⟨fun a ha => ?_, ?_⟩
    · exact hoffers.learns hstep a (Option.mem_toList.1 ha)
    · exact ih (h.take hsolicited.1) (hoffers.take h.toTraced hstep) hsolicited.2 hrest

theorem replacing_of_finished (h : s.connection.phase = .finished) (after : List RelayStep) :
    s.replacing after = [] := by
  induction after generalizing s with
  | nil => rfl
  | cons step rest ih =>
    have hreplaced : s.replaced? step = none := by
      cases hreplaced : s.replaced? step with
      | none => rfl
      | some fresh =>
        obtain ⟨cache, link, known, rest, rfl, hstale⟩ := exists_stale_of_replaced? hreplaced
        cases h.symm.trans hstale.phase
    have howner : (∀ cache input, step ≠ .input cache input) →
        (s.connection.take step).1.phase = .finished := fun hstep =>
      (take_owner s.connection hstep).1.trans h
    have hfinished : (s.take step).connection.phase = .finished := by
      cases step with
      | input cache input =>
        exact (Turn.step_of_finished (t := ⟨s.connection, s.cache, []⟩) h input).1
      | _ => exact howner nofun
    rw [replacing, hreplaced, ih hfinished]
    rfl

/-- An answer that replaces the addresses in use leaves none to the next attempt. -/
theorem Sound.offers_of_replaced? (h : s.Sound) {step : RelayStep} {fresh : Addresses}
    (hreplaced : s.replaced? step = some fresh) (p : Addresses → Prop) :
    (s.take step).connection.phase = .finished ∨ (s.take step).Offers p := by
  obtain ⟨cache, link, known, rest, rfl, hstale⟩ := exists_stale_of_replaced? hreplaced
  have hreplaced := h.replaced hstale
  cases hcancelled : s.connection.cancelled with
  | true => exact Or.inl (hreplaced.ended hcancelled)
  | false =>
    right
    intro fresh' hfresh
    have hround := (hreplaced.redialed hcancelled).2.1
    obtain ⟨-, hanswers⟩ := s.onward_take (.input cache .takeAnswer)
    rcases hanswers _ hfresh with hwaits | harrives
    · have hle := h.answered_le _ hwaits
      change (s.turn .takeAnswer).connection.round ≤ s.connection.round at hle
      omega
    · cases harrives

/-- While the resolver answers one set of addresses, at most one of its answers replaces others.
An answer that waited may have done so before. -/
theorem Sound.replacing_of_named (h : s.Sound) (hoffers : s.Offers fun a => p a ∨ known.Same a)
    (after : List RelayStep) (hsolicited : s.Solicited after)
    (hnamed : ∀ step ∈ after, ∀ a, step.named? = some a → known.Same a) :
    ∃ waited given, s.replacing after = waited ++ given ∧
      waited.length ≤ 1 ∧ (∀ a ∈ waited, p a) ∧
      given.length ≤ 1 ∧ ∀ a ∈ given, known.Same a := by
  induction after generalizing s with
  | nil => exact ⟨[], [], rfl, by simp⟩
  | cons step rest ih =>
    obtain ⟨hstep, hrest⟩ := List.forall_mem_cons.1 hnamed
    have hnamed' : ∀ a, step.named? = some a → p a ∨ known.Same a := fun a ha =>
      Or.inr (hstep a ha)
    have hsound := h.take hsolicited.1
    rw [replacing]
    cases hreplaced : s.replaced? step with
    | none => exact ih hsound (hoffers.take h.toTraced hnamed') hsolicited.2 hrest
    | some fresh =>
      -- what follows learns only what the resolver answers from here on
      have hlater : ((s.take step).replacing rest).length ≤ 1 ∧
          (∀ a ∈ (s.take step).replacing rest, known.Same a) ∧
          (known.Same fresh → (s.take step).replacing rest = []) := by
        rcases h.offers_of_replaced? hreplaced known.Same with hfinished | hagrees
        · rw [replacing_of_finished hfinished]
          simp
        · have hlearned := hsound.learned_of_offers hagrees rest hsolicited.2 hrest
          obtain ⟨hlength, hall⟩ := hsound.replacing_of_learned rest hsolicited.2 hlearned
          exact ⟨hlength, hall, fun hsame => hsound.replacing_of_settled
            (h.settled hreplaced hsame) rest hsolicited.2 hlearned⟩
      obtain ⟨hlength, hall, hnone⟩ := hlater
      rcases hoffers.learns hnamed' fresh (learns_of_replaced? hreplaced) with hwaited | hsame
      · exact ⟨[fresh], _, rfl, le_refl _, List.forall_mem_singleton.2 hwaited, hlength, hall⟩
      · rw [hnone hsame]
        exact ⟨[], [fresh], rfl, Nat.zero_le 1, List.forall_mem_nil _, le_refl _,
          List.forall_mem_singleton.2 hsame⟩

/-! ## Addresses that are forgotten -/

/-- Where a socket does not open, the attempt fails. -/
theorem turn_of_dialing {cached : Option Addresses} {input : RelayInput}
    (hphase : s.connection.phase = .dialing cached) (hfails : s.connection.fails input = true) :
    s.turn input = Turn.failDial ⟨s.connection, s.cache, []⟩ cached := by
  have hdialing : s.connection.isDialing = true := Connection.isDialing_of_phase hphase
  have hlink : s.connection.link? = none := by rw [Connection.link?, hphase]
  have hresolving : s.connection.phase ≠ .resolving := by simp [hphase]
  rw [turn]
  unfold Turn.step
  dsimp only
  rw [hphase]
  cases input with
  | dialed round result =>
    cases result with
    | ok socket => cases hfails
    | error reason =>
      have hround : round = s.connection.round := by simpa [Connection.fails, hdialing] using hfails
      exact if_pos hround
  | dialTimeout round =>
    have hround : round = s.connection.round := by simpa [Connection.fails, hdialing] using hfails
    exact if_pos hround
  | sent socket result => cases result <;> simp [Connection.fails, hlink] at hfails
  | _ => simp [Connection.fails, hlink, hresolving] at hfails

/-- Whether another attempt begins in a run. -/
def begins (s : Solo) : List RelayStep → Bool
  | [] => false
  | step :: rest => s.connection.defies step || (s.take step).begins rest

/-- Nothing is known of the host, and no attempt is in progress. -/
structure Blank (s : Solo) : Prop where
  /-- No attempt is in progress. -/
  rests : s.connection.Rests
  /-- Nothing is known. -/
  entry : s.entry = none

theorem Blank.take (h : s.Blank) {step : RelayStep} (hdefies : s.connection.defies step = false) :
    (s.take step).Blank := by
  constructor
  · cases step with
    | input cache input =>
      have howned : s.connection.defies (.input s.cache input) = false := hdefies
      exact (Connection.rests_take h.rests howned).1
    | _ => exact (Connection.rests_take h.rests hdefies).1
  · have hlearns : s.learns step = none := by
      have hlink : s.connection.link? = none := by
        rcases h.rests with hphase | hphase <;> simp [Connection.link?, hphase]
      have hresolving : s.connection.phase ≠ .resolving := by
        rcases h.rests with hphase | hphase <;> simp [hphase]
      cases step with
      | input cache input =>
        rw [learns, Connection.learns.eq_def]
        split <;> simp [hlink, hresolving]
      | _ => rfl
    rcases s.entry_take step with hsame | hnone | ⟨a, ha, -⟩
    · exact hsame.trans h.entry
    · exact hnone
    · rw [hlearns] at ha
      cases ha

theorem Blank.run (h : s.Blank) (after : List RelayStep) (hbegins : s.begins after = false) :
    (s.run after).Blank := by
  induction after generalizing s with
  | nil => exact h
  | cons step rest ih =>
    rw [begins, Bool.or_eq_false_iff] at hbegins
    exact ih (h.take hbegins.1) hbegins.2

/-- The host is looked up for the attempt that begins, and nothing is dialed. -/
structure Resolves (s : Solo) (input : RelayInput) : Prop where
  /-- The attempt waits. -/
  phase : (s.turn input).connection.phase = .resolving
  /-- The host is looked up. -/
  lookup : .lookup (s.connection.round + 1) ∈ (s.turn input).actions
  /-- Nothing is dialed. -/
  not_dial : ∀ round address, .dial round address ∉ (s.turn input).actions

/-- The next attempt resolves. -/
theorem Blank.resolves (h : s.Blank) {input : RelayInput}
    (hbegins : s.connection.begins input = true) : s.Resolves input := by
  have hlink : s.connection.link? = none := by
    rcases h.rests with hphase | hphase <;> simp [Connection.link?, hphase]
  have hidle : s.connection.phase ≠ .idle := by
    rcases h.rests with hphase | hphase <;> simp [hphase]
  cases input with
  | retryDue =>
    simp only [Connection.begins, Bool.and_eq_true, Bool.not_eq_true', decide_eq_true_eq] at hbegins
    have hturn : s.turn .retryDue = Turn.attempt ⟨s.connection, s.cache, []⟩ := by
      rw [turn]
      unfold Turn.step
      dsimp only
      rw [hbegins.2]
      rfl
    have hbegun := Turn.begun_attempt ⟨s.connection, s.cache, []⟩
    obtain ⟨hphase, hlookup, hdial⟩ := hbegun.resolves hbegins.1 h.entry
    refine ⟨by rw [hturn]; exact hphase, by rw [hturn]; exact hlookup, fun round address => ?_⟩
    rw [hturn]
    exact fun hmem => absurd (hdial round address hmem) List.not_mem_nil
  | start => simp [Connection.begins, hidle] at hbegins
  | takeAnswer => simp [Connection.begins, Connection.isStale, hlink] at hbegins
  | _ => cases hbegins

/-- A socket that does not open on known addresses leaves nothing known. -/
theorem blank_of_fails {input : RelayInput} (hphase : s.connection.phase = .dialing (some known))
    (hfails : s.connection.fails input = true) (cache : DnsCache) :
    (s.take (.input cache input)).Blank := by
  have hturn := turn_of_dialing hphase hfails
  have hfailed := (Turn.Untouched.refl
    ⟨s.connection, s.cache.remove s.connection.host, []⟩).fail
  constructor
  · change (s.turn input).connection.Rests
    rw [hturn]
    exact Turn.rests_fail _
  · rw [entry_input, hturn, Turn.failDial, hfailed.cache, DnsCache.get?_remove, if_pos rfl]

/-! ## Every step -/

/-- One of some addresses is dialed, of the version that is preferred if there is one. -/
def Dials (s : Solo) (input : RelayInput) (addresses : Addresses) : Prop :=
  ∃ address, addresses.pick s.connection.preferV6 = some address ∧
    .dial (s.turn input).connection.round address ∈ (s.turn input).actions

/-- The next step handles stale addresses. -/
structure Fresh (s : Solo) : Prop where
  /-- The addresses from the cache that an attempt uses are still known, and there are any. -/
  known : ∀ a, s.connection.phase.source? = some (some a) → s.entry = some a ∧ a.isEmpty = false
  /-- An answer behind an attempt's back waits until it is taken. -/
  arrives : ∀ round answer, s.turn (.refreshed round answer) =
    ⟨{ s.connection with answers := s.connection.answers ++ [(round, answer)] }, s.cache, []⟩
  /-- None is taken unless a socket is served. -/
  waits : s.connection.link? = none → s.turn .takeAnswer = ⟨s.connection, s.cache, []⟩
  /-- An answer to another attempt, a failed or empty one, and one with the addresses that are
  known do nothing. -/
  disregards : ∀ link round answer rest, s.connection.phase = .serving link →
    s.connection.answers = (round, answer) :: rest → s.Disregards round answer →
      s.turn .takeAnswer = ⟨{ s.connection with answers := rest }, s.cache, []⟩
  /-- So does the answer to an earlier attempt that waited for it. -/
  superseded : ∀ round answer, round ≠ s.connection.round →
    s.turn (.resolved round answer) = ⟨s.connection, s.cache, []⟩
  /-- Any other answer replaces the addresses in use. -/
  replaces : ∀ link round fresh rest, s.connection.phase = .serving link →
    s.connection.answers = (round, .ok fresh) :: rest → ¬ s.Disregards round (.ok fresh) →
      s.Replaced link fresh
  /-- Once the resolver answers one set of addresses, at most one of its answers replaces others.
  An answer from before may still have waited for the current attempt. -/
  settles : ∀ (known : Addresses) after, s.Solicited after →
    (∀ step ∈ after, ∀ a, step.named? = some a → known.Same a) →
      ∃ waited given, s.replacing after = waited ++ given ∧ waited.length ≤ 1 ∧
        (∀ a ∈ waited, (s.connection.round, .ok a) ∈ s.connection.answers) ∧
        given.length ≤ 1 ∧ ∀ a ∈ given, known.Same a
  /-- If no socket opens on addresses from the cache, they are forgotten, and the next attempt
  resolves. -/
  forgets : ∀ known cache input, s.connection.phase = .dialing (some known) →
    s.connection.fails input = true → (s.take (.input cache input)).entry = none ∧
      ∀ after, (s.take (.input cache input)).begins after = false →
        ∀ next, ((s.take (.input cache input)).run after).connection.begins next = true →
          ((s.take (.input cache input)).run after).Resolves next
  /-- An attempt that resolves dials nothing but the addresses that it gets. -/
  awaits : s.connection.phase = .resolving → ∀ input round address,
    .dial round address ∈ (s.turn input).actions → ∃ addresses,
      input = .resolved s.connection.round (.ok addresses) ∧
        addresses.pick s.connection.preferV6 = some address
  /-- Nothing is stored but addresses of the host, and there are any. -/
  stores : ∀ step host a, (s.take step).cache.get? host = some a →
    s.cache.get? host = some a ∨ host = s.connection.host ∧ a.isEmpty = false
  /-- When an attempt gets addresses, one of them is dialed. -/
  picks : ∀ addresses, addresses.isEmpty = false →
    (s.connection.phase = .resolving →
      s.Dials (.resolved s.connection.round (.ok addresses)) addresses) ∧
    ∀ input, s.connection.begins input = true →
      (s.turn input).cache.get? s.connection.host = some addresses → s.Dials input addresses

theorem turn_takeAnswer_of_unlinked (h : s.connection.link? = none) :
    s.turn .takeAnswer = ⟨s.connection, s.cache, []⟩ := by
  rw [turn]
  unfold Turn.step
  cases hphase : s.connection.phase with
  | serving link => simp [Connection.link?, hphase] at h
  | _ => rfl

theorem turn_resolved_of_ne {round : Nat} (answer : LookupAnswer)
    (hround : round ≠ s.connection.round) :
    s.turn (.resolved round answer) = ⟨s.connection, s.cache, []⟩ := by
  rw [turn]
  unfold Turn.step
  cases hphase : s.connection.phase with
  | resolving => exact if_neg hround
  | _ => rfl

theorem turn_resolved {addresses : Addresses} (hphase : s.connection.phase = .resolving)
    (hsome : addresses.isEmpty = false) :
    s.turn (.resolved s.connection.round (.ok addresses)) =
      (Turn.store ⟨s.connection, s.cache, []⟩ addresses).dial addresses none := by
  rw [turn]
  unfold Turn.step
  dsimp only
  rw [hphase]
  simp [Turn.advance, Turn.resolve, hsome]

theorem awaits_turn (hphase : s.connection.phase = .resolving) {input : RelayInput} {round : Nat}
    {address : IpAddress} (hdial : .dial round address ∈ (s.turn input).actions) :
    ∃ addresses, input = .resolved s.connection.round (.ok addresses) ∧
      addresses.pick s.connection.preferV6 = some address := by
  have hcourse := s.course input
  generalize s.turn input = t at hcourse hdial
  have hnone : .dial round address ∉ (⟨s.connection, s.cache, []⟩ : Turn).actions :=
    List.not_mem_nil
  cases hcourse with
  | arrives number answer => exact absurd hdial hnone
  | keeps h hsource => exact absurd hdial (h.not_dial hnone)
  | @resolves addresses _ hsome =>
    obtain ⟨d, address', hd, -, hpick, heq⟩ :=
      Turn.untouched_dial (Turn.store ⟨s.connection, s.cache, []⟩ addresses) hsome none
    rw [heq] at hdial
    rcases List.mem_append.1 hdial with hdial | hdial
    · exact absurd hdial (hd.not_dial hnone)
    · cases List.mem_singleton.1 hdial
      exact ⟨addresses, rfl, hpick⟩
  | learns hserving => cases hphase.symm.trans hserving
  | forgets hdialing => cases hphase.symm.trans hdialing
  | begins hbegins =>
    rcases hbegins with ⟨hidle, -⟩ | ⟨hwaiting, -⟩
    · cases hphase.symm.trans hidle
    · cases hphase.symm.trans hwaiting
  | replaces hstale => cases hphase.symm.trans hstale.phase

theorem stores_take {step : RelayStep} {host : String} {a : Addresses}
    (h : (s.take step).cache.get? host = some a) :
    s.cache.get? host = some a ∨ host = s.connection.host ∧ a.isEmpty = false := by
  cases step with
  | input cache input =>
    obtain ⟨hother, hhost⟩ := (s.course input).cache
    change (s.turn input).cache.get? host = some a at h
    by_cases hours : host = s.connection.host
    · subst hours
      rcases hhost with hsame | hnone | ⟨b, -, hsome, hlearned⟩
      · exact Or.inl (hsame ▸ h)
      · rw [hnone] at h
        cases h
      · rw [hlearned] at h
        cases h
        exact Or.inr ⟨rfl, hsome⟩
    · exact Or.inl (hother host hours ▸ h)
  | _ => exact Or.inl h

/-- An attempt that begins uses what is known then. -/
theorem Sound.exists_attempt (h : s.Sound) {input : RelayInput}
    (hbegins : s.connection.begins input = true) : ∃ d : Turn, s.turn input = d.attempt ∧
      d.connection.cancelled = false ∧ d.connection.host = s.connection.host ∧
      d.connection.preferV6 = s.connection.preferV6 := by
  cases input with
  | start =>
    simp only [Connection.begins, Bool.and_eq_true, Bool.not_eq_true', decide_eq_true_eq] at hbegins
    refine ⟨⟨s.connection, s.cache, []⟩, ?_, hbegins.1, rfl, rfl⟩
    rw [turn]
    unfold Turn.step
    dsimp only
    rw [hbegins.2]
    rfl
  | retryDue =>
    simp only [Connection.begins, Bool.and_eq_true, Bool.not_eq_true', decide_eq_true_eq] at hbegins
    refine ⟨⟨s.connection, s.cache, []⟩, ?_, hbegins.1, rfl, rfl⟩
    rw [turn]
    unfold Turn.step
    dsimp only
    rw [hbegins.2]
    rfl
  | takeAnswer =>
    simp only [Connection.begins, Bool.and_eq_true, Bool.not_eq_true'] at hbegins
    obtain ⟨link, known, fresh, rest, hstale⟩ := Turn.exists_stale hbegins.2
    obtain ⟨d, hturn, -, -, hhost, -, hprefer, hcancelled⟩ := h.exists_cleared hstale
    exact ⟨d, hturn, hcancelled.trans hbegins.1, hhost, hprefer⟩
  | _ => cases hbegins

theorem Sound.dials (h : s.Sound) {input : RelayInput}
    (hbegins : s.connection.begins input = true) {addresses : Addresses}
    (hget : (s.turn input).cache.get? s.connection.host = some addresses)
    (hsome : addresses.isEmpty = false) : s.Dials input addresses := by
  obtain ⟨d, hturn, hopen, hhost, hprefer⟩ := h.exists_attempt hbegins
  have hbegun := Turn.begun_attempt d
  rw [hturn, hbegun.cache, ← hhost] at hget
  obtain ⟨-, hround, hdials⟩ := hbegun.dials hopen hget hsome
  rw [Dials, hturn, hround, ← hprefer]
  exact hdials

theorem Sound.fresh (h : s.Sound) : s.Fresh where
  known := h.known
  arrives _ _ := rfl
  waits := turn_takeAnswer_of_unlinked
  disregards _ _ _ _ hphase hanswers := h.disregards hphase hanswers
  superseded _ answer := turn_resolved_of_ne answer
  replaces _ _ _ _ hphase hanswers hcounts := by
    obtain ⟨known, hstale⟩ := h.stale hphase hanswers hcounts
    exact h.replaced hstale
  settles _ after := h.replacing_of_named (fun _ hwaits => Or.inl hwaits) after
  forgets _ cache _ hphase hfails := by
    have hblank := blank_of_fails hphase hfails cache
    exact ⟨hblank.entry, fun after hquiet _ hbegins => (hblank.run after hquiet).resolves hbegins⟩
  awaits hphase _ _ _ := awaits_turn hphase
  stores _ _ _ := stores_take
  picks addresses hsome := by
    refine ⟨fun hphase => ?_, fun _ hbegins hget => h.dials hbegins hget hsome⟩
    obtain ⟨d, address, hd, -, hpick, hdial⟩ :=
      Turn.untouched_dial (Turn.store ⟨s.connection, s.cache, []⟩ addresses) hsome none
    refine ⟨address, hpick, ?_⟩
    rw [turn_resolved hphase hsome, hdial]
    exact hd.round ▸ List.mem_append_right _ (List.mem_singleton_self _)

/-- A socket is served whose address came from the cache, the host has another one since, and that
is dialed in turn. -/
def renewed : List RelayStep :=
  [.input .empty .start, .input .empty (.dialed 1 (.ok 0)),
    .input .empty (.refreshed 1 (.ok ⟨[⟨0x0A000002⟩], []⟩)), .input .empty .takeAnswer,
    .input .empty (.dialed 2 (.ok 1)),
    .input .empty (.refreshed 2 (.ok ⟨[⟨0x0A000002⟩], []⟩)), .input .empty .takeAnswer]

end Solo
end GroupCall
