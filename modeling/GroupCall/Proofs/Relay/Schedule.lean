/-
# When the next attempt is made

Failures in a row are counted from the last socket that opened, and each is followed by the delay
that a fresh backoff gives out for it, and by no other attempt before it is over.  When the
backoff is exhausted, the failure is followed by the end.  An answer that replaces the socket is
no failure, so it waits for nothing.  The version of the addresses that an attempt prefers turns
with every failure.
-/
import GroupCall.Proofs.Relay.Pace
import GroupCall.Proofs.Relay.Stopping

namespace GroupCall

open RelayNews (farewell)

/-! ## Along a run -/

/-- Whether the owner stops further attempts. -/
def RelayStep.stops : RelayStep → Bool
  | .abortRetries => true
  | .disconnect => true
  | _ => false

/-- The failures of a run. -/
structure Tally where
  /-- All of them. -/
  failures : Nat
  /-- Those since a socket opened last. -/
  row : Nat
deriving DecidableEq, Repr

/-- The failures after a step. -/
def Tally.after (tally : Tally) (c : Connection) : RelayStep → Tally
  | .input _ input =>
    if c.fails input then ⟨tally.failures + 1, tally.row + 1⟩
    else if c.links input then { tally with row := 0 } else tally
  | _ => tally

namespace Connection

variable {c : Connection} {policy : RetryPolicy} {n : Tally}

/-- The failures of a run that follows others. -/
def tallyFrom (c : Connection) (tally : Tally) : List RelayStep → Tally
  | [] => tally
  | step :: rest => (c.take step).1.tallyFrom (tally.after c step) rest

/-- The failures of a run. -/
def tally (c : Connection) (steps : List RelayStep) : Tally := c.tallyFrom ⟨0, 0⟩ steps

/-- The delays that are asked for in a step. -/
def sleeps (c : Connection) : RelayStep → List Duration
  | .input cache input => (Turn.step ⟨c, cache, []⟩ input).delays
  | _ => []

/-- The delays that are asked for in a run. -/
def slept (c : Connection) : List RelayStep → List Duration
  | [] => []
  | step :: rest => c.sleeps step ++ slept (c.take step).1 rest

/-- The connection keeps count of the failures. -/
structure Paced (policy : RetryPolicy) (tally : Tally) (c : Connection) : Prop where
  /-- Nobody stopped further attempts. -/
  going : c.aborted = false
  /-- The failures in a row, until it is over. -/
  backoff : c.phase ≠ .finished → c.backoff = ⟨policy, tally.row⟩
  /-- They are not beyond the limit. -/
  bounded : c.phase ≠ .finished → ∀ limit, policy.maxAttempts = some limit → tally.row ≤ limit
  /-- With every failure the preference turns. -/
  preferV6 : c.preferV6 = decide (tally.failures % 2 = 1)

theorem paced_ofUrl {id : Nat} {url : String} {config : RelayConfig}
    (h : ofUrl id url config = .ok c) : c.Paced config.retry ⟨0, 0⟩ := by
  obtain ⟨host, rfl⟩ := eq_of_ofUrl h
  exact ⟨rfl, fun _ => rfl, fun _ limit _ => Nat.zero_le limit, rfl⟩

/-- Only an attempt in progress fails. -/
theorem isActive_of_fails {input : RelayInput} (h : c.fails input = true) :
    c.phase.isActive = true := by
  cases hactive : c.phase.isActive with
  | true => rfl
  | false =>
    have hrests : c.isDialing = false ∧ c.link? = none ∧ c.phase ≠ .resolving := by
      cases hphase : c.phase <;> simp_all [Phase.isActive, isDialing, link?]
    obtain ⟨hdialing, hlink, hresolving⟩ := hrests
    cases input with
    | dialed round result => cases result <;> simp [fails, hdialing] at h
    | sent socket result => cases result <;> simp [fails, hlink] at h
    | _ => simp [fails, hdialing, hlink, hresolving] at h

theorem unfinished_of_fails {input : RelayInput} (h : c.fails input = true) :
    c.phase ≠ .finished := by
  intro hphase
  have hactive := isActive_of_fails h
  rw [hphase] at hactive
  cases hactive

theorem unfinished_of_links {input : RelayInput} (h : c.links input = true) :
    c.phase ≠ .finished := by
  intro hphase
  cases input with
  | dialed round result => cases result <;> simp [links, isDialing, hphase] at h
  | _ => cases h

namespace Paced

/-- The failures in a row of a connection that fails. -/
theorem fails (h : c.Paced policy n) {input : RelayInput} (hfails : c.fails input = true) :
    c.backoff = ⟨policy, n.row⟩ ∧ ∀ limit, policy.maxAttempts = some limit → n.row ≤ limit :=
  ⟨h.backoff (unfinished_of_fails hfails), h.bounded (unfinished_of_fails hfails)⟩

/-- A failure is one more, and the next delay or the end follows. -/
theorem fail (h : c.Paced policy n) {input : RelayInput} (hfails : c.fails input = true)
    {t : Turn} (ht : t.connection = { c with queue := t.connection.queue }) :
    t.fail.connection.Paced policy ⟨n.failures + 1, n.row + 1⟩ := by
  obtain ⟨hbackoff, hbounded⟩ := h.fails hfails
  have haborted : t.connection.aborted = false := by rw [ht]; exact h.going
  have hsame : t.connection.backoff = ⟨policy, n.row⟩ := by rw [ht]; exact hbackoff
  have hprefer : t.connection.preferV6 = decide (n.failures % 2 = 1) := by
    rw [ht]
    exact h.preferV6
  have hturned : (!decide (n.failures % 2 = 1)) = decide ((n.failures + 1) % 2 = 1) := by
    rcases Nat.mod_two_eq_zero_or_one n.failures with hm | hm <;> simp [hm, Nat.add_mod]
  cases hnext : t.connection.backoff.next.1 with
  | some delay =>
    obtain ⟨hconnection, -⟩ := Turn.fail_of_some haborted hnext
    obtain ⟨-, hlimit⟩ := Backoff.next_of_some hnext
    rw [hsame] at hlimit
    refine ⟨?_, fun _ => ?_, fun _ => hlimit, ?_⟩
    · rw [hconnection]
      exact haborted
    · rw [hconnection, hsame]
    · rw [hconnection, hprefer, hturned]
  | none =>
    obtain ⟨hconnection, -⟩ := Turn.fail_of_none haborted hnext
    have hphase : t.fail.connection.phase = .finished := by rw [hconnection]
    refine ⟨?_, fun hne => absurd hphase hne, fun hne => absurd hphase hne, ?_⟩
    · rw [hconnection]
      exact haborted
    · rw [hconnection, hprefer, hturned]

/-- Where a socket opens, the row begins anew. -/
theorem establish (h : c.Paced policy n) {input : RelayInput} (hlinks : c.links input = true)
    (cache : DnsCache) (link : Link) :
    (Turn.establish ⟨c, cache, []⟩ link).connection.Paced policy { n with row := 0 } := by
  have hopened : (Turn.establish ⟨c, cache, []⟩ link).connection =
      { c with inbox := [], queue := c.queue.clear, state := .connected,
               backoff := c.backoff.reset, phase := .serving link } := by
    rw [Turn.establish, Turn.connection_update, Turn.connection_publish]
    rfl
  refine ⟨?_, fun _ => ?_, fun _ limit _ => Nat.zero_le limit, ?_⟩
  · rw [hopened]
    exact h.going
  · rw [hopened, h.backoff (unfinished_of_links hlinks)]
    rfl
  · rw [hopened]
    exact h.preferV6

theorem input (h : c.Paced policy n) (cache : DnsCache) (input : RelayInput) :
    (c.take (.input cache input)).1.Paced policy (n.after c (.input cache input)) := by
  have hpace := Turn.pace_step ⟨c, cache, []⟩ input
  have hover := fun hphase => (Turn.step_of_finished (t := ⟨c, cache, []⟩) hphase input).1
  rw [Connection.take]
  dsimp only
  generalize Turn.step ⟨c, cache, []⟩ input = t at hpace hover
  cases hpace with
  | failure hfails ht =>
    rw [Tally.after, if_pos hfails]
    exact h.fail hfails ht.connection
  | opening hlinks link =>
    rw [Tally.after, fails_eq_false_of_links hlinks, if_neg (by simp), if_pos hlinks]
    exact h.establish hlinks cache link
  | other hfails hlinks hproceeds =>
    have hkept : t.connection.backoff = c.backoff ∧ t.connection.preferV6 = c.preferV6 ∧
        t.connection.aborted = c.aborted := by
      cases hproceeds with
      | timeless ht => exact ⟨ht.backoff, ht.preferV6, ht.aborted⟩
      | dials ht => exact ⟨ht.backoff, ht.preferV6, ht.aborted⟩
    obtain ⟨hbackoff, hprefer, haborted⟩ := hkept
    have hgoing : t.connection.phase ≠ .finished → c.phase ≠ .finished :=
      fun hne hphase => hne (hover hphase)
    rw [Tally.after, hfails, hlinks, if_neg (by simp), if_neg (by simp)]
    exact ⟨haborted.trans h.going, fun hne => hbackoff.trans (h.backoff (hgoing hne)),
      fun hne => h.bounded (hgoing hne), hprefer.trans h.preferV6⟩

theorem take (h : c.Paced policy n) {step : RelayStep} (hstops : step.stops = false) :
    (c.take step).1.Paced policy (n.after c step) := by
  cases step with
  | input cache input => exact h.input cache input
  | post request =>
    rw [Connection.take, post]
    cases request.check c.state <;> exact ⟨h.going, h.backoff, h.bounded, h.preferV6⟩
  | drop => exact ⟨h.going, h.backoff, h.bounded, h.preferV6⟩
  | dropListener => exact ⟨h.going, h.backoff, h.bounded, h.preferV6⟩
  | setNewsRoom room => exact ⟨h.going, h.backoff, h.bounded, h.preferV6⟩
  | _ => cases hstops

theorem run (h : c.Paced policy n) (steps : List RelayStep)
    (hstops : ∀ step ∈ steps, step.stops = false) :
    (c.run steps).Paced policy (c.tallyFrom n steps) := by
  induction steps generalizing c n with
  | nil => exact h
  | cons step rest ih =>
    obtain ⟨hstep, hrest⟩ := List.forall_mem_cons.1 hstops
    exact ih (h.take hstep) hrest

end Paced

/-! ## Between attempts -/

/-- The connection waits for the next attempt, or is over. -/
def Rests (c : Connection) : Prop := c.phase = .waiting ∨ c.phase = .finished

theorem rests_finish (t : Turn) : t.finish.connection.Rests ∧ t.finish.delays = t.delays ∧
    t.finish.sought = t.sought :=
  ⟨Or.inr (by rw [Turn.connection_finish]), by simp [Turn.finish, Turn.enter],
    by simp [Turn.finish, Turn.enter]⟩

theorem rests_input (h : c.Rests) (cache : DnsCache) {input : RelayInput}
    (hbegins : c.begins input = false) :
    (c.take (.input cache input)).1.Rests ∧ c.sleeps (.input cache input) = [] ∧
      c.seeks (.input cache input) = [] := by
  have hnothing : c.link? = none ∧ c.isDialing = false ∧ c.phase ≠ .resolving ∧
      c.phase ≠ .idle := by
    rcases h with hphase | hphase <;> simp [link?, isDialing, hphase]
  obtain ⟨hlink, hdialing, hresolving, hidle⟩ := hnothing
  rw [Connection.take, sleeps, seeks]
  dsimp only
  have hmove := Turn.move_step ⟨c, cache, []⟩ input
  generalize Turn.step ⟨c, cache, []⟩ input = t at hmove
  cases hmove with
  | stays => exact ⟨h, rfl, rfl⟩
  | arrives => exact ⟨h, rfl, rfl⟩
  | discards => exact ⟨h, rfl, rfl⟩
  | begins hinput =>
    -- the delay is over, and the owner has closed the connection
    rcases hinput with ⟨hphase, -⟩ | ⟨hphase, rfl⟩
    · exact absurd hphase hidle
    · have hphase : c.phase = .waiting := hphase
      have hcancelled : c.cancelled = true := by simpa [begins, hphase] using hbegins
      rw [Turn.attempt, if_pos hcancelled]
      exact rests_finish _
  | closes => exact rests_finish _
  | surrenders =>
    obtain ⟨hrests, hdelays, hsought⟩ := rests_finish (Turn.tell ⟨c, cache, []⟩ (.failed .aborted))
    exact ⟨hrests, by rw [Turn.giveUp, hdelays, Turn.delays_tell]; rfl,
      by rw [Turn.giveUp, hsought, Turn.sought_tell]; rfl⟩
  | serves hphase _ => cases (link?_of_phase hphase).symm.trans hlink
  | resolves hphase _ => exact absurd hphase hresolving
  | opens hphase _ => cases (isDialing_of_phase hphase).symm.trans hdialing
  | forgets hphase _ => cases (isDialing_of_phase hphase).symm.trans hdialing
  | fails hphase _ =>
    rcases hphase with hphase | hphase
    · exact absurd hphase hresolving
    · cases (isDialing_of_phase hphase).symm.trans hdialing

theorem rests_take (h : c.Rests) {step : RelayStep} (hdefies : c.defies step = false) :
    (c.take step).1.Rests ∧ c.sleeps step = [] ∧ c.seeks step = [] := by
  cases step with
  | input cache input =>
    have hstarted : c.phase ≠ .idle := by rcases h with hphase | hphase <;> simp [hphase]
    exact rests_input h cache (by simpa [defies, hstarted] using hdefies)
  | post request =>
    refine ⟨?_, rfl, rfl⟩
    rw [Connection.take, post]
    cases request.check c.state <;> exact h
  | _ => exact ⟨h, rfl, rfl⟩

/-- Until another attempt begins, nothing is looked up, dialed or waited for. -/
theorem rests_run (h : c.Rests) (after : List RelayStep) (hdefied : c.defied after = false) :
    (c.run after).Rests ∧ c.slept after = [] ∧ c.sought after = [] := by
  induction after generalizing c with
  | nil => exact ⟨h, rfl, rfl⟩
  | cons step rest ih =>
    rw [defied, Bool.or_eq_false_iff] at hdefied
    obtain ⟨hrests, hsleeps, hseeks⟩ := rests_take h hdefied.1
    rw [slept, sought, hsleeps, hseeks]
    exact ih hrests hdefied.2

/-- Only the end of the delay begins another attempt. -/
theorem eq_retryDue_of_defies (h : c.Rests) {step : RelayStep} (hdefies : c.defies step = true) :
    ∃ cache, step = .input cache .retryDue := by
  have hlink : c.link? = none := by rcases h with hphase | hphase <;> simp [link?, hphase]
  cases step with
  | input cache input =>
    rw [defies, Bool.and_eq_true, decide_eq_true_eq] at hdefies
    obtain ⟨hbegins, hstarted⟩ := hdefies
    cases input with
    | start => simp [begins, hstarted] at hbegins
    | takeAnswer => simp [begins, isStale, hlink] at hbegins
    | retryDue => exact ⟨cache, rfl⟩
    | _ => cases hbegins
  | _ => cases hdefies

theorem defied_of_finished (h : c.phase = .finished) (after : List RelayStep) :
    c.defied after = false := by
  induction after generalizing c with
  | nil => rfl
  | cons step rest ih =>
    have hdefies : c.defies step = false := by
      cases hdefies : c.defies step with
      | false => rfl
      | true =>
        obtain ⟨cache, rfl⟩ := eq_retryDue_of_defies (Or.inr h) hdefies
        simp [defies, begins, h] at hdefies
    rw [defied, hdefies, Bool.false_or]
    exact ih (told_of_finished h [step]).1

/-! ## The schedule -/

/-- The connection lets time pass: nothing is looked up, dialed or waited for until another
attempt begins, and it begins when the delay is over. -/
structure Pauses (c : Connection) : Prop where
  /-- Nothing happens before. -/
  quiet : ∀ after, c.defied after = false → c.slept after = [] ∧ c.sought after = []
  /-- Then the delay is over. -/
  resumes : ∀ after step, c.defied after = false → (c.run after).defies step = true →
    ∃ cache, step = .input cache .retryDue

/-- Nothing is told, looked up, dialed or waited for any more. -/
def Silent (c : Connection) : Prop :=
  ∀ after, c.told after = [] ∧ c.slept after = [] ∧ c.sought after = []

/-- The next step of a connection keeps to the schedule, after some failures. -/
structure Scheduled (policy : RetryPolicy) (n : Tally) (c : Connection) : Prop where
  /-- A failure is followed by the delay that a fresh backoff gives out for it, and by another
  attempt no sooner. -/
  delayed : ∀ cache input delay, c.fails input = true →
    (Backoff.new policy).nth n.row = some delay →
      c.sleeps (.input cache input) = [delay] ∧ c.seeks (.input cache input) = [] ∧
        (c.take (.input cache input)).1.Pauses
  /-- When the backoff is exhausted, it is followed by the end, which is told to an owner that
  listens; the last news is told if there is room for it. -/
  exhausted : ∀ cache input, c.fails input = true → (Backoff.new policy).nth n.row = none →
    ∃ limit, policy.maxAttempts = some limit ∧
      (c.take (.input cache input)).2 = (if c.listening then
        .stateChanged .disconnected :: .failed (.retriesExhausted limit) :: farewell c.newsRoom
        else []) ∧
      c.sleeps (.input cache input) = [] ∧ c.seeks (.input cache input) = [] ∧
        (c.take (.input cache input)).1.Silent
  /-- Nothing else is followed by a delay, or by the news that the backoff is exhausted. -/
  otherwise : ∀ cache input, c.fails input = false → c.sleeps (.input cache input) = [] ∧
    ∀ limit, .failed (.retriesExhausted limit) ∉ (c.take (.input cache input)).2
  /-- An answer that replaces the socket is no failure, and the next attempt begins at once. -/
  stale : c.isStale = true → c.fails .takeAnswer = false ∧
    (c.cancelled = false → c.begins .takeAnswer = true ∧
      ∀ cache, c.round + 1 ∈ c.seeks (.input cache .takeAnswer))
  /-- What is dialed has the version that is preferred, if there is one: version 6 exactly if
  the number of failures is odd. -/
  prefers : ∀ cache input round address,
    .dial round address ∈ (Turn.step ⟨c, cache, []⟩ input).actions →
      ∃ addresses, addresses.pick (decide (n.failures % 2 = 1)) = some address ∧
        ((∃ round, input = .resolved round (.ok addresses)) ∨
          (Turn.step ⟨c, cache, []⟩ input).cache.get? c.host = some addresses)

namespace Paced

variable {news : List RelayNews}

theorem delayed (h : c.Paced policy n) (cache : DnsCache) {input : RelayInput} {delay : Duration}
    (hfails : c.fails input = true) (hdelay : (Backoff.new policy).nth n.row = some delay) :
    c.sleeps (.input cache input) = [delay] ∧ c.seeks (.input cache input) = [] ∧
      (c.take (.input cache input)).1.Pauses := by
  obtain ⟨t', ht, hstep⟩ := Turn.step_of_fails (t := ⟨c, cache, []⟩) hfails
  have haborted : t'.connection.aborted = false := by rw [ht.connection]; exact h.going
  have hnext : t'.connection.backoff.next.1 = some delay := by
    rw [ht.connection, ← hdelay, Backoff.nth_new]
    exact congrArg (fun b => b.next.1) (h.fails hfails).1
  obtain ⟨hconnection, hdelays, hsought⟩ := Turn.fail_of_some haborted hnext
  rw [sleeps, seeks, Connection.take, hstep, hdelays, hsought, ht.delays, ht.sought]
  have hrests : t'.fail.connection.Rests := Or.inl (by rw [hconnection])
  exact ⟨rfl, rfl, fun after hdefied => (rests_run hrests after hdefied).2,
    fun after step hdefied => eq_retryDue_of_defies (rests_run hrests after hdefied).1⟩

theorem exhausted (h : c.Paced policy n) (hfollows : c.Follows news) (cache : DnsCache)
    {input : RelayInput} (hfails : c.fails input = true)
    (hnone : (Backoff.new policy).nth n.row = none) :
    ∃ limit, policy.maxAttempts = some limit ∧
      (c.take (.input cache input)).2 = (if c.listening then
        .stateChanged .disconnected :: .failed (.retriesExhausted limit) :: farewell c.newsRoom
        else []) ∧
      c.sleeps (.input cache input) = [] ∧ c.seeks (.input cache input) = [] ∧
        (c.take (.input cache input)).1.Silent := by
  obtain ⟨hbackoff, hbounded⟩ := h.fails hfails
  obtain ⟨t', ht, hstep⟩ := Turn.step_of_fails (t := ⟨c, cache, []⟩) hfails
  have haborted : t'.connection.aborted = false := by rw [ht.connection]; exact h.going
  have hsame : t'.connection.backoff = ⟨policy, n.row⟩ := by rw [ht.connection]; exact hbackoff
  have hnext : t'.connection.backoff.next.1 = none := by rw [hsame, ← Backoff.nth_new, hnone]
  obtain ⟨hconnection, hdelays, hsought, hnews⟩ := Turn.fail_of_none haborted hnext
  obtain ⟨limit, hlimit, hle, -⟩ := Backoff.limit_of_next hnext
  rw [hsame] at hlimit hle
  -- the limit is reached and not passed
  have hreached : n.row = limit := Nat.le_antisymm (hbounded limit hlimit) hle
  have hover : t'.fail.connection.phase = .finished := by rw [hconnection]
  refine ⟨limit, hlimit, ?_, ?_, ?_, fun after => ?_⟩
  · split
    · rename_i hlistening
      have hstate : c.state ≠ .disconnected :=
        (hfollows.bound hlistening (isActive_of_fails hfails)).state
      have hroom : t'.connection.newsRoom = c.newsRoom := by rw [ht.connection]
      rw [Connection.take, hstep, hnews (by rw [ht.connection]; exact hlistening)
        (by rw [ht.connection]; exact hstate), ht.news, hsame, hreached, hroom]
      rfl
    · rename_i hdeaf
      exact (steady_input c cache input).news (by simpa using hdeaf)
  · rw [sleeps, hstep, hdelays, ht.delays]
    rfl
  · rw [seeks, hstep, hsought, ht.sought]
    rfl
  · rw [Connection.take, hstep]
    obtain ⟨-, hslept, hsought⟩ := rests_run (Or.inr hover) after (defied_of_finished hover after)
    exact ⟨(told_of_finished hover after).2, hslept, hsought⟩

theorem otherwise (cache : DnsCache) {input : RelayInput} (hfails : c.fails input = false) :
    c.sleeps (.input cache input) = [] ∧
      ∀ limit, .failed (.retriesExhausted limit) ∉ (c.take (.input cache input)).2 := by
  have hpace := Turn.pace_step ⟨c, cache, []⟩ input
  rw [sleeps, Connection.take]
  dsimp only
  generalize Turn.step ⟨c, cache, []⟩ input = t at hpace
  have hkept : ∀ {t' : Turn}, Turn.Timeless ⟨c, cache, []⟩ t' → t'.delays = [] ∧
      ∀ limit, RelayNews.failed (.retriesExhausted limit) ∉ t'.news :=
    fun ht => ⟨ht.delays, fun limit => ht.not_exhausted (by simp [Turn.news])⟩
  cases hpace with
  | failure hfails' _ =>
    rw [hfails] at hfails'
    cases hfails'
  | opening _ link =>
    have hcleared := (Turn.Timeless.refl ⟨c, cache, []⟩).update
      (f := fun c => { c with inbox := [], queue := c.queue.clear }) rfl rfl rfl rfl
    have hopened := hkept (hcleared.publish .connected)
    exact hopened
  | other _ _ hproceeds =>
    cases hproceeds with
    | timeless ht => exact hkept ht
    | dials ht addresses hoffer round hpick =>
      obtain ⟨hdelays, hnews⟩ := hkept ht
      rw [Turn.delays_ask, hdelays, Turn.news_ask]
      exact ⟨rfl, fun limit => by simpa [RelayAction.news?] using hnews limit⟩

theorem prefers (h : c.Paced policy n) (cache : DnsCache) {input : RelayInput} {round : Nat}
    {address : IpAddress}
    (hdial : .dial round address ∈ (Turn.step ⟨c, cache, []⟩ input).actions) :
    ∃ addresses, addresses.pick (decide (n.failures % 2 = 1)) = some address ∧
      ((∃ round, input = .resolved round (.ok addresses)) ∨
        (Turn.step ⟨c, cache, []⟩ input).cache.get? c.host = some addresses) := by
  have hpace := Turn.pace_step ⟨c, cache, []⟩ input
  generalize Turn.step ⟨c, cache, []⟩ input = t at hpace hdial
  have hnone : .dial round address ∉ (⟨c, cache, []⟩ : Turn).actions := List.not_mem_nil
  cases hpace with
  | @failure hfails t' ht =>
    have haborted : t'.connection.aborted = false := by rw [ht.connection]; exact h.going
    have hsought : t'.fail.sought = [] := by
      cases hnext : t'.connection.backoff.next.1 with
      | some delay => exact (Turn.fail_of_some haborted hnext).2.2.trans ht.sought
      | none => exact (Turn.fail_of_none haborted hnext).2.2.1.trans ht.sought
    have hmem : round ∈ t'.fail.sought := List.mem_filterMap.2 ⟨_, hdial, rfl⟩
    rw [hsought] at hmem
    cases hmem
  | opening _ link =>
    have hcleared := (Turn.Timeless.refl ⟨c, cache, []⟩).update
      (f := fun c => { c with inbox := [], queue := c.queue.clear }) rfl rfl rfl rfl
    exact absurd hdial ((hcleared.publish .connected).not_dial hnone)
  | other _ _ hproceeds =>
    cases hproceeds with
    | timeless ht => exact absurd hdial (ht.not_dial hnone)
    | dials ht addresses hoffer number hpick =>
      rcases List.mem_append.1 hdial with hdial | hdial
      · exact absurd hdial (ht.not_dial hnone)
      · cases List.mem_singleton.1 hdial
        refine ⟨addresses, ?_, hoffer⟩
        rw [← h.preferV6]
        exact hpick

theorem scheduled (h : c.Paced policy n) (hfollows : c.Follows news) :
    c.Scheduled policy n where
  delayed cache _ _ hfails hdelay := h.delayed cache hfails hdelay
  exhausted cache _ hfails hnone := h.exhausted hfollows cache hfails hnone
  otherwise cache _ hfails := otherwise cache hfails
  stale hstale := by
    refine ⟨rfl, fun hopen => ?_⟩
    have hbegins : c.begins .takeAnswer = true := by simp [begins, hopen, hstale]
    refine ⟨hbegins, fun cache => ?_⟩
    obtain ⟨more, hmore, -⟩ := (Turn.begins_step (t := ⟨c, cache, []⟩) rfl hbegins).sought
    rw [seeks, hmore]
    simp
  prefers cache _ _ _ hdial := h.prefers cache hdial

end Paced

/-- Every run keeps to the schedule, unless the owner stops further attempts. -/
theorem schedule_along_runs {id : Nat} {url : String} {config : RelayConfig}
    (h : ofUrl id url config = .ok c) (steps : List RelayStep)
    (hstops : ∀ step ∈ steps, step.stops = false) :
    (c.run steps).Scheduled config.retry (c.tally steps) :=
  ((paced_ofUrl h).run steps hstops).scheduled ((follows_ofUrl h).1.run steps)

/-- The host is looked up twice, and there is one retry. -/
def unresolved : List RelayStep :=
  [.input .empty .start, .input .empty (.resolved 1 (.error "no such host")),
    .input .empty .retryDue, .input .empty (.resolved 2 (.error "no such host"))]

/-- The first failure is followed by the first delay, and the second one by the end. -/
theorem schedule_unresolved : ∃ c,
    ofUrl 1 "ws://10.0.0.1" ⟨⟨.ofMillis 1000, .ofMillis 30000, some 1⟩, .ofMillis 10000, 256⟩ =
      .ok c ∧
    (c.tally unresolved, c.slept unresolved, c.told unresolved) =
      (⟨2, 2⟩, [.ofMillis 1000], [.stateChanged .resolving, .stateChanged .disconnected,
        .stateChanged .resolving, .stateChanged .disconnected, .failed (.retriesExhausted 1),
        .closed]) ∧
    (c.run unresolved).Scheduled ⟨.ofMillis 1000, .ofMillis 30000, some 1⟩
      (c.tally unresolved) := by
  obtain ⟨c, h, hafter⟩ : ∃ c,
      ofUrl 1 "ws://10.0.0.1" ⟨⟨.ofMillis 1000, .ofMillis 30000, some 1⟩, .ofMillis 10000, 256⟩ =
        .ok c ∧
      (c.tally unresolved, c.slept unresolved, c.told unresolved) =
        (⟨2, 2⟩, [.ofMillis 1000], [.stateChanged .resolving, .stateChanged .disconnected,
          .stateChanged .resolving, .stateChanged .disconnected, .failed (.retriesExhausted 1),
          .closed]) :=
    exists_of_map_ofUrl (by decide +kernel)
  exact ⟨c, h, hafter, schedule_along_runs h unresolved (by simp [unresolved, RelayStep.stops])⟩

/-- The host is not found while the channel of the news is full, and the owner takes news later. -/
def crowded : List RelayStep :=
  [.input .empty .start, .setNewsRoom false, .input .empty (.resolved 1 (.error "no such host")),
    .setNewsRoom true]

/-- The host is not found after the owner has ceased to listen. -/
def unheard : List RelayStep :=
  [.input .empty .start, .dropListener, .input .empty (.resolved 1 (.error "no such host"))]

/-- A connection that may not try again is over after its first failure, but its owner is not told
so, now or later, if there was no room for that; and an owner that does not listen is not even told
that the connection gave up. -/
theorem told_crowded : ∃ c,
    ofUrl 1 "ws://10.0.0.1" ⟨⟨.ofMillis 1000, .ofMillis 30000, some 0⟩, .ofMillis 10000, 256⟩ =
      .ok c ∧
    (∀ step ∈ crowded ++ unheard, step.stops = false) ∧
    ((c.run crowded).phase = .finished ∧ ∀ after, c.told (crowded ++ after) =
      [.stateChanged .resolving, .stateChanged .disconnected, .failed (.retriesExhausted 0)]) ∧
    (c.run unheard).phase = .finished ∧
      ∀ after, c.told (unheard ++ after) = [.stateChanged .resolving] := by
  obtain ⟨c, h, hafter⟩ : ∃ c,
      ofUrl 1 "ws://10.0.0.1" ⟨⟨.ofMillis 1000, .ofMillis 30000, some 0⟩, .ofMillis 10000, 256⟩ =
        .ok c ∧
      ((c.run crowded).phase, c.told crowded, (c.run unheard).phase, c.told unheard) =
        (.finished, [.stateChanged .resolving, .stateChanged .disconnected,
          .failed (.retriesExhausted 0)], .finished, [.stateChanged .resolving]) :=
    exists_of_map_ofUrl (by decide +kernel)
  simp only [Prod.mk.injEq] at hafter
  obtain ⟨hcrowded, htold, hunheard, htold'⟩ := hafter
  refine ⟨c, h, by simp [crowded, unheard, RelayStep.stops], ⟨hcrowded, fun after => ?_⟩, hunheard,
    fun after => ?_⟩
  · rw [told_append, htold, (told_of_finished hcrowded after).2]
    rfl
  · rw [told_append, htold', (told_of_finished hunheard after).2]
    rfl

end Connection
end GroupCall
