/-
# A connection with a cache of its own

A connection that is the only user of its cache finds what it left there.  What the cache holds
is what an attempt on known addresses uses, and a look-up behind an attempt's back is made for
such an attempt only, never for one that is still to come; every step keeps that.
-/
import GroupCall.Proofs.Relay.Sources

namespace GroupCall

/-- The answer behind an attempt's back that a step brings. -/
def RelayStep.answer? : RelayStep → Option (Nat × LookupAnswer)
  | .input _ (.refreshed round answer) => some (round, answer)
  | _ => none

/-- The addresses that the resolver answers in a step. -/
def RelayStep.named? : RelayStep → Option Addresses
  | .input _ (.resolved _ (.ok addresses)) => some addresses
  | .input _ (.refreshed _ (.ok addresses)) => some addresses
  | _ => none

/-- A connection that is the only user of its cache. -/
structure Solo where
  /-- The connection. -/
  connection : Connection
  /-- Its cache. -/
  cache : DnsCache
  /-- The attempts for which the host was looked up behind their backs so far. -/
  asked : List Nat

namespace Solo

variable {s : Solo} {asked : List Nat} {t t' : Turn}

/-- What is known of the host. -/
def entry (s : Solo) : Option Addresses := s.cache.get? s.connection.host

/-- What an input does. -/
def turn (s : Solo) (input : RelayInput) : Turn := Turn.step ⟨s.connection, s.cache, []⟩ input

/-- What a turn leaves behind. -/
def ofTurn (asked : List Nat) (t : Turn) : Solo := ⟨t.connection, t.cache, asked ++ t.refreshes⟩

/-- What is left after a step.  Whatever cache a step finds elsewhere, the connection has its
own. -/
def take (s : Solo) : RelayStep → Solo
  | .input _ input => ofTurn s.asked (s.turn input)
  | step => { s with connection := (s.connection.take step).1 }

/-- What is left after a run. -/
def run (s : Solo) (steps : List RelayStep) : Solo := steps.foldl take s

/-- Nothing is answered behind an attempt's back that was not asked. -/
def Solicited (s : Solo) : List RelayStep → Prop
  | [] => True
  | step :: rest =>
    (∀ a ∈ step.answer?, a.1 ∈ s.asked) ∧ (s.take step).Solicited rest

instance decidableSolicited : (s : Solo) → (steps : List RelayStep) →
    Decidable (s.Solicited steps)
  | _, [] => inferInstanceAs (Decidable True)
  | s, step :: rest =>
    have := decidableSolicited (s.take step) rest
    inferInstanceAs (Decidable ((∀ a ∈ step.answer?, a.1 ∈ s.asked) ∧ _))

/-- The addresses that are learned in a step. -/
def learns (s : Solo) : RelayStep → Option Addresses
  | .input _ input => s.connection.learns input
  | _ => none

/-- The addresses that are learned in a run. -/
def learned (s : Solo) : List RelayStep → List Addresses
  | [] => []
  | step :: rest => (s.learns step).toList ++ (s.take step).learned rest

/-- The addresses that replace others in a step because of an answer. -/
def replaced? (s : Solo) : RelayStep → Option Addresses
  | .input _ .takeAnswer =>
    if s.connection.isStale then s.connection.learns .takeAnswer else none
  | _ => none

/-- The addresses that replace others in a run because of answers. -/
def replacing (s : Solo) : List RelayStep → List Addresses
  | [] => []
  | step :: rest => (s.replaced? step).toList ++ (s.take step).replacing rest

/-! ## What is known, and what was asked -/

/-- Answers were asked for, and nothing was asked for a later attempt. -/
structure Traced (s : Solo) : Prop where
  /-- What was asked. -/
  asked : ∀ round ∈ s.asked, round ≤ s.connection.round
  /-- What was answered. -/
  answers : ∀ a ∈ s.connection.answers, a.1 ∈ s.asked

/-- The cache holds the known addresses that an attempt uses, and an attempt that uses others was
not looked up behind its back. -/
structure Sound (s : Solo) : Prop extends Traced s where
  /-- Known addresses. -/
  known : ∀ a, s.connection.phase.source? = some (some a) →
    s.entry = some a ∧ a.isEmpty = false
  /-- Others. -/
  others : s.connection.phase.source? = some none → s.connection.round ∉ s.asked

theorem Traced.untouched (h : (ofTurn asked t).Traced) (ht : t.Untouched t') :
    (ofTurn asked t').Traced := by
  constructor
  · intro round hround
    rw [ofTurn, ht.refreshes] at hround
    exact le_of_le_of_eq (h.asked round hround) ht.round.symm
  · intro a ha
    rw [ofTurn, ht.refreshes]
    exact h.answers a (ht.answers a ha)

theorem Sound.untouched (h : (ofTurn asked t).Sound) (ht : t.Untouched t')
    (hsource : t'.connection.phase.source? = none ∨
      t'.connection.phase.source? = t.connection.phase.source?) : (ofTurn asked t').Sound := by
  refine ⟨h.toTraced.untouched ht, fun a ha => ?_, fun hnone => ?_⟩
  · rcases hsource with hsource | hsource
    · rw [ofTurn, hsource] at ha
      cases ha
    · rw [entry, ofTurn, ht.cache, ht.host]
      exact h.known a (hsource ▸ ha)
  · rcases hsource with hsource | hsource
    · rw [ofTurn, hsource] at hnone
      cases hnone
    · rw [ofTurn, ht.refreshes, ht.round]
      exact h.others (hsource ▸ hnone)

/-- Where no addresses are in use nothing has to be known. -/
theorem Traced.sound (h : s.Traced) (hsource : s.connection.phase.source? = none) : s.Sound where
  toTraced := h
  known a ha := by
    rw [hsource] at ha
    cases ha
  others hnone := by
    rw [hsource] at hnone
    cases hnone

/-- Only the question behind an attempt's back is remembered. -/
theorem ofTurn_ask (asked : List Nat) (t : Turn) {action : RelayAction}
    (haction : action.refresh? = none) : ofTurn asked (t.ask action) = ofTurn asked t := by
  rw [ofTurn, Turn.refreshes_ask, haction, Option.toList_none, List.append_nil]
  rfl

/-- For an attempt that begins nothing was asked yet. -/
theorem Traced.counted (h : (ofTurn asked t).Traced) {d : Turn}
    (hd : (t.update fun c => { c with round := c.round + 1 }).Untouched d) :
    (ofTurn asked d).Traced ∧ d.connection.round ∉ asked ++ d.refreshes := by
  have hcounted : (ofTurn asked (t.update fun c => { c with round := c.round + 1 })).Traced :=
    ⟨fun round hround => Nat.le_succ_of_le (h.asked round hround), h.answers⟩
  refine ⟨hcounted.untouched hd, fun hmem => ?_⟩
  rw [hd.refreshes, hd.round] at hmem
  exact absurd (h.asked _ hmem) (Nat.not_succ_le_self _)

theorem Traced.refresh (h : (ofTurn asked t).Traced) :
    (ofTurn asked (t.ask (.refresh t.connection.round))).Traced := by
  have hasked : asked ++ (t.ask (.refresh t.connection.round)).refreshes =
      (asked ++ t.refreshes) ++ [t.connection.round] := by
    rw [Turn.refreshes_ask, List.append_assoc]
    rfl
  constructor
  · intro round hround
    rw [ofTurn, hasked] at hround
    rcases List.mem_append.1 hround with hround | hround
    · exact h.asked round hround
    · exact le_of_eq (List.mem_singleton.1 hround)
  · intro a ha
    rw [ofTurn, hasked]
    exact List.mem_append_left _ (h.answers a ha)

/-- An attempt that begins uses what the cache holds, or nothing was asked for it. -/
theorem Traced.begun (h : (ofTurn asked t).Traced) (ht : t.Begun t') : (ofTurn asked t').Sound := by
  cases ht with
  | closed hcancelled ht hphase =>
    exact (h.untouched ht).sound (by rw [ofTurn, hphase]; rfl)
  | @known d d' hopen addresses hget hsome hd hd' hphase address hpick =>
    rw [ofTurn_ask asked d' rfl]
    refine ⟨(h.counted hd).1.refresh.untouched hd', fun a ha => ?_, fun hnone => ?_⟩
    · rw [ofTurn, hphase] at ha
      cases ha
      refine ⟨?_, hsome⟩
      rw [entry, ofTurn, hd'.cache, hd'.host]
      change d.cache.get? d.connection.host = some addresses
      rw [hd.cache, hd.host]
      exact hget
    · rw [ofTurn, hphase] at hnone
      cases hnone
  | @unknown d hopen hnone hd hphase =>
    rw [ofTurn_ask asked d rfl]
    obtain ⟨htraced, hround⟩ := h.counted hd
    refine ⟨htraced, fun a ha => ?_, fun _ => hround⟩
    rw [ofTurn, hphase] at ha
    cases ha

/-- What an input leaves behind. -/
theorem Sound.input (h : s.Sound) {input : RelayInput} (hsolicited : ∀ round answer,
    input = .refreshed round answer → round ∈ s.asked) : (ofTurn s.asked (s.turn input)).Sound := by
  have hstart : ofTurn s.asked ⟨s.connection, s.cache, []⟩ = s := by
    simp [ofTurn, Turn.refreshes]
  have hsound : (ofTurn s.asked ⟨s.connection, s.cache, []⟩).Sound := hstart.symm ▸ h
  have hcourse := Turn.course_step ⟨s.connection, s.cache, []⟩ input
  rw [turn]
  generalize Turn.step ⟨s.connection, s.cache, []⟩ input = t at hcourse
  -- the cache is of no concern for what was asked
  have htraced : ∀ cache, (ofTurn s.asked ⟨s.connection, cache, []⟩).Traced :=
    fun _ => ⟨hsound.asked, hsound.answers⟩
  cases hcourse with
  | arrives round answer =>
    refine ⟨⟨hsound.asked, ?_⟩, hsound.known, hsound.others⟩
    refine List.forall_mem_append.2 ⟨hsound.answers, List.forall_mem_singleton.2 ?_⟩
    exact List.mem_append_left _ (hsolicited round answer rfl)
  | keeps ht hsource => exact hsound.untouched ht hsource
  | @resolves addresses hphase hsome =>
    obtain ⟨d, address, hd, hdialing, -, hdial⟩ :=
      Turn.untouched_dial (Turn.store ⟨s.connection, s.cache, []⟩ addresses) hsome none
    rw [hdial, ofTurn_ask s.asked d rfl]
    refine ⟨(htraced _).untouched hd, fun a ha => ?_, fun _ => ?_⟩
    · rw [ofTurn, hdialing] at ha
      cases ha
    · have hothers := hsound.others (by rw [ofTurn, hphase]; rfl)
      rw [ofTurn, hd.refreshes, hd.round]
      exact hothers
  | @learns link rest fresh hphase hcached hanswers hsome =>
    refine ⟨⟨hsound.asked, fun a ha => hsound.answers a ?_⟩, fun a ha => ?_, hsound.others⟩
    · exact hanswers ▸ List.mem_cons_of_mem _ ha
    · change s.connection.phase.source? = some (some a) at ha
      rw [hphase] at ha
      cases hcached.symm.trans (Option.some.inj ha)
  | forgets hphase hfails =>
    have hfailed := (Turn.Untouched.refl
      ⟨s.connection, s.cache.remove s.connection.host, []⟩).fail
    exact ((htraced _).untouched hfailed).sound (Turn.source?_fail _)
  | begins hbegins => exact (htraced s.cache).begun (Turn.begun_attempt _)
  | @replaces link rest known fresh hstale =>
    have hstored : Turn.Untouched
        ⟨s.connection, (s.cache.set s.connection.host fresh).1, []⟩
        (Turn.store (Turn.answered ⟨s.connection, s.cache, []⟩ rest) fresh) := by
      refine ⟨rfl, rfl, rfl, fun a ha => ?_, [], rfl, List.forall_mem_nil _⟩
      exact hstale.answers ▸ List.mem_cons_of_mem _ ha
    exact ((htraced _).untouched (Turn.untouched_cleared hstored link)).begun (Turn.begun_attempt _)

/-- What a step of the owner leaves as it is. -/
theorem take_owner (c : Connection) {step : RelayStep}
    (h : ∀ cache input, step ≠ .input cache input) :
    (c.take step).1.phase = c.phase ∧ (c.take step).1.host = c.host ∧
      (c.take step).1.round = c.round ∧ (c.take step).1.answers = c.answers := by
  cases step with
  | input cache input => exact absurd rfl (h cache input)
  | post request =>
    rw [Connection.take, Connection.post]
    cases request.check c.state <;> exact ⟨rfl, rfl, rfl, rfl⟩
  | _ => exact ⟨rfl, rfl, rfl, rfl⟩

theorem Sound.owner (h : s.Sound) {step : RelayStep}
    (hstep : ∀ cache input, step ≠ .input cache input) :
    Sound { s with connection := (s.connection.take step).1 } := by
  obtain ⟨hphase, hhost, hround, hanswers⟩ := take_owner s.connection hstep
  constructor
  · exact ⟨by simpa only [hround] using h.asked, by simpa only [hanswers] using h.answers⟩
  · simpa only [entry, hphase, hhost] using h.known
  · simpa only [hphase, hround] using h.others

theorem Sound.take (h : s.Sound) {step : RelayStep}
    (hsolicited : ∀ a ∈ step.answer?, a.1 ∈ s.asked) : (s.take step).Sound := by
  cases step with
  | input cache input =>
    exact h.input fun round answer hinput => hsolicited (round, answer) (by rw [hinput]; rfl)
  | _ => exact h.owner nofun

theorem Sound.run (h : s.Sound) (steps : List RelayStep) (hsolicited : s.Solicited steps) :
    (s.run steps).Sound := by
  induction steps generalizing s with
  | nil => exact h
  | cons step rest ih => exact ih (h.take hsolicited.1) hsolicited.2

theorem course (s : Solo) (input : RelayInput) :
    Turn.Course ⟨s.connection, s.cache, []⟩ input (s.turn input) :=
  Turn.course_step _ input

theorem host_turn (s : Solo) (input : RelayInput) :
    (s.turn input).connection.host = s.connection.host := by
  rcases (s.course input).onward with h | ⟨round, answer, -, h⟩
  · exact h.host
  · rw [h]
    rfl

theorem entry_input (s : Solo) (cache : DnsCache) (input : RelayInput) :
    (s.take (.input cache input)).entry = (s.turn input).cache.get? s.connection.host := by
  rw [← host_turn s input]
  rfl

/-- What is known of the host is as before, forgotten or learned. -/
theorem entry_take (s : Solo) (step : RelayStep) :
    (s.take step).entry = s.entry ∨ (s.take step).entry = none ∨
      ∃ a, s.learns step = some a ∧ (s.take step).entry = some a := by
  have howner : (∀ cache input, step ≠ .input cache input) →
      entry { s with connection := (s.connection.take step).1 } = s.entry := fun hstep => by
    rw [entry, (take_owner s.connection hstep).2.1, entry]
  cases step with
  | input cache input =>
    rw [entry_input]
    rcases (s.course input).cache.2 with h | h | ⟨a, hlearns, -, h⟩
    · exact Or.inl h
    · exact Or.inr (Or.inl h)
    · exact Or.inr (Or.inr ⟨a, hlearns, h⟩)
  | _ => exact Or.inl (howner nofun)

theorem onward_take (s : Solo) (step : RelayStep) :
    s.connection.round ≤ (s.take step).connection.round ∧
      ∀ a ∈ (s.take step).connection.answers,
        a ∈ s.connection.answers ∨ step.answer? = some a := by
  have howner : (∀ cache input, step ≠ .input cache input) →
      s.connection.round ≤ (s.connection.take step).1.round ∧
        ∀ a ∈ (s.connection.take step).1.answers,
          a ∈ s.connection.answers ∨ step.answer? = some a := fun hstep => by
    obtain ⟨-, -, hround, hanswers⟩ := take_owner s.connection hstep
    exact ⟨le_of_eq hround.symm, fun a ha => Or.inl (hanswers ▸ ha)⟩
  cases step with
  | input cache input =>
    rcases (s.course input).onward with h | ⟨round, answer, rfl, h⟩
    · exact ⟨h.round, fun a ha => Or.inl (h.answers a ha)⟩
    · rw [take, ofTurn, h]
      refine ⟨le_refl _, List.forall_mem_append.2 ⟨fun a ha => Or.inl ha, ?_⟩⟩
      exact List.forall_mem_singleton.2 (Or.inr rfl)
  | _ => exact howner nofun

/-- No answer to a later attempt waits. -/
theorem Traced.answered_le (h : s.Traced) : ∀ a ∈ s.connection.answers, a.1 ≤ s.connection.round :=
  fun a ha => h.asked a.1 (h.answers a ha)

/-- The addresses in use are those that the cache holds. -/
theorem Sound.inUse (h : s.Sound) {link : Link} {known : Addresses}
    (hlink : s.connection.phase = .serving link) (hcached : link.cached = some known) :
    s.entry = some known := by
  refine (h.known known ?_).1
  rw [hlink]
  exact congrArg some hcached

end Solo
end GroupCall
