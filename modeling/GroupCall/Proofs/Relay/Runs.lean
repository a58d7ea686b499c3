/-
# Runs of a relay connection

A connection is taken through inputs from its surroundings, in any order and with any
content, and through what its owner does with it.  The cache of addresses is shared with
other connections, so it may be different at every input.  The news of every run are in
order: the phase of the connection says where in an attempt they stand, and every step keeps
that.  Nothing is told any more once nobody listens.
-/
import GroupCall.Proofs.Relay.Moves
import GroupCall.Proofs.Relay.News

namespace GroupCall

open RelayNews

/-- Something that happens to a connection. -/
inductive RelayStep where
  /-- It takes an input, with the addresses that are cached at the moment. -/
  | input (cache : DnsCache) (input : RelayInput)
  /-- The owner hands it a request. -/
  | post (request : RelayRequest)
  /-- The owner stops further attempts. -/
  | abortRetries
  /-- The owner closes it. -/
  | disconnect
  /-- The owner lets go of it. -/
  | drop
  /-- Nobody listens any more. -/
  | dropListener
  /-- The channel of the news fills up, or the owner takes news from it. -/
  | setNewsRoom (room : Bool)

/-- Whether the owner closes the connection, or lets go of it. -/
def RelayStep.closes : RelayStep → Bool
  | .disconnect => true
  | .drop => true
  | _ => false

/-- The news in an action. -/
def RelayAction.news? : RelayAction → Option RelayNews
  | .tell event => some event.news
  | _ => none

/-- What is told in a turn. -/
def Turn.news (t : Turn) : List RelayNews := t.actions.filterMap RelayAction.news?

namespace Connection

/-- The connection after a step, and what it tells. -/
def take (c : Connection) : RelayStep → Connection × List RelayNews
  | .input cache input =>
    ((Turn.step ⟨c, cache, []⟩ input).connection, (Turn.step ⟨c, cache, []⟩ input).news)
  | .post request => ((c.post request).toOption.getD c, [])
  | .abortRetries => (c.abortRetries, [])
  | .disconnect => (c.disconnect, [])
  | .drop => (c.drop, [])
  | .dropListener => (c.dropListener, [])
  | .setNewsRoom room => (c.setNewsRoom room, [])

/-- The connection after a run. -/
def run (c : Connection) (steps : List RelayStep) : Connection :=
  steps.foldl (fun c step => (c.take step).1) c

/-- What is told in a run. -/
def told (c : Connection) : List RelayStep → List RelayNews
  | [] => []
  | step :: rest => (c.take step).2 ++ told (c.take step).1 rest

theorem told_append (c : Connection) (first second : List RelayStep) :
    c.told (first ++ second) = c.told first ++ (c.run first).told second := by
  induction first generalizing c with
  | nil => rfl
  | cons step rest ih =>
    rw [List.cons_append, told, ih, told, List.append_assoc]
    rfl

/-- A run on a fixed connection can be computed, if its URL is one. -/
theorem exists_of_map_ofUrl {α : Type} {id : Nat} {url : String} {config : RelayConfig}
    {f : Connection → α} {value : α} (h : (ofUrl id url config).toOption.map f = some value) :
    ∃ c, ofUrl id url config = .ok c ∧ f c = value := by
  cases hc : ofUrl id url config with
  | error e =>
    rw [hc] at h
    cases h
  | ok c =>
    rw [hc] at h
    exact ⟨c, rfl, Option.some.inj h⟩

/-- A connection that was not started has done nothing. -/
theorem eq_of_ofUrl {c : Connection} {id : Nat} {url : String} {config : RelayConfig}
    (h : ofUrl id url config = .ok c) : ∃ host, c =
      { id, url, host, config
        state := .new, phase := .idle, inbox := [], answers := []
        queue := .new config.queueCapacity, backoff := .new config.retry
        preferV6 := false, round := 0, cancelled := false, aborted := false
        listening := true, newsRoom := true } := by
  rw [ofUrl] at h
  split at h
  · cases h
  · split at h
    · split at h
      · cases h
      · cases h
        exact ⟨_, rfl⟩
    · cases h

end Connection

namespace Turn

variable {t : Turn} {c : Connection}

/-! ## Telling -/

theorem news_ask (t : Turn) (action : RelayAction) :
    (t.ask action).news = t.news ++ action.news?.toList := by
  cases h : action.news? <;> simp [news, ask, h]

theorem tell_of_listening (h : t.connection.listening = true) (n : RelayNews) :
    t.tell n = t.ask (.tell ⟨t.connection.id, n⟩) := if_pos h

theorem news_tell (h : t.connection.listening = true) (n : RelayNews) :
    (t.tell n).news = t.news ++ [n] := by
  rw [tell_of_listening h, news_ask]
  rfl

theorem news_publish {state : RelayState} (h : t.connection.listening = true)
    (hne : t.connection.state ≠ state) :
    (t.publish state).news = t.news ++ [.stateChanged state] := by
  rw [publish, if_neg hne]
  exact news_tell (t := t.update fun c => { c with state := state }) h _

theorem news_tryTell (h : t.connection.listening = true) (n : RelayNews) :
    (t.tryTell n).news = t.news ++ if t.connection.newsRoom then [n] else [] := by
  rw [tryTell]
  split
  · exact news_tell h n
  · exact (List.append_nil _).symm

/-- The last news is told if there is room for it. -/
theorem news_finish (h : t.connection.listening = true) :
    t.finish.news = t.news ++ farewell t.connection.newsRoom :=
  news_tryTell (t := (t.update fun c => { c with state := .disconnected }).enter .finished) h _

theorem news_giveUp (h : t.connection.listening = true) (error : RelayError) :
    (t.giveUp error).news = t.news ++ .failed error :: farewell t.connection.newsRoom := by
  have hl : (t.tell (.failed error)).connection.listening = true := by
    rw [connection_tell]
    exact h
  rw [giveUp, news_finish hl, news_tell h, connection_tell, List.append_assoc]
  rfl

/-! ## What is up to the owner -/

/-- Some things are up to the owner alone, and nobody is told anything who does not listen. -/
structure Steady (c : Connection) (t : Turn) : Prop where
  /-- Whether anybody listens. -/
  listening : t.connection.listening = c.listening
  /-- Whether there is room for news. -/
  newsRoom : t.connection.newsRoom = c.newsRoom
  /-- Whether the connection is closed. -/
  cancelled : t.connection.cancelled = c.cancelled
  /-- Whether further attempts are stopped. -/
  aborted : t.connection.aborted = c.aborted
  /-- If nobody listens, nothing was told. -/
  news : c.listening = false → t.news = []

namespace Steady

theorem update (h : t.Steady c) {f : Connection → Connection}
    (hlistening : (f t.connection).listening = t.connection.listening)
    (hroom : (f t.connection).newsRoom = t.connection.newsRoom)
    (hcancelled : (f t.connection).cancelled = t.connection.cancelled)
    (haborted : (f t.connection).aborted = t.connection.aborted) : (t.update f).Steady c :=
  ⟨hlistening.trans h.listening, hroom.trans h.newsRoom, hcancelled.trans h.cancelled,
    haborted.trans h.aborted, h.news⟩

theorem ask (h : t.Steady c) {action : RelayAction} (ha : action.news? = none) :
    (t.ask action).Steady c :=
  { h with news := fun hdeaf => by rw [news_ask, h.news hdeaf, ha]; rfl }

/-- The cache is of no concern. -/
theorem cached (h : t.Steady c) (cache : DnsCache) : { t with cache := cache }.Steady c :=
  ⟨h.listening, h.newsRoom, h.cancelled, h.aborted, h.news⟩

theorem tell (h : t.Steady c) (n : RelayNews) : (t.tell n).Steady c := by
  rw [Turn.tell]
  split
  · rename_i hlistening
    refine { h with news := fun hdeaf => ?_ }
    rw [h.listening, hdeaf] at hlistening
    cases hlistening
  · exact h

theorem enter (h : t.Steady c) (phase : Phase) : (t.enter phase).Steady c :=
  h.update rfl rfl rfl rfl

theorem publish (h : t.Steady c) (state : RelayState) : (t.publish state).Steady c := by
  rw [Turn.publish]
  split
  · exact h
  · exact tell (h.update rfl rfl rfl rfl) _

theorem tryTell (h : t.Steady c) (n : RelayNews) : (t.tryTell n).Steady c := by
  rw [Turn.tryTell]
  split
  · exact h.tell n
  · exact h

theorem finish (h : t.Steady c) : t.finish.Steady c :=
  tryTell (enter (h.update rfl rfl rfl rfl) .finished) .closed

theorem giveUp (h : t.Steady c) (error : RelayError) : (t.giveUp error).Steady c :=
  (h.tell _).finish

theorem fail (h : t.Steady c) : t.fail.Steady c := by
  have hpublished : ((t.update fun c => { c with preferV6 := !c.preferV6 }).publish
      .disconnected).Steady c := publish (h.update rfl rfl rfl rfl) _
  rw [Turn.fail]
  split
  · exact hpublished.giveUp _
  · split
    · exact hpublished.giveUp _
    · exact ask (enter (update hpublished rfl rfl rfl rfl) _) rfl

theorem dial (h : t.Steady c) (addresses : Addresses) (cached : Option Addresses) :
    (t.dial addresses cached).Steady c := by
  rw [Turn.dial]
  split
  · exact h.fail
  · exact ask ((h.publish _).enter _) rfl

theorem attempt (h : t.Steady c) : t.attempt.Steady c := by
  rw [Turn.attempt]
  split
  · exact h.finish
  · have hbegun : ((t.publish .resolving).update fun c =>
        { c with round := c.round + 1 }).Steady c := update (h.publish _) rfl rfl rfl rfl
    dsimp only
    split
    · exact (ask hbegun rfl).dial _ _
    · exact ask (enter hbegun _) rfl

theorem establish (h : t.Steady c) (link : Link) : (t.establish link).Steady c := by
  rw [Turn.establish]
  exact update (publish (h.update rfl rfl rfl rfl) _) rfl rfl rfl rfl

theorem endLink (h : t.Steady c) (link : Link) (why : LinkEnd) :
    (t.endLink link why).Steady c := by
  have hdown : ((t.ask (.hangUp link.socket)).update fun c =>
      { c with queue := c.queue.clear }).Steady c := update (h.ask rfl) rfl rfl rfl rfl
  cases why with
  | closed => exact hdown.finish
  | lost => exact hdown.fail
  | staleAddress => exact (hdown.publish _).attempt

theorem enqueue (h : t.Steady c) (link : Link) (command : OutboundCommand) :
    (t.enqueue link command).Steady c := by
  rw [Turn.enqueue]
  split
  · exact ask (h.update rfl rfl rfl rfl) rfl
  · exact h.update rfl rfl rfl rfl
  · exact h

theorem carryOut (h : t.Steady c) (link : Link) (request : RelayRequest) :
    (t.carryOut link request).Steady c := by
  cases request with
  | send command => exact h.enqueue link command
  | join command =>
    rw [Turn.carryOut]
    split
    · exact (h.publish _).enqueue link command
    · exact h

theorem acknowledge (h : t.Steady c) (link : Link) : (t.acknowledge link).Steady c := by
  rw [Turn.acknowledge]
  dsimp only
  split
  · exact ask (h.update rfl rfl rfl rfl) rfl
  · exact h.update rfl rfl rfl rfl

theorem complete (h : t.Steady c) (frame : InboundFrame) : (t.complete frame).Steady c := by
  rw [Turn.complete]
  split
  · exact h.publish _
  · exact h

theorem served {link : Link} {input : RelayInput} {t' : Turn} (h : t.Steady c)
    (hserved : Served t link input t') : t'.Steady c := by
  cases hserved with
  | stays => exact h
  | arrives => exact h.update rfl rfl rfl rfl
  | takes => exact carryOut (h.update rfl rfl rfl rfl) link _
  | acknowledges => exact h.acknowledge link
  | tells => exact (h.complete _).tell _
  | unheard => exact (h.complete _).endLink link _
  | ignores => exact h.update rfl rfl rfl rfl
  | learns => exact (h.update rfl rfl rfl rfl).cached _
  | replaces =>
    -- the socket is replaced as if its link had ended
    exact ((h.update rfl rfl rfl rfl).cached _).endLink link .staleAddress
  | loses => exact h.endLink link _
  | hangsUp => exact h.endLink link _

theorem step (h : t.Steady c) (input : RelayInput) : (t.step input).Steady c := by
  have hmove := move_step t input
  generalize t.step input = t' at hmove
  cases hmove with
  | stays => exact h
  | arrives => exact h.update rfl rfl rfl rfl
  | serves _ hserved => exact h.served hserved
  | begins => exact h.attempt
  | resolves => exact (h.cached _).dial _ _
  | opens => exact h.establish _
  | fails => exact h.fail
  | forgets => exact (h.cached _).fail
  | discards => exact h.update rfl rfl rfl rfl
  | closes => exact h.finish
  | surrenders => exact h.giveUp _

end Steady
end Turn

namespace Connection

/-- No input changes what is up to the owner. -/
theorem steady_input (c : Connection) (cache : DnsCache) (input : RelayInput) :
    (Turn.step ⟨c, cache, []⟩ input).Steady c :=
  Turn.Steady.step (t := ⟨c, cache, []⟩) ⟨rfl, rfl, rfl, rfl, fun _ => rfl⟩ input

end Connection
end GroupCall
