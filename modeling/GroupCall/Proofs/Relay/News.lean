/-
# The order of news

What a connection tells its owner falls into attempts.  An attempt looks up the host, opens a
socket and serves it, and whatever ends it, it is told as the loss of the socket.  While a
socket is served there are errors at any time; we ask to join at most once, and the answer
comes right after it is told that we are in; commands follow the answer.  The owner may cut
an attempt short by closing the connection.  Otherwise the connection gives up, between two
attempts, and says why.  That the connection is over is the last news, and the only one that is
lost if there is no room for it.
-/
import GroupCall.Relay.Connection

namespace GroupCall
namespace RelayNews

/-- An error that the relay reports. -/
def isError : RelayNews → Bool
  | .frame (.error _ _) => true
  | _ => false

/-- A frame other than an answer: an error or a command. -/
def isOrdinary : RelayNews → Bool
  | .frame f => !f.isAnswer
  | _ => false

/-! ## The grammar -/

/-- What is told while a socket is served, up to a published state. -/
inductive Exchange : RelayState → List RelayNews → Prop
  /-- We have not asked to join. -/
  | connected {errors : List RelayNews} (herrors : ∀ n ∈ errors, n.isError = true) :
    Exchange .connected errors
  /-- We have asked to join. -/
  | joining {before errors : List RelayNews} (hbefore : Exchange .connected before)
    (herrors : ∀ n ∈ errors, n.isError = true) :
    Exchange .joining (before ++ .stateChanged .joining :: errors)
  /-- The relay has answered. -/
  | joined {before after : List RelayNews} (hbefore : Exchange .joining before) (answer : Answer)
    (hafter : ∀ n ∈ after, n.isOrdinary = true) :
    Exchange .joined
      (before ++ .stateChanged .joined :: .frame (.command (.answer answer)) :: after)

/-- An attempt as a whole. -/
inductive Attempt : List RelayNews → Prop
  /-- The host has no address. -/
  | unresolved : Attempt [.stateChanged .resolving, .stateChanged .disconnected]
  /-- No socket could be opened. -/
  | unopened :
    Attempt [.stateChanged .resolving, .stateChanged .connecting, .stateChanged .disconnected]
  /-- A socket was served. -/
  | served {state : RelayState} {exchange : List RelayNews} (h : Exchange state exchange) :
    Attempt ([.stateChanged .resolving, .stateChanged .connecting, .stateChanged .connected] ++
      exchange ++ [.stateChanged .disconnected])

/-- Attempts, one after the other. -/
inductive Attempts : List RelayNews → Prop
  /-- No attempt. -/
  | none : Attempts []
  /-- Another attempt. -/
  | more {done last : List RelayNews} (hdone : Attempts done) (hlast : Attempt last) :
    Attempts (done ++ last)

/-- The last news, which is told if there is room for it. -/
def farewell (room : Bool) : List RelayNews := if room then [.closed] else []

/-- How news end that began with `begun`.  The end alone may follow anything: it comes without a
failure where the owner closed the connection, which may be at any point of an attempt. -/
inductive Ending (closed : Prop) (begun : List RelayNews) : List RelayNews → Prop
  /-- Not yet, or without room for the end. -/
  | none : Ending closed begun []
  /-- The connection gave up after an attempt. -/
  | failed (error : RelayError) (room : Bool) (hdone : Attempts begun)
    (hlast : begun.getLast? = some (.stateChanged .disconnected)) :
    Ending closed begun (.failed error :: farewell room)
  /-- The owner closed it. -/
  | closed (hclosed : closed) : Ending closed begun [.closed]

/-- News in their order: attempts, of which the last one may be cut short, and an end.
`closed` says whether the owner has closed the connection. -/
def Ordered (closed : Prop) (news : List RelayNews) : Prop :=
  ∃ begun whole ending, news = begun ++ ending ∧ Attempts whole ∧ begun <+: whole ∧
    Ending closed begun ending

/-! ## Commands in the grammar -/

/-- The state that is told last, after a state. -/
def stateAfter : RelayState → List RelayNews → RelayState
  | state, [] => state
  | _, .stateChanged next :: rest => stateAfter next rest
  | state, _ :: rest => stateAfter state rest

/-- Commands are told only where the state that was told last is that the relay has
answered. -/
def Gated : RelayState → List RelayNews → Prop
  | _, [] => True
  | _, .stateChanged next :: rest => Gated next rest
  | state, .frame (.command _) :: rest => state = .joined ∧ Gated state rest
  | state, _ :: rest => Gated state rest

theorem gated_append (state : RelayState) (first second : List RelayNews) :
    Gated state (first ++ second) ↔
      Gated state first ∧ Gated (stateAfter state first) second := by
  induction first generalizing state with
  | nil => simp [Gated, stateAfter]
  | cons n rest ih =>
    cases n with
    | frame f => cases f <;> simp [Gated, stateAfter, ih, and_assoc]
    | _ => simp [Gated, stateAfter, ih]

theorem stateAfter_append (state : RelayState) (first second : List RelayNews) :
    stateAfter state (first ++ second) = stateAfter (stateAfter state first) second := by
  induction first generalizing state with
  | nil => rfl
  | cons n rest ih => cases n <;> exact ih _

/-- Frames leave the state as it is. -/
theorem stateAfter_of_isOrdinary {news : List RelayNews}
    (h : ∀ n ∈ news, n.isOrdinary = true) (state : RelayState) :
    stateAfter state news = state := by
  induction news with
  | nil => rfl
  | cons n rest ih =>
    have hrest := ih fun m hm => h m (List.mem_cons_of_mem n hm)
    have hn := h n List.mem_cons_self
    cases n with
    | frame f => exact hrest
    | _ => cases hn

theorem isOrdinary_of_isError {n : RelayNews} (h : n.isError = true) : n.isOrdinary = true := by
  cases n with
  | frame f =>
    cases f with
    | error code text => rfl
    | command command => cases h
  | _ => cases h

theorem stateAfter_of_isError {news : List RelayNews} (h : ∀ n ∈ news, n.isError = true)
    (state : RelayState) : stateAfter state news = state :=
  stateAfter_of_isOrdinary (fun n hn => isOrdinary_of_isError (h n hn)) state

/-- Errors pass at any time. -/
theorem gated_of_isError {news : List RelayNews} (h : ∀ n ∈ news, n.isError = true)
    (state : RelayState) : Gated state news := by
  induction news with
  | nil => trivial
  | cons n rest ih =>
    have hrest := ih fun m hm => h m (List.mem_cons_of_mem n hm)
    have hn := h n List.mem_cons_self
    cases n with
    | frame f =>
      cases f with
      | error code text => exact hrest
      | command command => cases hn
    | _ => cases hn

/-- Once the relay has answered, every frame may pass. -/
theorem gated_of_isOrdinary {news : List RelayNews} (h : ∀ n ∈ news, n.isOrdinary = true) :
    Gated .joined news := by
  induction news with
  | nil => trivial
  | cons n rest ih =>
    have hrest := ih fun m hm => h m (List.mem_cons_of_mem n hm)
    have hn := h n List.mem_cons_self
    cases n with
    | frame f =>
      cases f with
      | error code text => exact hrest
      | command command => exact ⟨rfl, hrest⟩
    | _ => cases hn

/-- An exchange leads to its state, and its commands come after the answer. -/
theorem Exchange.gated {state : RelayState} {exchange : List RelayNews}
    (h : Exchange state exchange) :
    stateAfter .connected exchange = state ∧ Gated .connected exchange := by
  induction h with
  | connected herrors =>
    exact ⟨stateAfter_of_isError herrors _, gated_of_isError herrors _⟩
  | joining _ herrors ih =>
    obtain ⟨hstate, hgated⟩ := ih
    rw [stateAfter_append, gated_append, hstate]
    exact ⟨stateAfter_of_isError herrors _, hgated, gated_of_isError herrors _⟩
  | joined _ answer hafter ih =>
    obtain ⟨hstate, hgated⟩ := ih
    rw [stateAfter_append, gated_append, hstate]
    exact ⟨stateAfter_of_isOrdinary hafter _, hgated, rfl, gated_of_isOrdinary hafter⟩

theorem Attempt.gated {attempt : List RelayNews} (h : Attempt attempt) (state : RelayState) :
    Gated state attempt := by
  cases h with
  | unresolved => trivial
  | unopened => trivial
  | served h => exact (gated_append .connected _ _).2 ⟨h.gated.2, trivial⟩

theorem Attempts.gated {news : List RelayNews} (h : Attempts news) (state : RelayState) :
    Gated state news := by
  induction h with
  | none => trivial
  | more _ hlast ih => exact (gated_append _ _ _).2 ⟨ih, hlast.gated _⟩

/-- No command is told before the answer. -/
theorem Ordered.gated {closed : Prop} {news : List RelayNews} (h : Ordered closed news)
    (state : RelayState) : Gated state news := by
  obtain ⟨begun, whole, ending, rfl, hwhole, ⟨rest, rfl⟩, hending⟩ := h
  refine (gated_append _ _ _).2 ⟨((gated_append _ _ _).1 (hwhole.gated state)).1, ?_⟩
  cases hending with
  | none => trivial
  | failed error room hdone hlast => cases room <;> trivial
  | closed hclosed => trivial

/-! ## Attempts in progress -/

/-- The last attempt is in progress, at a published state. -/
inductive Underway : RelayState → List RelayNews → Prop
  /-- The host is looked up. -/
  | resolving {done : List RelayNews} (hdone : Attempts done) :
    Underway .resolving (done ++ [.stateChanged .resolving])
  /-- A socket is being opened. -/
  | connecting {done : List RelayNews} (hdone : Attempts done) :
    Underway .connecting (done ++ [.stateChanged .resolving, .stateChanged .connecting])
  /-- A socket is served. -/
  | online {done exchange : List RelayNews} {state : RelayState} (hdone : Attempts done)
    (hexchange : Exchange state exchange) :
    Underway state (done ++ ([.stateChanged .resolving, .stateChanged .connecting,
      .stateChanged .connected] ++ exchange))

namespace Underway

variable {state : RelayState} {news : List RelayNews}

/-- The loss of the socket completes an attempt. -/
theorem disconnect (h : Underway state news) :
    Attempts (news ++ [.stateChanged .disconnected]) := by
  cases h with
  | resolving hdone => simpa using hdone.more .unresolved
  | connecting hdone => simpa using hdone.more .unopened
  | online hdone hexchange => simpa using hdone.more (.served hexchange)

theorem ne_disconnected (h : Underway state news) : state ≠ .disconnected := by
  cases h with
  | resolving _ => simp
  | connecting _ => simp
  | online _ hexchange => cases hexchange <;> simp

/-- Where the host is looked up, a socket may be opened next. -/
theorem dial (h : Underway .resolving news) :
    Underway .connecting (news ++ [.stateChanged .connecting]) := by
  cases h with
  | resolving hdone => simpa using Underway.connecting hdone
  | online _ hexchange => cases hexchange

theorem establish (h : Underway .connecting news) :
    Underway .connected (news ++ [.stateChanged .connected]) := by
  cases h with
  | connecting hdone =>
    simpa using Underway.online hdone (.connected (List.forall_mem_nil _))
  | online _ hexchange => cases hexchange

theorem join (h : Underway .connected news) :
    Underway .joining (news ++ [.stateChanged .joining]) := by
  cases h with
  | online hdone hexchange =>
    simpa using Underway.online hdone (.joining hexchange (List.forall_mem_nil _))

theorem answer (h : Underway .joining news) (answer : Answer) :
    Underway .joined (news ++ [.stateChanged .joined, .frame (.command (.answer answer))]) := by
  cases h with
  | online hdone hexchange =>
    simpa using Underway.online hdone (.joined hexchange answer (List.forall_mem_nil _))

/-- An error may follow in any state of a socket. -/
theorem error (h : Underway state news) (hstate : state.isOnline = true) (code : Int)
    (text : Option String) : Underway state (news ++ [.frame (.error code text)]) := by
  cases h with
  | resolving _ => cases hstate
  | connecting _ => cases hstate
  | online hdone hexchange =>
    have hmore : ∀ {errors : List RelayNews}, (∀ n ∈ errors, n.isError = true) →
        ∀ n ∈ errors ++ [.frame (.error code text)], n.isError = true :=
      fun herrors => List.forall_mem_append.2 ⟨herrors, by simp [isError]⟩
    cases hexchange with
    | connected herrors => simpa using Underway.online hdone (.connected (hmore herrors))
    | joining hbefore herrors =>
      simpa using Underway.online hdone (.joining hbefore (hmore herrors))
    | joined hbefore answer hafter =>
      have herror : isOrdinary (.frame (.error code text)) = true := isOrdinary_of_isError rfl
      have hafter' := List.forall_mem_append.2 ⟨hafter, List.forall_mem_singleton.2 herror⟩
      simpa using Underway.online hdone (.joined hbefore answer hafter')

/-- Once the relay has answered, a command other than an answer may follow. -/
theorem command (h : Underway .joined news) {f : InboundFrame} (hf : f.isAnswer = false) :
    Underway .joined (news ++ [.frame f]) := by
  cases h with
  | online hdone hexchange =>
    cases hexchange with
    | joined hbefore answer hafter =>
      have hordinary : isOrdinary (.frame f) = true := by simp [isOrdinary, hf]
      have hafter' := List.forall_mem_append.2 ⟨hafter, List.forall_mem_singleton.2 hordinary⟩
      simpa using Underway.online hdone (.joined hbefore answer hafter')

end Underway

/-- An attempt that begins. -/
theorem Attempts.begin {news : List RelayNews} (h : Attempts news) :
    Underway .resolving (news ++ [.stateChanged .resolving]) := .resolving h

/-! ## Order -/

/-- Nothing is out of order in an attempt in progress. -/
theorem Underway.ordered {state : RelayState} {news : List RelayNews} (h : Underway state news)
    (closed : Prop) : Ordered closed news :=
  ⟨news, _, [], by simp, h.disconnect, List.prefix_append _ _, .none⟩

theorem Attempts.ordered {news : List RelayNews} (h : Attempts news) (closed : Prop) :
    Ordered closed news :=
  ⟨news, news, [], by simp, h, List.prefix_refl _, .none⟩

theorem Ending.farewell {closed : Prop} (hclosed : closed) (begun : List RelayNews) (room : Bool) :
    Ending closed begun (farewell room) := by
  cases room with
  | true => exact .closed hclosed
  | false => exact .none

/-- The owner may close the connection at any time. -/
theorem Underway.close {state : RelayState} {news : List RelayNews} (h : Underway state news)
    {closed : Prop} (hclosed : closed) (room : Bool) : Ordered closed (news ++ farewell room) :=
  ⟨news, _, _, rfl, h.disconnect, List.prefix_append _ _, .farewell hclosed news room⟩

theorem Attempts.close {news : List RelayNews} (h : Attempts news) {closed : Prop}
    (hclosed : closed) (room : Bool) : Ordered closed (news ++ farewell room) :=
  ⟨news, news, _, rfl, h, List.prefix_refl _, .farewell hclosed news room⟩

/-- Between attempts the connection may give up. -/
theorem Attempts.giveUp {news : List RelayNews} (h : Attempts news)
    (hlast : news.getLast? = some (.stateChanged .disconnected)) (error : RelayError)
    (closed : Prop) (room : Bool) : Ordered closed (news ++ .failed error :: farewell room) :=
  ⟨news, news, _, rfl, h, List.prefix_refl _, .failed error room h hlast⟩

theorem Ordered.mono {closed closed' : Prop} {news : List RelayNews} (h : Ordered closed news)
    (hmono : closed → closed') : Ordered closed' news := by
  obtain ⟨begun, whole, ending, heq, hwhole, hprefix, hending⟩ := h
  refine ⟨begun, whole, ending, heq, hwhole, hprefix, ?_⟩
  cases hending with
  | none => exact .none
  | failed error room hdone hlast => exact .failed error room hdone hlast
  | closed hclosed => exact .closed (hmono hclosed)

end RelayNews
end GroupCall
