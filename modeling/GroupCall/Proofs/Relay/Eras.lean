/-
# Eras

A connection serves many sockets, one after the other, and the commands of its owner wait in
two places before they reach one: in the inbox, and in the queue of frames.  What passes
between owner, connection and sockets is its traffic.  It falls into eras, one for each socket
that is served: what happens from its opening until the next socket is opened.

An era stands for itself if its socket is handed only what was accepted in the same era, while
the socket was open, in the order in which it was accepted, and each command once the one
before it was acknowledged.
-/
import GroupCall.Relay.Connection

namespace GroupCall

/-- Whether a request is one to join. -/
def RelayRequest.isJoin : RelayRequest → Bool
  | .join _ => true
  | .send _ => false

/-- Something that passes between the owner, the connection and its sockets. -/
inductive Traffic where
  /-- A socket is served from now on. -/
  | opened (socket : Nat)
  /-- A request of the owner is accepted. -/
  | accepted (request : RelayRequest)
  /-- A command is handed to a socket. -/
  | handed (socket : Nat) (command : OutboundCommand)
  /-- A socket has sent what it was handed. -/
  | acknowledged (socket : Nat)
  /-- A socket is closed. -/
  | closed (socket : Nat)
deriving DecidableEq, Repr

namespace Traffic

/-- Whether a socket is opened. -/
def opens : Traffic → Bool
  | .opened _ => true
  | _ => false

/-- The request that is accepted. -/
def request? : Traffic → Option RelayRequest
  | .accepted request => some request
  | _ => none

/-- The command that is handed over. -/
def command? : Traffic → Option OutboundCommand
  | .handed _ command => some command
  | _ => none

/-- Whether nothing is accepted or handed over. -/
def isQuiet (p : Traffic) : Bool := p.request?.isNone && p.command?.isNone

/-- Whether a socket has yet to acknowledge what it was handed last; `busy` says whether it
had to before. -/
def underway (socket : Nat) : Bool → List Traffic → Bool
  | busy, [] => busy
  | _, .handed _ _ :: rest => underway socket true rest
  | busy, .acknowledged other :: rest =>
    underway socket (if other = socket then false else busy) rest
  | busy, _ :: rest => underway socket busy rest

/-- Commands are handed over only while none has yet to be acknowledged by the socket. -/
def Paced (socket : Nat) : Bool → List Traffic → Prop
  | _, [] => True
  | busy, .handed _ _ :: rest => busy = false ∧ Paced socket true rest
  | busy, .acknowledged other :: rest =>
    Paced socket (if other = socket then false else busy) rest
  | busy, _ :: rest => Paced socket busy rest

theorem underway_append (socket : Nat) (busy : Bool) (first second : List Traffic) :
    underway socket busy (first ++ second) =
      underway socket (underway socket busy first) second := by
  induction first generalizing busy with
  | nil => rfl
  | cons p rest ih => cases p <;> exact ih _

theorem paced_append (socket : Nat) (busy : Bool) (first second : List Traffic) :
    Paced socket busy (first ++ second) ↔
      Paced socket busy first ∧ Paced socket (underway socket busy first) second := by
  induction first generalizing busy with
  | nil => simp [Paced, underway]
  | cons p rest ih => cases p <;> simp [Paced, underway, ih, and_assoc]

theorem paced_of_isQuiet {socket : Nat} {busy : Bool} {log : List Traffic}
    (h : ∀ p ∈ log, p.isQuiet = true) : Paced socket busy log := by
  induction log generalizing busy with
  | nil => trivial
  | cons p rest ih =>
    obtain ⟨hp, hrest⟩ := List.forall_mem_cons.1 h
    cases p with
    | handed socket command => cases hp
    | _ => exact ih hrest

end Traffic

/-- What happens from the opening of a socket until the next one is opened. -/
structure Era where
  /-- The socket. -/
  socket : Nat
  /-- What passes, first thing first. -/
  traffic : List Traffic

namespace Era

open Traffic

/-- The requests that are accepted in an era. -/
def requests (e : Era) : List RelayRequest := e.traffic.filterMap Traffic.request?

/-- The commands that are handed over in an era. -/
def commands (e : Era) : List OutboundCommand := e.traffic.filterMap Traffic.command?

/-- An era stands for itself. -/
structure Isolated (e : Era) : Prop where
  /-- No other socket is handed anything. -/
  own : ∀ socket command, .handed socket command ∈ e.traffic → socket = e.socket
  /-- What is handed over are, in order, commands of requests that were accepted in the era, and
  at most one of these is a request to join. -/
  ordered : ∃ requests : List RelayRequest, requests.Sublist e.requests ∧
    requests.map RelayRequest.command = e.commands ∧ requests.countP RelayRequest.isJoin ≤ 1
  /-- Each command is handed over once the one before it was acknowledged. -/
  paced : Paced e.socket false e.traffic
  /-- Once the socket is closed nothing is accepted or handed over. -/
  ended : ∃ live rest, e.traffic = live ++ rest ∧ .closed e.socket ∉ live ∧
    ∀ p ∈ rest, p.isQuiet = true

/-- Whether the owner sends a JOIN as a plain command. -/
def smuggles (request : RelayRequest) : Bool :=
  !request.isJoin && decide (request.command.name = "JOIN")

/-- At most one JOIN is handed over, apart from those that the owner sends as plain commands. -/
theorem Isolated.joins_le {e : Era} (h : e.Isolated) :
    e.commands.countP (fun command => command.name = "JOIN") ≤
      1 + e.requests.countP smuggles := by
  obtain ⟨requests, hsub, hmap, hjoin⟩ := h.ordered
  have hsmuggled := hsub.countP_le (p := smuggles)
  have hsplit : ∀ requests : List RelayRequest,
      (requests.map RelayRequest.command).countP (fun command => command.name = "JOIN") ≤
        requests.countP RelayRequest.isJoin + requests.countP smuggles := by
    intro requests
    induction requests with
    | nil => simp
    | cons request rest ih =>
      have hfirst : (if decide (request.command.name = "JOIN") = true then 1 else 0) ≤
          (if request.isJoin = true then 1 else 0) + if smuggles request = true then 1 else 0 := by
        by_cases hjoin : request.isJoin = true
        · simp only [hjoin, if_true]
          split <;> omega
        · simp [smuggles, hjoin]
      simp only [List.map_cons, List.countP_cons]
      omega
  have hcount := hsplit requests
  rw [hmap] at hcount
  omega

/-- An era in which more happens. -/
def add (e : Era) (more : List Traffic) : Era := ⟨e.socket, e.traffic ++ more⟩

@[simp] theorem socket_add (e : Era) (more : List Traffic) : (e.add more).socket = e.socket := rfl

@[simp] theorem add_nil (e : Era) : e.add [] = e := by simp [add]

@[simp] theorem add_add (e : Era) (first second : List Traffic) :
    (e.add first).add second = e.add (first ++ second) := by simp [add]

@[simp] theorem requests_add (e : Era) (more : List Traffic) :
    (e.add more).requests = e.requests ++ more.filterMap Traffic.request? := by
  simp [add, requests]

@[simp] theorem commands_add (e : Era) (more : List Traffic) :
    (e.add more).commands = e.commands ++ more.filterMap Traffic.command? := by
  simp [add, commands]

/-- Whatever is of no concern may follow. -/
theorem Isolated.add_quiet {e : Era} (h : e.Isolated) {more : List Traffic}
    (hmore : ∀ p ∈ more, p.isQuiet = true) : (e.add more).Isolated := by
  have hrequests : more.filterMap Traffic.request? = [] := by
    refine List.filterMap_eq_nil_iff.2 fun p hp => ?_
    have hquiet := hmore p hp
    simp_all [isQuiet]
  have hcommands : more.filterMap Traffic.command? = [] := by
    refine List.filterMap_eq_nil_iff.2 fun p hp => ?_
    have hquiet := hmore p hp
    simp_all [isQuiet]
  obtain ⟨requests, hsub, hmap, hjoin⟩ := h.ordered
  obtain ⟨live, rest, htraffic, hopen, hquiet⟩ := h.ended
  constructor
  · intro socket command hmem
    rcases List.mem_append.1 hmem with hmem | hmem
    · exact h.own socket command hmem
    · cases hmore _ hmem
  · exact ⟨requests, by simpa [hrequests] using hsub, by simpa [hcommands] using hmap, hjoin⟩
  · exact (paced_append _ _ _ _).2 ⟨h.paced, paced_of_isQuiet hmore⟩
  · refine ⟨live, rest ++ more, ?_, hopen, List.forall_mem_append.2 ⟨hquiet, hmore⟩⟩
    rw [add, htraffic, List.append_assoc]

end Era

/-- The eras of some traffic, the last one first.  What passes before the first socket is
opened belongs to none. -/
def eras (log : List Traffic) : List Era :=
  log.foldl (fun eras p =>
    match p, eras with
    | .opened socket, eras => ⟨socket, []⟩ :: eras
    | _, [] => []
    | p, e :: rest => e.add [p] :: rest) []

section Eras

variable {log more : List Traffic} {e : Era} {rest : List Era}

theorem eras_opened (log : List Traffic) (socket : Nat) :
    eras (log ++ [.opened socket]) = ⟨socket, []⟩ :: eras log := by
  simp [eras]

/-- What opens no socket goes on with the last era, if there is one. -/
theorem eras_append_eq (hmore : ∀ p ∈ more, p.opens = false) :
    eras (log ++ more) = (eras log).modifyHead (·.add more) := by
  induction more generalizing log with
  | nil => cases h : eras log <;> simp [h]
  | cons p more ih =>
    obtain ⟨hp, hmore⟩ := List.forall_mem_cons.1 hmore
    have hfirst : eras (log ++ [p]) = (eras log).modifyHead (·.add [p]) := by
      rw [eras, List.foldl_append, ← eras]
      cases p with
      | opened socket => cases hp
      | _ => cases eras log <;> rfl
    calc eras (log ++ p :: more) = eras (log ++ [p] ++ more) := by
          rw [List.append_assoc, List.singleton_append]
      _ = ((eras log).modifyHead (·.add [p])).modifyHead (·.add more) := by rw [ih hmore, hfirst]
      _ = (eras log).modifyHead (·.add (p :: more)) := by cases eras log <;> simp

theorem eras_append (h : eras log = e :: rest) (hmore : ∀ p ∈ more, p.opens = false) :
    eras (log ++ more) = e.add more :: rest := by
  rw [eras_append_eq hmore, h, List.modifyHead_cons]

theorem eras_append_of_nil (h : eras log = []) (hmore : ∀ p ∈ more, p.opens = false) :
    eras (log ++ more) = [] := by
  rw [eras_append_eq hmore, h, List.modifyHead_nil]

end Eras

/-! ## What waits -/

/-- How many requests to join may have left the inbox in a published state. -/
def RelayState.joins : RelayState → Nat
  | .connected => 0
  | _ => 1

/-- Requests are accepted only while a socket is open. -/
theorem RelayRequest.isOnline_of_check {state : RelayState} {request : RelayRequest}
    (h : request.check state = .ok ()) : state.isOnline = true := by
  cases request with
  | send command =>
    rw [check] at h
    split at h
    · assumption
    · cases h
  | join command =>
    cases state with
    | connected => rfl
    | joining => rfl
    | joined => rfl
    | _ => cases h

theorem RelayState.joins_le (state : RelayState) : state.joins ≤ 1 := by
  cases state <;> simp [joins]

namespace Era

variable {e : Era} {joins : Nat} {waiting : List OutboundCommand} {inbox : List RelayRequest}

/-- What was handed over and what still waits, first in the queue and then in the inbox, are
commands of requests that were accepted in the era, in the order in which they were accepted.
At most `joins` of those that left the inbox are requests to join. -/
def Holds (e : Era) (joins : Nat) (waiting : List OutboundCommand) (inbox : List RelayRequest) :
    Prop :=
  ∃ handed queued : List RelayRequest, (handed ++ queued ++ inbox).Sublist e.requests ∧
    handed.map RelayRequest.command = e.commands ∧ queued.map RelayRequest.command = waiting ∧
    (handed ++ queued).countP RelayRequest.isJoin ≤ joins

namespace Holds

theorem begin (socket : Nat) : (⟨socket, []⟩ : Era).Holds 0 [] [] :=
  ⟨[], [], List.Sublist.refl _, rfl, rfl, Nat.le_refl 0⟩

theorem mono (h : e.Holds joins waiting inbox) {joins' : Nat} (hle : joins ≤ joins') :
    e.Holds joins' waiting inbox := by
  obtain ⟨handed, queued, hsub, hhanded, hqueued, hjoins⟩ := h
  exact ⟨handed, queued, hsub, hhanded, hqueued, Nat.le_trans hjoins hle⟩

/-- Whatever is of no concern may follow. -/
theorem quiet (h : e.Holds joins waiting inbox) {p : Traffic} (hp : p.isQuiet = true) :
    (e.add [p]).Holds joins waiting inbox := by
  obtain ⟨handed, queued, hsub, hhanded, hqueued, hjoins⟩ := h
  have hrequest : p.request? = none := by simp_all [Traffic.isQuiet]
  have hcommand : p.command? = none := by simp_all [Traffic.isQuiet]
  refine ⟨handed, queued, ?_, ?_, hqueued, hjoins⟩
  · simpa [hrequest] using hsub
  · simpa [hcommand] using hhanded

/-- A request is accepted, behind all others. -/
theorem accept (h : e.Holds joins waiting inbox) (request : RelayRequest) :
    (e.add [.accepted request]).Holds joins waiting (inbox ++ [request]) := by
  obtain ⟨handed, queued, hsub, hhanded, hqueued, hjoins⟩ := h
  refine ⟨handed, queued, ?_, ?_, hqueued, hjoins⟩
  · have hmore : (handed ++ queued ++ inbox ++ [request]).Sublist (e.requests ++ [request]) :=
      hsub.append (List.Sublist.refl _)
    simpa [List.filterMap_cons, Traffic.request?] using hmore
  · simpa [List.filterMap_cons, Traffic.command?] using hhanded

/-- The oldest request of the inbox is lost. -/
theorem lose {request : RelayRequest} (h : e.Holds joins waiting (request :: inbox)) :
    e.Holds joins waiting inbox := by
  obtain ⟨handed, queued, hsub, hhanded, hqueued, hjoins⟩ := h
  have hless : (handed ++ queued ++ inbox).Sublist (handed ++ queued ++ request :: inbox) :=
    (List.Sublist.refl _).append (List.sublist_cons_self request inbox)
  exact ⟨handed, queued, hless.trans hsub, hhanded, hqueued, hjoins⟩

/-- The oldest request of the inbox waits behind the others of the queue. -/
theorem wait {request : RelayRequest} (h : e.Holds joins waiting (request :: inbox)) :
    e.Holds (joins + [request].countP RelayRequest.isJoin) (waiting ++ [request.command])
      inbox := by
  obtain ⟨handed, queued, hsub, hhanded, hqueued, hjoins⟩ := h
  refine ⟨handed, queued ++ [request], ?_, hhanded, ?_, ?_⟩
  · simpa using hsub
  · rw [List.map_append, hqueued, List.map_singleton]
  · rw [← List.append_assoc, List.countP_append]
    omega

/-- The oldest command of the queue is handed over. -/
theorem hand {command : OutboundCommand} (h : e.Holds joins (command :: waiting) inbox)
    (socket : Nat) : (e.add [.handed socket command]).Holds joins waiting inbox := by
  obtain ⟨handed, queued, hsub, hhanded, hqueued, hjoins⟩ := h
  obtain ⟨request, queued, rfl, hcommand, hqueued⟩ := List.map_eq_cons_iff.1 hqueued
  refine ⟨handed ++ [request], queued, ?_, ?_, hqueued, ?_⟩
  · simpa [List.filterMap_cons, Traffic.request?] using hsub
  · simp [Traffic.command?, hhanded, hcommand]
  · simpa using hjoins

end Holds
end Era

end GroupCall
