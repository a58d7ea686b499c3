/-
# What an input makes of a link

While a socket is served an input has one of four outcomes: news pass and nothing else happens, a
request leaves the inbox, an acknowledgement releases the next command, or the link ends.  A link
ends because the socket is lost, because the owner is done, or because an answer to the look-up of
its own attempt names other addresses than those in use.
-/
import GroupCall.Proofs.Relay.Serving

namespace GroupCall

/-- News that leave an attempt where it is. -/
def RelayNews.isOngoing : RelayNews → Bool
  | .stateChanged .disconnected => false
  | .failed _ => false
  | .closed => false
  | _ => true

namespace Turn

variable {t t' t'' : Turn} {link : Link} {input : RelayInput}

/-! ## News that pass -/

/-- News were told that leave the attempt where it is; the answer completes the joining. -/
structure Passed (t t' : Turn) : Prop where
  /-- Nothing but the answers that wait and the published state may differ. -/
  connection : ∃ answers, t'.connection =
    { t.connection with answers := answers, state := t'.connection.state }
  /-- Only the answer changes the published state. -/
  state : t'.connection.state = t.connection.state ∨
    t.connection.state = .joining ∧ t'.connection.state = .joined
  /-- Nothing but news came out. -/
  actions : ∃ told : List RelayNews, (∀ n ∈ told, n.isOngoing = true) ∧
    t'.actions = t.actions ++ told.map fun n => .tell ⟨t.connection.id, n⟩

namespace Passed

theorem refl (t : Turn) : Passed t t := ⟨⟨_, rfl⟩, Or.inl rfl, [], by simp⟩

theorem trans (h : Passed t t') (h' : Passed t' t'') : Passed t t'' := by
  obtain ⟨answers, hconnection⟩ := h.connection
  obtain ⟨answers', hconnection'⟩ := h'.connection
  obtain ⟨told, htold, hactions⟩ := h.actions
  obtain ⟨told', htold', hactions'⟩ := h'.actions
  refine ⟨⟨answers', ?_⟩, ?_, told ++ told', List.forall_mem_append.2 ⟨htold, htold'⟩, ?_⟩
  · rw [hconnection', hconnection]
  · rcases h'.state with hsame | ⟨hjoining, hjoined⟩
    · rw [hsame]
      exact h.state
    · rcases h.state with hsame | ⟨-, hjoined'⟩
      · exact Or.inr ⟨hsame ▸ hjoining, hjoined⟩
      · rw [hjoined'] at hjoining
        cases hjoining
  · have hid : t'.connection.id = t.connection.id := by rw [hconnection]
    rw [hactions', hactions, hid, List.map_append, List.append_assoc]

/-- The cache and the answers that wait are of no concern. -/
theorem of_answers (t : Turn) (answers : List (Nat × LookupAnswer)) (cache : DnsCache) :
    Passed t { t with connection := { t.connection with answers := answers }, cache := cache } :=
  ⟨⟨answers, rfl⟩, Or.inl rfl, [], by simp⟩

theorem tell (t : Turn) {n : RelayNews} (hn : n.isOngoing = true) : Passed t (t.tell n) := by
  rw [Turn.tell]
  split
  · exact ⟨⟨_, rfl⟩, Or.inl rfl, [n], by simpa using hn, rfl⟩
  · exact refl t

theorem answered (h : t.connection.state = .joining) : Passed t (t.publish .joined) := by
  have hconnection := connection_publish t .joined
  refine ⟨⟨t.connection.answers, ?_⟩, Or.inr ⟨h, state_publish t _⟩, ?_⟩
  · rw [hconnection]
  · have hne : t.connection.state ≠ .joined := by simp [h]
    rw [publish, if_neg hne, Turn.tell]
    split
    · exact ⟨[.stateChanged .joined], by simp [RelayNews.isOngoing], rfl⟩
    · exact ⟨[], by simp [update]⟩

theorem phase (h : Passed t t') : t'.connection.phase = t.connection.phase := by
  obtain ⟨answers, hconnection⟩ := h.connection
  rw [hconnection]

theorem queue (h : Passed t t') : t'.connection.queue = t.connection.queue := by
  obtain ⟨answers, hconnection⟩ := h.connection
  rw [hconnection]

theorem traffic (h : Passed t t') : t'.traffic = t.traffic := by
  obtain ⟨told, -, hactions⟩ := h.actions
  have hnone : (told.map fun n => RelayAction.tell ⟨t.connection.id, n⟩).filterMap
      RelayAction.traffic? = [] := by
    refine List.filterMap_eq_nil_iff.2 fun action haction => ?_
    obtain ⟨n, -, rfl⟩ := List.mem_map.1 haction
    rfl
  rw [Turn.traffic, hactions, List.filterMap_append, hnone, List.append_nil, Turn.traffic]

theorem news (h : Passed t t') :
    ∃ told : List RelayNews, (∀ n ∈ told, n.isOngoing = true) ∧ t'.news = t.news ++ told := by
  obtain ⟨told, htold, hactions⟩ := h.actions
  refine ⟨told, htold, ?_⟩
  have hsame : (fun n => RelayAction.tell ⟨t.connection.id, n⟩) =
      fun n => RelayAction.tell (RelayEvent.mk t.connection.id n) := rfl
  rw [Turn.news, hactions, List.filterMap_append, List.filterMap_map, Turn.news]
  congr 1
  exact List.filterMap_some

end Passed

/-! ## The four outcomes -/

/-- What an input does to a turn in which a socket is served. -/
inductive Outcome (t : Turn) (link : Link) : RelayInput → Turn → Prop
  /-- News pass. -/
  | passes {input : RelayInput} {t' : Turn} (h : Passed t t')
    (hinbox : input = .takeRequest → t.connection.inbox = []) : Outcome t link input t'
  /-- A request is taken from the inbox. -/
  | takes {request : RelayRequest} {rest : List RelayRequest}
    (hinbox : t.connection.inbox = request :: rest) :
    Outcome t link .takeRequest
      ((t.update fun c => { c with inbox := rest }).carryOut link request)
  /-- A command was sent. -/
  | acknowledges : Outcome t link (.sent link.socket (.ok ())) (t.acknowledge link)
  /-- The link ends. -/
  | ends {input : RelayInput} {t' : Turn} (h : Passed t t') (why : LinkEnd)
    (hinput : input ≠ .takeRequest)
    (hclosed : why = .closed → t.connection.cancelled = true ∨ t.connection.listening = false)
    (hstale : why = .staleAddress ↔ input = .takeAnswer ∧ t.connection.isStale = true) :
    Outcome t link input (t'.endLink link why)

theorem passed_complete {frame : InboundFrame} (h : frame.passes t.connection.state = true) :
    Passed t (t.complete frame) := by
  rw [complete]
  split
  · rename_i hanswer
    obtain ⟨code, text, rfl⟩ | ⟨answer, rfl, hs⟩ | ⟨hother, -⟩ := InboundFrame.passes_cases h
    · cases hanswer
    · exact .answered hs
    · rw [hother] at hanswer
      cases hanswer
  · exact .refl t

theorem outcome_served (hserved : Served t link input t') : Outcome t link input t' := by
  cases hserved with
  | stays _ hinbox => exact .passes (.refl t) hinbox
  | arrives => exact .passes (.of_answers t _ t.cache) (by simp)
  | takes hinbox => exact .takes hinbox
  | acknowledges => exact .acknowledges
  | tells _ hpasses _ => exact .passes ((passed_complete hpasses).trans (.tell _ rfl)) (by simp)
  | unheard _ hpasses hdeaf =>
    exact .ends (passed_complete hpasses) .closed (by simp) (fun _ => Or.inr hdeaf) (by simp)
  | ignores => exact .passes (.of_answers t _ t.cache) (by simp)
  | learns => exact .passes (.of_answers t _ _) (by simp)
  | replaces hstale =>
    exact .ends (.of_answers t _ _) .staleAddress (by simp) (by simp)
      (iff_of_true rfl ⟨rfl, hstale.isStale⟩)
  | loses hfails =>
    have hinput : input ≠ .takeRequest ∧ input ≠ .takeAnswer := by
      constructor <;> rintro rfl <;> cases hfails
    exact .ends (.refl t) .lost hinput.1 (by simp) (by simp [hinput.2])
  | hangsUp hcancelled =>
    exact .ends (.refl t) .closed (by simp) (fun _ => Or.inl hcancelled) (by simp)

/-- Every input to a connection that serves a socket has one of the four outcomes. -/
theorem outcome_step (hphase : t.connection.phase = .serving link) (input : RelayInput) :
    Outcome t link input (t.step input) :=
  outcome_served (served_step hphase input)

end Turn
end GroupCall
