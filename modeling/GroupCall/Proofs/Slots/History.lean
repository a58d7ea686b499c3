/-
# Which tracks were bound

The relay offers tracks in some of its commands.  An offer is bound if the command counts at
the stage of the call and there are such a participant and such a slot; our own sound is
never received.  The history of a run lists what was bound, in the order in which it was
bound, as it can be told from the commands alone, without a look at how slots are kept.
-/
import GroupCall.Proofs.Rewiring
import GroupCall.Proofs.Slots.SetUp

namespace GroupCall

/-- The track of a list as a binding in a role. -/
def CidTrack.binding (t : CidTrack) (role : SlotRole) : Binding := ⟨t.cid, role, t.track⟩

/-- A track that is filed under its participant as a binding in a role. -/
def Binding.filed (role : SlotRole) (e : Cid × TrackDescriptor) : Binding := ⟨e.1, role, e.2⟩

namespace Command

/-- The tracks that a command offers, in the order in which they are bound. -/
def offers : Command → List Binding
  | .answer a =>
    a.vthumbs.entries.map (Binding.filed .vthumb) ++
      a.speakers.entries.map (Binding.filed .audio)
  | .vthumbs tracks => tracks.map fun t => t.binding .vthumb
  | .hires tracks => tracks.map fun t => t.binding .hires
  | .speakOn (some cid) (some track) => [⟨cid, .audio, track⟩]
  | _ => []

/-- The stage at which the offers of a command count. -/
def stage : Command → CallState
  | .answer _ => .joining
  | _ => .inProgress

end Command

namespace Call

/-- Whether a track is bound that is offered: there are such a participant and such a slot,
and it is not our own sound. -/
def admits (c : Call) (b : Binding) : Bool :=
  c.binds b && !(decide (b.role = .audio) && c.isUs b.cid)

/-- What a command of our relay binds that takes the call to another one. -/
def bindingsOf (c after : Call) (command : Command) : List Binding :=
  if c.state = command.stage ∧ after.state = .inProgress then
    command.offers.filter after.admits
  else []

/-- What is bound in a step. -/
def bindings (c : Call) (w : Surroundings) (step : CallStep) : List Binding :=
  match step with
  | .event ⟨connection, .frame (.command command)⟩ =>
    if c.relay = some connection then c.bindingsOf (c.take w step) command else []
  | _ => []

/-- What was bound in a run, first binding first. -/
def history (c : Call) : List (Surroundings × CallStep) → List Binding
  | [] => []
  | step :: rest => c.bindings step.1 step.2 ++ history (c.take step.1 step.2) rest

variable {c c' : Call} {history : List Binding}

theorem bindingsOf_of_offers_eq_nil {command : Command} (h : command.offers = []) (after : Call) :
    c.bindingsOf after command = [] := by
  rw [bindingsOf, h]
  split <;> rfl

/-! ## Admission is not a matter of wiring -/

theorem Rewired.admits_eq (h : Rewired c c') : c'.admits = c.admits := by
  funext b
  rw [admits, admits, h.binds_eq, h.isUs_eq]

theorem SameMedia.binds_eq (h : SameMedia c c') (b : Binding) : c'.binds b = c.binds b := by
  rw [binds, binds, recvSlot?, recvSlot?, h.sessions, h.slots]

theorem SameMedia.admits_eq (h : SameMedia c c') (hus : ∀ cid, c'.isUs cid = c.isUs cid) :
    c'.admits = c.admits := by
  funext b
  rw [admits, admits, h.binds_eq, hus]

theorem admits_setSpeaker (c : Call) (state : SpeakerState) :
    (c.setSpeaker state).admits = c.admits := by
  refine (SameMedia.setSpeaker c state).admits_eq fun cid => ?_
  rw [setSpeaker]
  split <;> rfl

/-- Only our own sound is received from nobody. -/
theorem admits_of_ne_audio {b : Binding} (h : b.role ≠ .audio) : c.admits b = c.binds b := by
  simp [admits, h]

/-! ## Binding one offer after the other -/

namespace Wired

/-- Offers that are bound in turn, by operations that leave the admission of others alone. -/
theorem foldl_binding {α : Type} {bind : Call → α → Call} (offer : α → Binding)
    (hbind : ∀ {history c} (a : α), Wired history [] [] c →
      Wired (history ++ [offer a].filter c.admits) [] [] (bind c a))
    (hadmits : ∀ c a, (bind c a).admits = c.admits) (offered : List α)
    (h : Wired history [] [] c) :
    Wired (history ++ (offered.map offer).filter c.admits) [] [] (offered.foldl bind c) := by
  induction offered generalizing history c with
  | nil => simpa using h
  | cons a rest ih =>
    have hrest := ih (hbind a h)
    rw [hadmits, List.append_assoc, ← List.filter_append] at hrest
    exact hrest

/-- Video is bound whoever sends it. -/
theorem bindVideo (h : Wired history [] [] c) (b : Binding) (hrole : b.role ≠ .audio) :
    Wired (history ++ [b].filter c.admits) [] [] (c.bindTrack b.cid b.track b.role).1 := by
  have hsame : [b].filter c.admits = [b].filter c.binds := by
    simp [List.filter_cons, admits_of_ne_audio hrole]
  rw [hsame]
  exact h.bindTrack b

/-- The sound of others is bound. -/
theorem bindSound (h : Wired history [] [] c) (cid : Cid) (track : TrackDescriptor)
    (hus : c.isUs cid = false) :
    Wired (history ++ [⟨cid, .audio, track⟩].filter c.admits) [] []
      (c.bindTrack cid track .audio).1 := by
  have hsame : [Binding.mk cid .audio track].filter c.admits =
      [Binding.mk cid .audio track].filter c.binds := by
    simp [List.filter_cons, admits, hus]
  rw [hsame]
  exact h.bindTrack ⟨cid, .audio, track⟩

theorem bindListed (h : Wired history [] [] c) (role : SlotRole) (hrole : role ≠ .audio)
    (t : CidTrack) :
    Wired (history ++ [t.binding role].filter c.admits) [] [] (c.bindListed role t).1 := by
  have hbound := h.bindVideo (t.binding role) hrole
  change Wired _ _ _ (c.bindTrack t.cid t.track role).1 at hbound
  rw [Call.bindListed]
  split <;> rename_i heq <;> rw [heq] at hbound
  · exact hbound
  · split
    · exact hbound.releaseRole t.cid .vthumb
    · exact hbound

end Wired

theorem Rewired.bindListed (c : Call) (role : SlotRole) (t : CidTrack) :
    Rewired c (c.bindListed role t).1 := by
  have hbound := Rewired.bindTrack c (t.binding role)
  change Rewired c (c.bindTrack t.cid t.track role).1 at hbound
  rw [Call.bindListed]
  split <;> rename_i heq <;> rw [heq] at hbound
  · exact hbound
  · split
    · exact hbound.trans (Rewired.releaseRole _ t.cid .vthumb)
    · exact hbound

theorem bindTracks_fst (role : SlotRole) (tracks : List CidTrack) (c : Call) :
    (c.bindTracks role tracks).1 = tracks.foldl (fun c t => (c.bindListed role t).1) c := by
  induction tracks generalizing c with
  | nil => rfl
  | cons t rest ih => exact ih _

theorem Rewired.foldl {α : Type} {f : Call → α → Call} (hf : ∀ c a, Rewired c (f c a))
    (l : List α) (c : Call) : Rewired c (l.foldl f c) :=
  foldl_related Rewired.refl Rewired.trans hf l c

theorem Rewired.bindTracks (c : Call) (role : SlotRole) (tracks : List CidTrack) :
    Rewired c (c.bindTracks role tracks).1 := by
  rw [bindTracks_fst]
  exact Rewired.foldl (fun c t => Rewired.bindListed c role t) tracks c

namespace Wired

theorem bindTracks (h : Wired history [] [] c) (role : SlotRole) (hrole : role ≠ .audio)
    (tracks : List CidTrack) :
    Wired (history ++ (tracks.map fun t => t.binding role).filter c.admits) [] []
      (c.bindTracks role tracks).1 := by
  rw [bindTracks_fst]
  exact foldl_binding (fun t => t.binding role) (fun t h => h.bindListed role hrole t)
    (fun c t => (Rewired.bindListed c role t).admits_eq) tracks h

/-! ## The answer -/

theorem admitSpeaker (h : Wired history [] [] c) (cid : Cid) (track : TrackDescriptor) :
    Wired (history ++ [⟨cid, .audio, track⟩].filter c.admits) [] [] (c.admitSpeaker cid track) := by
  rw [Call.admitSpeaker]
  split
  · rename_i hus
    have hnone : [Binding.mk cid .audio track].filter c.admits = [] := by
      simp [admits, hus]
    exact (h.of_sameMedia (SameMedia.setSpeaker c .active)).append_nil hnone
  · rename_i hus
    exact h.bindSound cid track (by simpa using hus)

end Wired

theorem admits_admitSpeaker (c : Call) (cid : Cid) (track : TrackDescriptor) :
    (c.admitSpeaker cid track).admits = c.admits := by
  rw [admitSpeaker]
  split
  · exact admits_setSpeaker c .active
  · exact (Rewired.bindTrack c ⟨cid, .audio, track⟩).admits_eq

end Call
end GroupCall
