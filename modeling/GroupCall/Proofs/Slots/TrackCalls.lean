/-
# What the track of a slot is told

The calls that receive slots make on their tracks are followed one by one here, not only the
state to which they lead.  A track is shown as a participant only while it is not shown as
another one, and it is given a context only directly behind the removal of the context before,
also where only the IV changes.  So between two operations the calls that a track has seen tell
which assignment its slot holds, and no other track sees any of them.
-/
import GroupCall.Proofs.Histories
import GroupCall.Proofs.Slots.SetUp

namespace GroupCall

/-! ## Calls in a row -/

namespace TrackCall

/-- Whom a call shows a track as, if it is about that. -/
def display? : TrackCall → Option (Option Cid)
  | .attach cid => some (some cid)
  | .detach => some none
  | _ => none

/-- Which context a call leaves a track with, if it is about that. -/
def context? : TrackCall → Option (Option FrameCrypto)
  | .setCrypto crypto => some crypto
  | _ => none

end TrackCall

/-- Whom a track is shown as after some calls. -/
def shownAfter (calls : List TrackCall) : Option Cid :=
  (calls.filterMap TrackCall.display?).getLast?.join

/-- Which context a track has after some calls; nothing if none of them is about that. -/
def contextAfter (calls : List TrackCall) : Option (Option FrameCrypto) :=
  (calls.filterMap TrackCall.context?).getLast?

/-- Whether a call may come behind those that a track has seen.  A track is shown as somebody only
if it is shown as nobody, it is no longer shown only if it was, and a context for frames that
arrive is installed directly behind the removal of the one before. -/
def TrackCall.MayFollow (before : List TrackCall) : TrackCall → Prop
  | .attach _ => shownAfter before = none
  | .detach => shownAfter before ≠ none
  | .setCrypto (some context) =>
    before.getLast? = some (.setCrypto none) ∧ ∃ iv session, context = .decrypt iv session
  | .setCrypto none => True
  | .enable _ => True

/-- Every call may come behind those before it. -/
def Proper (calls : List TrackCall) : Prop :=
  Throughout (fun before call => call.MayFollow before) calls

variable {calls more : List TrackCall}

@[simp] theorem shownAfter_concat (calls : List TrackCall) (call : TrackCall) :
    shownAfter (calls ++ [call]) = call.display?.getD (shownAfter calls) := by
  rw [shownAfter, List.filterMap_append]
  cases h : call.display? with
  | none => simp [h, shownAfter]
  | some display => simp [h]

@[simp] theorem contextAfter_concat (calls : List TrackCall) (call : TrackCall) :
    contextAfter (calls ++ [call]) = call.context?.or (contextAfter calls) := by
  rw [contextAfter, List.filterMap_append]
  cases h : call.context? with
  | none => simp [h, contextAfter]
  | some context => simp [h]

theorem contextAfter_append (h : ∀ call ∈ more, call.context? = none) :
    contextAfter (calls ++ more) = contextAfter calls := by
  rw [contextAfter, contextAfter, List.filterMap_append, List.filterMap_eq_nil_iff.2 h,
    List.append_nil]

theorem proper_nil : Proper [] := throughout_nil _

theorem Proper.concat {call : TrackCall} (h : Proper calls) (hcall : call.MayFollow calls) :
    Proper (calls ++ [call]) := throughout_concat.2 ⟨h, hcall⟩

namespace MediaTracks

variable {ts : MediaTracks}

/-- The calls that the track at a place has seen, oldest first. -/
def callsAt (ts : MediaTracks) (place : Nat) : List TrackCall :=
  ts.log.filterMap fun e => if e.1 = place then some e.2 else none

/-- Some calls are made on the track at a place. -/
def callEach (ts : MediaTracks) (place : Nat) (calls : List TrackCall) : MediaTracks :=
  calls.foldl (fun ts c => ts.call place c) ts

theorem callEach_append (ts : MediaTracks) (place : Nat) (calls more : List TrackCall) :
    ts.callEach place (calls ++ more) = (ts.callEach place calls).callEach place more :=
  List.foldl_append

theorem callsAt_call (ts : MediaTracks) (place q : Nat) (c : TrackCall) :
    (ts.call place c).callsAt q = ts.callsAt q ++ if q = place then [c] else [] := by
  rw [callsAt, call, List.filterMap_append]
  by_cases h : q = place
  · simp [h, callsAt]
  · simp [h, Ne.symm h, callsAt]

/-- Calls on one track are seen by this one and by no other. -/
theorem callsAt_callEach (ts : MediaTracks) (place q : Nat) (calls : List TrackCall) :
    (ts.callEach place calls).callsAt q = ts.callsAt q ++ if q = place then calls else [] := by
  induction calls generalizing ts with
  | nil => simp [callEach]
  | cons c rest ih =>
    refine (ih (ts.call place c)).trans ?_
    rw [callsAt_call, List.append_assoc]
    by_cases h : q = place <;> simp [h]

@[simp] theorem build_callEach (ts : MediaTracks) (place : Nat) (calls : List TrackCall) :
    (ts.callEach place calls).build = ts.build := by
  induction calls generalizing ts with
  | nil => rfl
  | cons c rest ih => exact (ih (ts.call place c)).trans (build_call ts place c)

theorem get?_callEach_of_ne {place q : Nat} (h : q ≠ place) (calls : List TrackCall) :
    (ts.callEach place calls).get? q = ts.get? q := by
  induction calls generalizing ts with
  | nil => rfl
  | cons c rest ih => exact ih.trans (by simp [h])

/-- The number of the track at a place. -/
def midAt (ts : MediaTracks) (place : Nat) : Option Mid := (ts.get? place).bind MediaTrack.mid

theorem midAt_eq (ts : MediaTracks) (place : Nat) :
    ts.midAt place = (ts.build place).bind Prod.fst := by
  rw [midAt, build, Option.bind_map]
  rfl

end MediaTracks

/-! ## What an operation on a slot tells its track -/

/-- What a receive slot is assigned to. -/
structure Assignment where
  /-- The participant. -/
  cid : Cid
  /-- The IV of the frames. -/
  iv : InitVector
  /-- The session that has the keys. -/
  session : Nat
deriving DecidableEq, Repr

/-- The context for the frames that arrive. -/
def Assignment.context (a : Assignment) : FrameCrypto := .decrypt a.iv a.session

/-- The calls that switch a track, given whether it is on. -/
def switching (was on : Bool) : List TrackCall := if was = on then [] else [.enable on]

theorem MediaTracks.switch_eq (ts : MediaTracks) (place : Nat) (on : Bool) :
    ts.switch place on = ts.callEach place (switching (ts.isEnabled place) on) := by
  rw [switch, switching]
  split <;> rfl

theorem context?_of_mem_switching {was on : Bool} {call : TrackCall} (h : call ∈ switching was on) :
    call.context? = none := by
  rw [switching] at h
  split at h
  · cases h
  · obtain rfl := List.mem_singleton.1 h
    rfl

theorem proper_switching (h : Proper calls) (was on : Bool) :
    Proper (calls ++ switching was on) := by
  rw [switching]
  split
  · rwa [List.append_nil]
  · exact h.concat trivial

theorem shownAfter_switching (calls : List TrackCall) (was on : Bool) :
    shownAfter (calls ++ switching was on) = shownAfter calls := by
  rw [switching]
  split
  · rw [List.append_nil]
  · exact shownAfter_concat calls _

namespace Slot

variable {s : Slot} {ts : MediaTracks}

/-- The calls that show the track of a slot as a participant. -/
def showing (s : Slot) (cid : Cid) : List TrackCall :=
  match s.cid with
  | none => [.attach cid]
  | some previous => if previous = cid then [] else [.detach, .attach cid]

theorem attach_eq (s : Slot) (cid : Cid) (ts : MediaTracks) :
    s.attach cid ts = ts.callEach s.track (s.showing cid) := by
  cases h : s.cid with
  | none =>
    rw [attach, showing, h]
    rfl
  | some previous =>
    by_cases heq : previous = cid
    · simp [attach, showing, h, heq, MediaTracks.callEach]
    · simp [attach, showing, h, heq, MediaTracks.callEach]

theorem context?_of_mem_showing {cid : Cid} {call : TrackCall} (h : call ∈ s.showing cid) :
    call.context? = none := by
  rw [showing] at h
  split at h
  · obtain rfl := List.mem_singleton.1 h
    rfl
  · split at h
    · cases h
    · simp only [List.mem_cons, List.not_mem_nil, or_false] at h
      obtain rfl | rfl := h <;> rfl

/-- A track is shown as its new participant after it was shown as nobody. -/
theorem proper_showing (h : Proper calls) (hshown : shownAfter calls = s.cid) (cid : Cid) :
    Proper (calls ++ s.showing cid) ∧ shownAfter (calls ++ s.showing cid) = some cid := by
  rw [showing]
  cases hcid : s.cid with
  | none =>
    rw [hcid] at hshown
    exact ⟨h.concat hshown, shownAfter_concat calls _⟩
  | some previous =>
    rw [hcid] at hshown
    dsimp only
    split
    · rename_i heq
      rw [List.append_nil]
      exact ⟨h, heq ▸ hshown⟩
    · -- another one is shown until the track is told to stop
      have hgone : shownAfter (calls ++ [.detach]) = none := shownAfter_concat calls _
      have hfirst : Proper (calls ++ [.detach]) := h.concat (by simp [TrackCall.MayFollow, hshown])
      rw [List.append_cons]
      exact ⟨hfirst.concat hgone, shownAfter_concat _ _⟩

/-- What the track of a slot is told when the slot is assigned, given whether it is on. -/
def assigning (s : Slot) (a : Assignment) (on : Bool) : List TrackCall :=
  .setCrypto none :: .setCrypto (some a.context) :: (s.showing a.cid ++ switching on true)

/-- What it is told when the slot is released: nothing if it serves nobody. -/
def releasing (s : Slot) (on : Bool) : List TrackCall :=
  if s.cid.isSome then .setCrypto none :: .detach :: switching on false else []

theorem assign_eq (s : Slot) (a : Assignment) (ts : MediaTracks) :
    s.assign a.cid a.iv a.session ts =
      ({ s with cid := some a.cid, iv := some a.iv },
        ts.callEach s.track (s.assigning a (ts.isEnabled s.track))) := by
  have hon : (s.attach a.cid ((ts.call s.track (.setCrypto none)).call s.track
      (.setCrypto (some (.decrypt a.iv a.session))))).isEnabled s.track =
        ts.isEnabled s.track := by
    simp only [MediaTracks.isEnabled, get?_attach, MediaTracks.get?_call, if_true]
    cases ts.get? s.track <;> rfl
  rw [assign, MediaTracks.switch_eq, hon, attach_eq, ← MediaTracks.callEach_append]
  rfl

theorem release_eq (s : Slot) (ts : MediaTracks) :
    s.release ts = (s.vacated, ts.callEach s.track (s.releasing (ts.isEnabled s.track))) := by
  have hon : ((ts.call s.track (.setCrypto none)).call s.track .detach).isEnabled s.track =
      ts.isEnabled s.track := by
    simp only [MediaTracks.isEnabled, MediaTracks.get?_call, if_true]
    cases ts.get? s.track <;> rfl
  refine Prod.ext (release_fst s ts) ?_
  cases hcid : s.cid with
  | none => simp [release, releasing, hcid, MediaTracks.callEach]
  | some cid =>
    rw [release, releasing, hcid]
    dsimp only
    rw [MediaTracks.switch_eq, hon]
    rfl

@[simp] theorem cid_vacated (s : Slot) : s.vacated.cid = none := by
  cases h : s.cid <;> simp [vacated, h]

@[simp] theorem track_vacated (s : Slot) : s.vacated.track = s.track := by
  rw [← release_fst s .empty, track_release]

/-- A slot that was released has nothing to be released from. -/
theorem releasing_vacated (s : Slot) (on : Bool) : s.vacated.releasing on = [] := by
  simp [releasing]

theorem isEnabled_assigning {t : MediaTrack} (h : ts.get? s.track = some t) (a : Assignment) :
    (ts.callEach s.track (s.assigning a (ts.isEnabled s.track))).isEnabled s.track = true := by
  have hsnd : (s.assign a.cid a.iv a.session ts).2 =
      ts.callEach s.track (s.assigning a (ts.isEnabled s.track)) := by rw [assign_eq]
  rw [MediaTracks.isEnabled, ← hsnd, get?_assign, if_pos rfl, h]
  rfl

/-- A track is off once its slot was released. -/
theorem isEnabled_releasing (s : Slot) (ts : MediaTracks) :
    (ts.callEach s.track (s.releasing (ts.isEnabled s.track))).isEnabled s.track =
      (ts.isEnabled s.track && s.cid.isNone) := by
  have hsnd : (s.release ts).2 =
      ts.callEach s.track (s.releasing (ts.isEnabled s.track)) := by rw [release_eq]
  rw [← hsnd]
  simp only [MediaTracks.isEnabled, get?_release]
  cases s.cid <;> cases ts.get? s.track <;> simp [MediaTrack.idle]

/-! ## What the calls tell of an assignment -/

/-- The calls that a track has seen, and whether it is on, fit the last word on the assignment of
its slot. -/
structure Told (s : Slot) (calls : List TrackCall) (on : Bool)
    (word : Option (Option Assignment)) : Prop where
  /-- The slot serves the participant to which it is assigned. -/
  cid_eq : s.cid = word.join.map Assignment.cid
  /-- It knows the IV. -/
  iv_eq : s.iv = word.join.map Assignment.iv
  /-- Every call may come behind those before it. -/
  proper : Proper calls
  /-- The track is shown as the participant that the slot serves, and otherwise as nobody. -/
  shown : shownAfter calls = s.cid
  /-- It has the context of the assignment; if there is none any more, the last one was removed. -/
  context : contextAfter calls = word.map (Option.map Assignment.context)
  /-- It is on as long as the slot is assigned, and off since it was released. -/
  switched : ∀ now, word = some now → on = now.isSome
  /-- It is left alone until the slot is assigned. -/
  quiet : word = none → calls = []

variable {word : Option (Option Assignment)} {on now : Bool}

theorem told_new (track : Nat) (on : Bool) : (new track).Told [] on none := by
  refine ⟨rfl, rfl, proper_nil, rfl, rfl, fun now hnow => ?_, fun _ => rfl⟩
  cases hnow

theorem Told.assign (h : s.Told calls on word) (a : Assignment) :
    Told { s with cid := some a.cid, iv := some a.iv } (calls ++ s.assigning a on) true
      (some (some a)) := by
  -- the old context goes and the new one comes before anything is done to the display
  have hremoved : Proper (calls ++ [.setCrypto none]) := h.proper.concat trivial
  have hgiven : Proper (calls ++ [.setCrypto none] ++ [.setCrypto (some a.context)]) :=
    hremoved.concat ⟨List.getLast?_concat, a.iv, a.session, rfl⟩
  have hcid : shownAfter (calls ++ [.setCrypto none] ++ [.setCrypto (some a.context)]) = s.cid := by
    rw [shownAfter_concat, shownAfter_concat]
    exact h.shown
  obtain ⟨hproper, hshown⟩ := proper_showing hgiven hcid a.cid
  have hcalls : calls ++ s.assigning a on =
      calls ++ [.setCrypto none] ++ [.setCrypto (some a.context)] ++ s.showing a.cid ++
        switching on true := by
    simp [assigning]
  rw [hcalls]
  refine ⟨rfl, rfl, proper_switching hproper on true, ?_, ?_, fun now hnow => ?_, fun hnone => ?_⟩
  · rw [shownAfter_switching, hshown]
  · rw [contextAfter_append fun _ => context?_of_mem_switching,
      contextAfter_append fun _ => context?_of_mem_showing, contextAfter_concat]
    rfl
  · cases hnow
    rfl
  · cases hnone

theorem Told.release (h : s.Told calls on word) :
    s.vacated.Told (calls ++ s.releasing on) (on && s.cid.isNone) (word.map fun _ => none) := by
  have hjoin := h.cid_eq
  cases hcid : s.cid with
  | none =>
    -- of a slot that serves nobody the last word is not that it was assigned
    have hword : (word.map fun _ => none) = word := by
      rw [hcid] at hjoin
      rcases word with _ | _ | a
      · rfl
      · rfl
      · cases hjoin
    simpa [vacated, releasing, hcid, hword] using h
  | some cid =>
    have hword : (word.map fun _ => none) = some (none : Option Assignment) := by
      rw [hcid] at hjoin
      cases word with
      | none => cases hjoin
      | some now => rfl
    have hremoved : Proper (calls ++ [.setCrypto none]) := h.proper.concat trivial
    have hkept : shownAfter (calls ++ [.setCrypto none]) = shownAfter calls :=
      shownAfter_concat calls _
    have hshown : shownAfter (calls ++ [.setCrypto none]) ≠ none := by
      rw [hkept, h.shown, hcid]
      exact Option.some_ne_none cid
    have hgone : Proper (calls ++ [.setCrypto none] ++ [.detach]) := hremoved.concat hshown
    have hcalls : calls ++ s.releasing on =
        calls ++ [.setCrypto none] ++ [.detach] ++ switching on false := by
      simp [releasing, hcid]
    rw [hcalls, hword]
    refine ⟨cid_vacated s, ?_, proper_switching hgone on false, ?_, ?_, fun now hnow => ?_,
      fun hnone => ?_⟩
    · simp [vacated, hcid]
    · have hlast : shownAfter (calls ++ [.setCrypto none] ++ [.detach]) = none :=
        shownAfter_concat _ _
      rw [shownAfter_switching, hlast, cid_vacated]
    · rw [contextAfter_append fun _ => context?_of_mem_switching, contextAfter_concat,
        contextAfter_concat]
      rfl
    · cases hnow
      exact Bool.and_false on
    · cases hnone

end Slot

/-! ## Operations on the slots of a call -/

/-- Something that is done to the receive slots. -/
inductive SlotStep where
  /-- The slot of a number is assigned. -/
  | assign (mid : Mid) (a : Assignment)
  /-- The slot of a number is released. -/
  | release (mid : Mid)
  /-- All slots are released. -/
  | releaseAll
deriving DecidableEq, Repr

namespace SlotStep

/-- The number whose slot a step is about, unless it is about all. -/
def mid? : SlotStep → Option Mid
  | .assign mid _ => some mid
  | .release mid => some mid
  | .releaseAll => none

/-- The last word on the assignment of a number after one more step.  To release what was never
assigned is no word on it. -/
def wordAfter (mid : Mid) (word : Option (Option Assignment)) :
    SlotStep → Option (Option Assignment)
  | .assign other a => if mid = other then some (some a) else word
  | .release other => if mid = other then word.map fun _ => none else word
  | .releaseAll => word.map fun _ => none

end SlotStep

/-- The last word of a run on the assignment of a number: that it was assigned, that it was
released since, or none at all. -/
def lastWord (steps : List SlotStep) (mid : Mid) : Option (Option Assignment) :=
  steps.foldl (SlotStep.wordAfter mid) none

namespace Slots

/-- The slots and the tracks after a step. -/
def take (s : Slots) (ts : MediaTracks) : SlotStep → Slots × MediaTracks
  | .assign mid a => ((s.assign mid a.cid a.iv a.session ts).map Prod.snd).getD (s, ts)
  | .release mid => s.release mid ts
  | .releaseAll => s.releaseAll ts

/-- The slots and the tracks after a run. -/
def run (s : Slots) (ts : MediaTracks) (steps : List SlotStep) : Slots × MediaTracks :=
  steps.foldl (fun acc step => acc.1.take acc.2 step) (s, ts)

variable {s : Slots} {ts start : MediaTracks} {mid : Mid} {slot : Slot}

theorem take_assign_of_some (h : s.recv.get? mid = some slot) (a : Assignment) :
    s.take ts (.assign mid a) =
      s.put mid ({ slot with cid := some a.cid, iv := some a.iv },
        ts.callEach slot.track (slot.assigning a (ts.isEnabled slot.track))) := by
  rw [take, assign, h, ← Slot.assign_eq]
  rfl

theorem release_of_some (h : s.recv.get? mid = some slot) (ts : MediaTracks) :
    s.release mid ts =
      s.put mid (slot.vacated,
        ts.callEach slot.track (slot.releasing (ts.isEnabled slot.track))) := by
  rw [release, h, ← Slot.release_eq]

/-- A number without a slot changes nothing. -/
theorem take_of_unknown {step : SlotStep} (h : s.recv.get? mid = none)
    (hstep : step.mid? = some mid) : s.take ts step = (s, ts) := by
  cases step with
  | assign other a =>
    obtain rfl := Option.some.inj hstep
    rw [take, assign, h]
    rfl
  | release other =>
    obtain rfl := Option.some.inj hstep
    rw [take, release, h]
  | releaseAll => cases hstep

/-- A step that is about one number stores its slot and makes calls on its track. -/
theorem take_of_known {step : SlotStep} (h : s.recv.get? mid = some slot)
    (hstep : step.mid? = some mid) (ts : MediaTracks) :
    ∃ slot' calls, s.take ts step = s.put mid (slot', ts.callEach slot.track calls) := by
  cases step with
  | assign other a =>
    obtain rfl := Option.some.inj hstep
    exact ⟨_, _, take_assign_of_some h a⟩
  | release other =>
    obtain rfl := Option.some.inj hstep
    exact ⟨_, _, release_of_some h ts⟩
  | releaseAll => cases hstep

/-- It leaves every other slot alone, and the tracks at every other place. -/
theorem take_of_ne {step : SlotStep} {place : Nat} (hstep : step.mid? = some mid)
    (hplace : ∀ slot, s.recv.get? mid = some slot → slot.track ≠ place) (ts : MediaTracks) :
    (∀ other ≠ mid, (s.take ts step).1.recv.get? other = s.recv.get? other) ∧
      (s.take ts step).2.callsAt place = ts.callsAt place ∧
      (s.take ts step).2.isEnabled place = ts.isEnabled place := by
  cases hget : s.recv.get? mid with
  | none =>
    rw [take_of_unknown hget hstep]
    exact ⟨fun _ _ => rfl, rfl, rfl⟩
  | some slot =>
    obtain ⟨slot', calls, htake⟩ := take_of_known hget hstep ts
    have hne : place ≠ slot.track := (hplace slot hget).symm
    rw [htake, Slots.put]
    refine ⟨fun other hother => ?_, ?_, ?_⟩
    · rw [Table.get?_insert, if_neg hother]
    · rw [MediaTracks.callsAt_callEach, if_neg hne, List.append_nil]
    · rw [MediaTracks.isEnabled, MediaTracks.get?_callEach_of_ne hne, MediaTracks.isEnabled]

/-! ## Every slot by itself -/

/-- The slots of a call and their tracks, at the given places, after some words on what each
number is assigned to; `start` is how the tracks stood at first. -/
structure Tended (start : MediaTracks) (places : Mid → Option Nat)
    (words : Mid → Option (Option Assignment)) (s : Slots) (ts : MediaTracks) : Prop where
  /-- Slots keep their places. -/
  place_eq : ∀ mid, (s.recv.get? mid).map Slot.track = places mid
  /-- The track at the place of a slot has its number. -/
  midAt_eq : ∀ mid place, places mid = some place → ts.midAt place = some mid
  /-- What the track of a slot was told fits the last word on it. -/
  told : ∀ mid slot, s.recv.get? mid = some slot →
    ∃ calls, ts.callsAt slot.track = start.callsAt slot.track ++ calls ∧
      slot.Told calls (ts.isEnabled slot.track) (words mid)
  /-- No other track was told anything. -/
  spared : ∀ place, (∀ mid, places mid ≠ some place) → ts.callsAt place = start.callsAt place

variable {places : Mid → Option Nat} {words : Mid → Option (Option Assignment)}

/-- New slots have not told their tracks anything. -/
theorem tended_new (vthumb hires audio : Nat) (recv : List Nat) (start : MediaTracks) :
    Tended start (fun mid => ((new vthumb hires audio recv start).recv.get? mid).map Slot.track)
      (fun _ => none) (new vthumb hires audio recv start) start where
  place_eq _ := rfl
  midAt_eq mid place hplace := by
    obtain ⟨slot, hslot, rfl⟩ := Option.map_eq_some_iff.1 hplace
    obtain ⟨_, _, rfl, hmid⟩ := get?_recv_new hslot
    exact hmid
  told mid slot hslot := by
    obtain ⟨_, _, rfl, _⟩ := get?_recv_new hslot
    exact ⟨[], (List.append_nil _).symm, Slot.told_new _ _⟩
  spared _ _ := rfl

namespace Tended

/-- Only the words on numbers that have slots count. -/
theorem congr (h : s.Tended start places words ts) {words' : Mid → Option (Option Assignment)}
    (hwords : ∀ mid, (s.recv.get? mid).isSome → words' mid = words mid) :
    s.Tended start places words' ts where
  place_eq := h.place_eq
  midAt_eq := h.midAt_eq
  told mid slot hslot := by
    rw [hwords mid (Option.isSome_of_eq_some hslot)]
    exact h.told mid slot hslot
  spared := h.spared

/-- So a word on a number without a slot changes nothing. -/
theorem of_unknown (h : s.Tended start places words ts) (hget : s.recv.get? mid = none)
    (word : Option (Option Assignment)) :
    s.Tended start places (fun m => if m = mid then word else words m) ts := by
  refine h.congr fun m hm => if_neg ?_
  rintro rfl
  rw [hget] at hm
  cases hm

theorem place_of_get? (h : s.Tended start places words ts) (hget : s.recv.get? mid = some slot) :
    places mid = some slot.track := by
  rw [← h.place_eq, hget]
  rfl

/-- Two slots do not have one track. -/
theorem track_inj (h : s.Tended start places words ts) {other : Mid} {slot' : Slot}
    (hget : s.recv.get? mid = some slot) (hother : s.recv.get? other = some slot')
    (heq : slot.track = slot'.track) : mid = other := by
  have hmid := h.midAt_eq mid slot.track (h.place_of_get? hget)
  have hmid' := h.midAt_eq other slot'.track (h.place_of_get? hother)
  rw [heq] at hmid
  exact Option.some.inj (hmid.symm.trans hmid')

/-- The track of a slot is there. -/
theorem exists_track (h : s.Tended start places words ts) (hget : s.recv.get? mid = some slot) :
    ∃ t, ts.get? slot.track = some t := by
  have hmid := h.midAt_eq mid slot.track (h.place_of_get? hget)
  obtain ⟨t, ht, -⟩ := Option.bind_eq_some_iff.1 hmid
  exact ⟨t, ht⟩

/-- One slot changes and tells its track, after one more word on its number. -/
theorem put (h : s.Tended start places words ts) (hget : s.recv.get? mid = some slot)
    (slot' : Slot) (htrack : slot'.track = slot.track) {more : List TrackCall}
    {word : Option (Option Assignment)}
    (htold : ∀ calls, slot.Told calls (ts.isEnabled slot.track) (words mid) →
      slot'.Told (calls ++ more) ((ts.callEach slot.track more).isEnabled slot.track) word) :
    (s.put mid (slot', ts.callEach slot.track more)).1.Tended start places
      (fun m => if m = mid then word else words m) (ts.callEach slot.track more) where
  place_eq m := by
    rw [Slots.put, Table.get?_insert]
    split
    · rename_i heq
      rw [heq, ← h.place_eq, hget, Option.map_some, Option.map_some, htrack]
    · exact h.place_eq m
  midAt_eq m place hplace := by
    rw [MediaTracks.midAt_eq, MediaTracks.build_callEach, ← MediaTracks.midAt_eq]
    exact h.midAt_eq m place hplace
  told m slot'' hslot := by
    rw [Slots.put, Table.get?_insert] at hslot
    rw [MediaTracks.callsAt_callEach]
    split at hslot
    · -- the slot that changes
      rename_i heq
      obtain rfl := Option.some.inj hslot
      obtain ⟨calls, hcalls, hbefore⟩ := h.told mid slot hget
      rw [htrack, if_pos rfl, if_pos heq, hcalls]
      exact ⟨calls ++ more, List.append_assoc _ _ _, htold calls hbefore⟩
    · -- any other slot has another track, which sees nothing and stays as it is
      rename_i hne
      have hplace : slot''.track ≠ slot.track := fun heq => hne (h.track_inj hslot hget heq)
      rw [if_neg hplace, if_neg hne, List.append_nil, MediaTracks.isEnabled,
        MediaTracks.get?_callEach_of_ne hplace]
      exact h.told m slot'' hslot
  spared place hplace := by
    have hne : place ≠ slot.track := by
      rintro rfl
      exact hplace mid (h.place_of_get? hget)
    rw [MediaTracks.callsAt_callEach, if_neg hne, List.append_nil]
    exact h.spared place hplace

theorem assign (h : s.Tended start places words ts) (hget : s.recv.get? mid = some slot)
    (a : Assignment) :
    (s.take ts (.assign mid a)).1.Tended start places
      (fun m => if m = mid then some (some a) else words m) (s.take ts (.assign mid a)).2 := by
  obtain ⟨t, ht⟩ := h.exists_track hget
  rw [take_assign_of_some hget]
  refine h.put hget { slot with cid := some a.cid, iv := some a.iv } rfl fun calls hcalls => ?_
  rw [Slot.isEnabled_assigning ht]
  exact hcalls.assign a

/-- To release a slot is a word on it only if it was assigned before. -/
theorem release (h : s.Tended start places words ts) (mid : Mid) :
    (s.release mid ts).1.Tended start places
      (fun m => if m = mid then (words mid).map fun _ => none else words m)
      (s.release mid ts).2 := by
  cases hget : s.recv.get? mid with
  | none =>
    rw [Slots.release, hget]
    exact h.of_unknown hget _
  | some slot =>
    rw [release_of_some hget]
    refine h.put hget slot.vacated slot.track_vacated fun calls hcalls => ?_
    rw [Slot.isEnabled_releasing]
    exact hcalls.release

theorem releaseEach (h : s.Tended start places words ts) (mids : List Mid) :
    (s.releaseEach ts mids).1.Tended start places
      (fun m => if m ∈ mids then (words m).map fun _ => none else words m)
      (s.releaseEach ts mids).2 := by
  induction mids generalizing s ts words with
  | nil => exact h.congr fun m _ => rfl
  | cons mid rest ih =>
    refine (ih (h.release mid)).congr fun m _ => ?_
    by_cases hm : m = mid
    · -- to release it once more is no further word
      subst hm
      by_cases hrest : m ∈ rest <;> simp [hrest, Option.map_map]
      rfl
    · simp [hm]

/-- A number has a slot as long as it had one at first. -/
theorem mem_keys (h : s.Tended start places words ts) :
    mid ∈ s.recv.keys ↔ (places mid).isSome := by
  rw [Table.mem_keys_iff, ← h.place_eq, Option.isSome_map]

theorem releaseAll (h : s.Tended start places words ts) :
    (s.releaseAll ts).1.Tended start places (fun mid => (words mid).map fun _ => none)
      (s.releaseAll ts).2 := by
  have heach := h.releaseEach s.recv.keys
  refine heach.congr fun mid hmid => ?_
  rw [if_pos (h.mem_keys.2 (heach.mem_keys.1 (Table.mem_keys_iff.2 hmid)))]

theorem take (h : s.Tended start places words ts) (step : SlotStep) :
    (s.take ts step).1.Tended start places (fun mid => step.wordAfter mid (words mid))
      (s.take ts step).2 := by
  cases step with
  | assign mid a =>
    cases hget : s.recv.get? mid with
    | none =>
      rw [take_of_unknown hget rfl]
      exact h.of_unknown hget _
    | some slot => exact h.assign hget a
  | release mid =>
    refine (h.release mid).congr fun m _ => ?_
    rw [SlotStep.wordAfter]
    split
    · rename_i heq
      rw [heq]
    · rfl
  | releaseAll => exact h.releaseAll

/-- Along a run every slot is told about by the last word of the run on it. -/
theorem run (h : s.Tended start places words ts) (steps : List SlotStep) :
    (s.run ts steps).1.Tended start places
      (fun mid => steps.foldl (SlotStep.wordAfter mid) (words mid)) (s.run ts steps).2 := by
  induction steps generalizing s ts words with
  | nil => exact h
  | cons step rest ih => exact ih (h.take step)

/-- Releasing several slots tells the track of one of them what releasing it alone tells. -/
theorem callsAt_releaseEach (h : s.Tended start places words ts)
    (hget : s.recv.get? mid = some slot) (mids : List Mid) :
    (s.releaseEach ts mids).2.callsAt slot.track = ts.callsAt slot.track ++
      if mid ∈ mids then slot.releasing (ts.isEnabled slot.track) else [] := by
  induction mids generalizing s ts words slot with
  | nil => exact (List.append_nil _).symm
  | cons m rest ih =>
    change ((s.release m ts).1.releaseEach (s.release m ts).2 rest).2.callsAt slot.track = _
    by_cases hm : mid = m
    · subst hm
      have hvacated : (s.release mid ts).1.recv.get? mid = some slot.vacated := by
        rw [release_of_some hget, Slots.put, Table.get?_insert, if_pos rfl]
      have hrest := ih (h.release mid) hvacated
      -- released once, it is told nothing more
      rw [Slot.track_vacated, Slot.releasing_vacated, ite_self, List.append_nil] at hrest
      rw [hrest, release_of_some hget, Slots.put, MediaTracks.callsAt_callEach, if_pos rfl,
        if_pos List.mem_cons_self]
    · -- the release of another slot is not seen here
      have hplace : ∀ slot', s.recv.get? m = some slot' → slot'.track ≠ slot.track :=
        fun slot' hget' heq => hm (h.track_inj hget hget' heq.symm)
      have hstep : (SlotStep.release m).mid? = some m := rfl
      obtain ⟨hothers, hcalls, hon⟩ := take_of_ne hstep hplace ts
      have hrest := ih (h.release m) ((hothers mid hm).trans hget)
      rw [Slots.take] at hcalls hon
      rw [hrest, hcalls, hon]
      simp [hm]

/-- Releasing all slots tells each track what releasing its slot alone tells. -/
theorem callsAt_releaseAll (h : s.Tended start places words ts)
    (hget : s.recv.get? mid = some slot) :
    (s.releaseAll ts).2.callsAt slot.track =
      ts.callsAt slot.track ++ slot.releasing (ts.isEnabled slot.track) := by
  rw [Slots.releaseAll, h.callsAt_releaseEach hget,
    if_pos (Table.mem_keys_iff.2 (Option.isSome_of_eq_some hget))]

end Tended

/-- **The calls on the tracks of receive slots.**  Slots keep their places, and no two have the
same one.  After any steps the track of a slot has seen calls of which each may come behind those
before it, and these fit the last word of the run on the slot: whom the track is shown as, which
context it has, and whether it is on.  To assign a slot removes the context of its track and then
installs that of the assignment; to release it, alone or with all others, removes the context,
and tells nothing if the slot serves nobody.  A number without a slot changes nothing, and what is
done under one number makes no call on the track of another. -/
theorem calls_along_runs (vthumb hires audio : Nat) (recv : List Nat) (start : MediaTracks)
    (steps : List SlotStep) :
    let first := new vthumb hires audio recv start
    let s := (first.run start steps).1
    let ts := (first.run start steps).2
    (∀ mid, (s.recv.get? mid).map Slot.track = (first.recv.get? mid).map Slot.track) ∧
    (∀ mid other slot slot', s.recv.get? mid = some slot → s.recv.get? other = some slot' →
      slot.track = slot'.track → mid = other) ∧
    (∀ mid slot, s.recv.get? mid = some slot →
      ∃ calls, ts.callsAt slot.track = start.callsAt slot.track ++ calls ∧
        slot.Told calls (ts.isEnabled slot.track) (lastWord steps mid)) ∧
    (∀ place, (∀ mid slot, s.recv.get? mid = some slot → slot.track ≠ place) →
      ts.callsAt place = start.callsAt place) ∧
    (∀ mid slot a, s.recv.get? mid = some slot →
      (s.take ts (.assign mid a)).2.callsAt slot.track =
        ts.callsAt slot.track ++ slot.assigning a (ts.isEnabled slot.track)) ∧
    (∀ mid slot step, s.recv.get? mid = some slot → step = .release mid ∨ step = .releaseAll →
      (s.take ts step).2.callsAt slot.track =
        ts.callsAt slot.track ++ slot.releasing (ts.isEnabled slot.track)) ∧
    (∀ mid step, step.mid? = some mid → s.recv.get? mid = none → s.take ts step = (s, ts)) ∧
    (∀ mid step place, step.mid? = some mid →
      (∀ slot, s.recv.get? mid = some slot → slot.track ≠ place) →
      (s.take ts step).2.callsAt place = ts.callsAt place) := by
  intro first s ts
  have h := (tended_new vthumb hires audio recv start).run steps
  change s.Tended start _ (lastWord steps) ts at h
  refine ⟨h.place_eq, fun mid other slot slot' => h.track_inj, h.told, ?_, ?_, ?_, ?_, ?_⟩
  · intro place hplace
    refine h.spared place fun mid hmid => ?_
    obtain ⟨slot, hslot, htrack⟩ := Option.map_eq_some_iff.1 ((h.place_eq mid).trans hmid)
    exact hplace mid slot hslot htrack
  · intro mid slot a hget
    rw [take_assign_of_some hget, Slots.put, MediaTracks.callsAt_callEach, if_pos rfl]
  · rintro mid slot step hget (rfl | rfl)
    · change (s.release mid ts).2.callsAt slot.track = _
      rw [release_of_some hget, Slots.put, MediaTracks.callsAt_callEach, if_pos rfl]
    · exact h.callsAt_releaseAll hget
  · intro mid step hstep hget
    exact take_of_unknown hget hstep
  · intro mid step place hstep hplace
    exact (take_of_ne hstep hplace ts).2.1

/-- A new IV for the same participant changes the context and nothing else. -/
example (iv iv' : InitVector) :
    (Slot.mk 0 (some 7) (some iv)).assigning ⟨7, iv', 3⟩ true =
      [.setCrypto none, .setCrypto (some (.decrypt iv' 3))] := rfl

end Slots
end GroupCall
