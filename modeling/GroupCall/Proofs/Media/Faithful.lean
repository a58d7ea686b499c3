/-
# Offers are faithful

Tracks are asked of an engine, things are done to them, and the engine is closed now and then.
Whatever was done, an offer is accepted and lists exactly the tracks that were asked for since the
engine was last closed, in their order and under ascending numbers.  A track that only receives
comes without sources, any other one with a source, or with a pair of them if it is a video track;
so exactly these video tracks can be sent in layers.  And nothing is lost on the way: the
description that is rebuilt from the compact form of an offer has the same compact form.
-/
import GroupCall.Proofs.Media.Inventory
import GroupCall.Proofs.Sdp.Canonical
import GroupCall.Proofs.Sdp.Layers

namespace GroupCall

open Text

/-! ## What was asked of an engine -/

/-- Something that is done to an engine. -/
inductive EngineStep where
  /-- A track is asked for. -/
  | add (kind : TrackKind) (direction : Direction)
  /-- Something is done to the track at a place. -/
  | call (place : Nat) (c : TrackCall)
  /-- The description of the other side arrives. -/
  | setRemote (text : String)
  /-- The engine is closed. -/
  | close
deriving DecidableEq, Repr

/-- The tracks that are asked for since the last time that the engine was closed, after one more
step. -/
def EngineStep.asked (before : List (TrackKind × Direction)) :
    EngineStep → List (TrackKind × Direction)
  | .add kind direction => before ++ [(kind, direction)]
  | .close => []
  | _ => before

/-- The tracks that were asked for in a run since the engine was last closed. -/
def askedFor (steps : List EngineStep) : List (TrackKind × Direction) :=
  steps.foldl EngineStep.asked []

theorem getElem?_lineUp (asked : List (TrackKind × Direction)) (i : Nat) :
    (lineUp asked)[i]? = asked[i]?.map fun a => ⟨UInt32.ofNat i, a.1, a.2⟩ := by
  rw [lineUp, List.getElem?_map, List.getElem?_zipIdx, Option.map_map, Nat.zero_add]
  rfl

namespace Sdp

variable {sdp : Sdp} {asked : List (TrackKind × Direction)} {i : Nat}

theorem map_outline_getElem? (h : sdp.outlines = lineUp asked) (i : Nat) :
    sdp.tracks[i]?.map SdpTrack.outline =
      asked[i]?.map fun a => ⟨UInt32.ofNat i, a.1, a.2⟩ := by
  rw [← getElem?_lineUp, ← h, outlines, List.getElem?_map]

/-- A description that lists what was asked for has a track for each. -/
theorem exists_track_of_asked (h : sdp.outlines = lineUp asked) {a : TrackKind × Direction}
    (ha : asked[i]? = some a) :
    ∃ track, sdp.tracks[i]? = some track ∧ track.mid = UInt32.ofNat i ∧ track.kind = a.1 ∧
      track.direction = a.2 := by
  have hi := map_outline_getElem? h i
  rw [ha] at hi
  obtain ⟨track, htrack, houtline⟩ := Option.map_eq_some_iff.1 hi
  exact ⟨track, htrack, congrArg TrackOutline.mid houtline, congrArg TrackOutline.kind houtline,
    congrArg TrackOutline.direction houtline⟩

/-- It has no other tracks. -/
theorem asked_of_track (h : sdp.outlines = lineUp asked) {track : SdpTrack}
    (htrack : sdp.tracks[i]? = some track) : asked[i]? = some (track.kind, track.direction) := by
  have hi := map_outline_getElem? h i
  rw [htrack] at hi
  obtain ⟨a, ha, houtline⟩ := Option.map_eq_some_iff.1 hi.symm
  have hkind : a.1 = track.kind := congrArg TrackOutline.kind houtline
  have hdirection : a.2 = track.direction := congrArg TrackOutline.direction houtline
  rw [ha, ← hkind, ← hdirection]

end Sdp

/-! ## Tracks with the sources that they need -/

namespace SdpTrack

/-- A track that only receives has no sources; any other sound has one, and any other video track
has a pair. -/
def WellSourced (t : SdpTrack) : Prop :=
  if t.direction = .recvOnly then t.ssrcs = [] ∧ t.ssrcGroups = []
  else
    match t.kind with
    | .audio => t.ssrcs.length = 1 ∧ t.ssrcGroups = []
    | .video => ∃ v r, v ≠ r ∧ t.ssrcs.map Prod.fst = [v, r] ∧ t.Paired v r

/-- Of such tracks, the video tracks that do not only receive have a pair. -/
theorem WellSourced.exists_paired_iff {t : SdpTrack} (h : t.WellSourced) :
    (∃ v r, t.Paired v r) ↔ t.kind = .video ∧ t.direction ≠ .recvOnly := by
  rw [WellSourced] at h
  constructor
  · rintro ⟨v, r, hpair⟩
    refine ⟨hpair.kind, fun hrecv => ?_⟩
    -- a pair is two sources, and there are none
    rw [if_pos hrecv] at h
    have htwo := hpair.two
    rw [h.1] at htwo
    cases htwo
  · rintro ⟨hkind, hsends⟩
    rw [if_neg hsends, hkind] at h
    obtain ⟨v, r, -, -, hpair⟩ := h
    exact ⟨v, r, hpair⟩

end SdpTrack

namespace MediaEngine

variable {source : Nat}

theorem wellSourced_described (h : source + 500 < UInt64.size) (t : MediaTrack) :
    (described source t).WellSourced := by
  rw [SdpTrack.WellSourced, described]
  by_cases hrecv : t.direction = .recvOnly
  · rw [if_pos hrecv, if_pos hrecv]
    exact ⟨rfl, rfl⟩
  · rw [if_neg hrecv, if_neg hrecv]
    cases hkind : t.kind with
    | audio => exact ⟨rfl, rfl⟩
    | video =>
      refine ⟨.ofNat source, .ofNat (source + 500), source_ne_rtx h, rfl, rfl, rfl, ?_, ?_, ?_⟩
      · refine ⟨_, rfl, ?_⟩
        rw [SdpTrack.fidGroup_eq]
        exact SdpTrack.names_groupText "FID" (isWord_of_all (by decide) (by decide)) _
      · exact List.mem_cons_self
      · exact List.mem_cons_of_mem _ List.mem_cons_self

/-- A track that is offered with a stream has a name in it. -/
theorem lossless_described (source : Nat) (t : MediaTrack) : (described source t).Lossless := by
  rw [described]
  split
  · refine ⟨fun hstream => ?_, fun s hs => ?_⟩
    · cases hstream
    · cases hs
  · exact ⟨fun _ => rfl, fun _ _ => Or.inl rfl⟩

/-- Every track is described from some source on, and there is room for its own ones. -/
theorem exists_of_mem_describedTracks {tracks : List MediaTrack}
    (h : source + 10 * tracks.length + 500 ≤ UInt64.size) {track : SdpTrack}
    (htrack : track ∈ describedTracks source tracks) :
    ∃ first t, first + 500 < UInt64.size ∧ track = described first t := by
  induction tracks generalizing source with
  | nil => cases htrack
  | cons t rest ih =>
    rw [List.length_cons] at h
    rcases List.mem_cons.1 htrack with rfl | hrest
    · exact ⟨source, t, by omega, rfl⟩
    · have hnext := nextSource_le source t
      exact ih (by omega) hrest

/-! ## Runs of an engine -/

/-- The engine after a step in which nothing goes wrong. -/
def take (e : MediaEngine) : EngineStep → MediaEngine
  | .add kind direction => (e.addTrack .none kind direction).1
  | .call place c => { e with tracks := e.tracks.call place c }
  | .setRemote text => (e.setRemote .none text).toOption.getD e
  | .close => e.close

/-- The engine after a run. -/
def run (e : MediaEngine) (steps : List EngineStep) : MediaEngine := steps.foldl take e

variable {e : MediaEngine} {handed : List (TrackKind × Direction)}

theorem outlines_take (h : e.tracks.outlines = lineUp handed) (step : EngineStep) :
    (e.take step).tracks.outlines = lineUp (step.asked handed) := by
  cases step with
  | add kind direction => exact outlines_handOut h (kind, direction)
  | call place c => exact (MediaTracks.outlines_eq_of_build (MediaTracks.build_call _ _ _)).trans h
  | setRemote text => exact h
  | close => rfl

/-- An engine holds the tracks that were asked for since it was last closed. -/
theorem outlines_run (h : e.tracks.outlines = lineUp handed) (steps : List EngineStep) :
    (e.run steps).tracks.outlines = lineUp (steps.foldl EngineStep.asked handed) := by
  induction steps generalizing e handed with
  | nil => exact h
  | cons step rest ih => exact ih (outlines_take h step)

/-- **Offers are faithful.**  If tracks were asked of an engine since it was last closed, it makes
an offer; the offer has a compact form, with one track for each of them in their order, which has
the next number, the kind and the direction that were asked for, and the sources that it needs.
Exactly the video tracks that do not only receive can be sent in layers.  The compact form can be
written as a description, and the compact form of that description is the very same one.  The
numbers of the sources are taken to fit into 64 bits; for that there is room for more tracks than
there are addresses. -/
theorem offer_faithful_along_runs (steps : List EngineStep) (hasked : askedFor steps ≠ [])
    (hroom : firstSource + 10 * (askedFor steps).length + 500 ≤ UInt64.size) :
    ∃ (text : String) (sdp : Sdp),
      (new.run steps).offer .none = .ok text ∧ Sdp.compress text = .ok sdp ∧
      sdp.tracks.length = (askedFor steps).length ∧
      (∀ i kind direction, (askedFor steps)[i]? = some (kind, direction) →
        ∃ track : SdpTrack, sdp.tracks[i]? = some track ∧ track.mid = UInt32.ofNat i ∧
          track.kind = kind ∧ track.direction = direction ∧ track.WellSourced) ∧
      (∀ i, (∃ sdp', sdp.simulcast i = .ok sdp') ↔
        ∃ direction, (askedFor steps)[i]? = some (.video, direction) ∧ direction ≠ .recvOnly) ∧
      ∃ full, sdp.decompress = .ok full ∧ Sdp.compress full = .ok sdp := by
  have houtlines : (new.run steps).tracks.outlines = lineUp (askedFor steps) :=
    outlines_run (show new.tracks.outlines = lineUp [] from rfl) steps
  -- from here on only the outlines of its tracks are known of the engine
  generalize new.run steps = e at houtlines ⊢
  have hlength : e.tracks.all.length = (askedFor steps).length := by
    have hlengths := congrArg List.length houtlines
    rwa [MediaTracks.outlines, List.length_map, length_lineUp] at hlengths
  have hall : e.tracks.all ≠ [] := by
    intro hnil
    rw [hnil] at hlength
    exact hasked (List.length_eq_zero_iff.1 hlength.symm)
  have hoffer : e.offer .none = .ok (offerText e.tracks.all) :=
    if_neg (by simpa using hall)
  rw [← hlength] at hroom
  obtain ⟨sdp, hcompress, htracks⟩ := exists_compress hroom
  have hlisted : sdp.outlines = lineUp (askedFor steps) :=
    (outlines_of_compress hcompress).trans houtlines
  have hcount : sdp.tracks.length = (askedFor steps).length := by
    have hlengths := congrArg List.length hlisted
    rwa [Sdp.outlines, List.length_map, length_lineUp] at hlengths
  have hsourced : ∀ track ∈ sdp.tracks, track.WellSourced ∧ track.Lossless := by
    intro track hmem
    rw [htracks] at hmem
    obtain ⟨first, t, hfirst, rfl⟩ := exists_of_mem_describedTracks hroom hmem
    exact ⟨wellSourced_described hfirst t, lossless_described first t⟩
  refine ⟨_, sdp, hoffer, hcompress, hcount, fun i kind direction hget => ?_, fun i => ?_, ?_⟩
  · obtain ⟨track, htrack, hmid, hkind, hdirection⟩ := Sdp.exists_track_of_asked hlisted hget
    have hwell := (hsourced track (List.mem_of_getElem? htrack)).1
    exact ⟨track, htrack, hmid, hkind, hdirection, hwell⟩
  · rw [Sdp.exists_simulcast_iff]
    constructor
    · rintro ⟨track, v, r, htrack, hpair⟩
      have hwell := (hsourced track (List.mem_of_getElem? htrack)).1
      obtain ⟨hkind, hsends⟩ := hwell.exists_paired_iff.1 ⟨v, r, hpair⟩
      exact ⟨track.direction, hkind ▸ Sdp.asked_of_track hlisted htrack, hsends⟩
    · rintro ⟨direction, hget, hsends⟩
      obtain ⟨track, htrack, -, hkind, rfl⟩ := Sdp.exists_track_of_asked hlisted hget
      have hwell := (hsourced track (List.mem_of_getElem? htrack)).1
      obtain ⟨v, r, hpair⟩ := hwell.exists_paired_iff.2 ⟨hkind, hsends⟩
      exact ⟨track, v, r, htrack, hpair⟩
  · -- lossless tracks come back as they were, and there is something to write
    have hlaid := Sdp.laidOut_of_compress hcompress
    have hne : sdp.tracks ≠ [] := by
      intro hnil
      rw [hnil] at hcount
      exact hasked (List.length_eq_zero_iff.1 hcount.symm)
    refine ⟨_, hlaid.decompress_eq, ?_⟩
    rw [hlaid.compress_eq (.inr hne),
      hlaid.reread_eq_self_iff.2 fun track hmem => (hsourced track hmem).2]

/-- An engine is closed, and then tracks of several sorts are asked of it. -/
def askedAgain : List EngineStep :=
  [.add .audio .recvOnly, .call 0 (.enable true), .setRemote "v=0\r\n", .close,
    .add .video .sendRecv, .add .audio .inactive, .add .video .recvOnly]

/-- What was asked for before the engine was closed is not offered any more, and only the first of
the three tracks can be sent in layers. -/
theorem offer_faithful_askedAgain :
    askedFor askedAgain ≠ [] ∧
      firstSource + 10 * (askedFor askedAgain).length + 500 ≤ UInt64.size ∧
      ∃ (text : String) (sdp : Sdp),
        (new.run askedAgain).offer .none = .ok text ∧ Sdp.compress text = .ok sdp ∧
        sdp.tracks.length = 3 ∧ (∀ i, (∃ sdp', sdp.simulcast i = .ok sdp') ↔ i = 0) := by
  have hasked : askedFor askedAgain ≠ [] := by decide
  have hroom : firstSource + 10 * (askedFor askedAgain).length + 500 ≤ UInt64.size := by decide
  obtain ⟨text, sdp, hoffer, hcompress, hlength, -, hlayers, -⟩ :=
    offer_faithful_along_runs askedAgain hasked hroom
  refine ⟨hasked, hroom, text, sdp, hoffer, hcompress, hlength, fun i => ?_⟩
  have hlist : askedFor askedAgain =
      [(.video, .sendRecv), (.audio, .inactive), (.video, .recvOnly)] := rfl
  rw [hlayers, hlist]
  rcases i with _ | _ | _ | i <;> simp

end MediaEngine
end GroupCall
