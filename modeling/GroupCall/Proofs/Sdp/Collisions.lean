/-
# Sources that collide

The numbers of the layers follow the two numbers of a pair, wherever these lie.  So they are
distinct only if the pair lies far enough apart, and they are new to the description only if no
other track has a source close behind the pair.

The sources of a track are told by their numbers.  Of several sources with one number, only one is
read from the lines that they were written as.  Hence the six sources of the layers come back
only if their numbers are distinct.
-/
import GroupCall.Proofs.Sdp.Layers
import GroupCall.Proofs.Sdp.RoundTrip
import Mathlib.Data.List.Nodup
import Mathlib.Data.List.Perm.Basic

namespace GroupCall

open Text

namespace SdpTrack

variable {t : SdpTrack} {v r : UInt64} {videoName rtxName : String}

/-- The numbers of the sources of a track. -/
def sources (t : SdpTrack) : List UInt64 := t.ssrcs.map Prod.fst

/-- Two numbers lie apart if there is room for two more between them. -/
def Apart (v r : UInt64) : Prop := v.toNat + 2 < r.toNat ∨ r.toNat + 2 < v.toNat

instance (v r : UInt64) : Decidable (Apart v r) :=
  inferInstanceAs (Decidable (_ ∨ _))

theorem Apart.ne (h : Apart v r) : v ≠ r := by
  rintro rfl
  rcases h with h | h <;> omega

/-- A pair that lies apart is all that its track has. -/
theorem Paired.ssrcs_eq (h : t.Paired v r) (hne : v ≠ r)
    (hvideo : t.ssrcs.lookup v = some videoName) (hrtx : t.ssrcs.lookup r = some rtxName) :
    t.ssrcs = [(v, videoName), (r, rtxName)] ∨ t.ssrcs = [(r, rtxName), (v, videoName)] := by
  obtain ⟨⟨a, x⟩, ⟨b, y⟩, hssrcs⟩ := List.length_eq_two.1 h.two
  have hsource := h.source
  have hother := h.rtx
  simp only [hssrcs, List.map_cons, List.map_nil, List.mem_pair] at hsource hother
  simp only [hssrcs, List.lookup_cons] at hvideo hrtx
  rcases hsource with rfl | rfl <;> rcases hother with rfl | rfl
  · exact absurd rfl hne
  · left
    simp_all [beq_false_of_ne (Ne.symm hne)]
  · right
    simp_all [beq_false_of_ne hne]
  · exact absurd rfl hne

/-- The numbers of the layers are distinct exactly if the pair lies apart. -/
theorem nodup_sources_layers (hv : v.toNat + 2 < UInt64.size) (hr : r.toNat + 2 < UInt64.size) :
    (t.layers v r videoName rtxName).sources.Nodup ↔ Apart v r := by
  have hnumbers : (t.layers v r videoName rtxName).sources.map UInt64.toNat =
      (List.range 3).flatMap fun i => [v.toNat + i, r.toNat + i] := by
    rw [sources, ssrcs_layers hv hr, List.map_map, List.map_flatMap]
    refine List.flatMap_congr fun i hi => ?_
    have hlt := List.mem_range.1 hi
    simp only [List.map_cons, List.map_nil, Function.comp, toNat_ofNat_add hv hlt,
      toNat_ofNat_add hr hlt]
  have hinj : Function.Injective UInt64.toNat := fun _ _ => UInt64.toNat_inj.1
  rw [← List.nodup_map_iff hinj, hnumbers, Apart]
  simp only [List.range_succ, List.range_zero, List.nil_append, List.cons_append, List.flatMap_cons,
    List.flatMap_nil, List.append_nil, List.nodup_cons, List.mem_cons, List.not_mem_nil, or_false,
    not_false_eq_true, List.nodup_nil, and_true]
  omega

theorem Paired.ssrcs_reread_layers (h : t.Paired v r) (hne : v ≠ r)
    (hvideo : t.ssrcs.lookup v = some videoName) (hrtx : t.ssrcs.lookup r = some rtxName) :
    (t.layers v r videoName rtxName).reread.ssrcs = (t.layers v r videoName rtxName).ssrcs ↔
      ∀ src ∈ t.ssrcs, t.streamId.isSome ∨ src.2 ≠ "" := by
  rw [ssrcs_reread_eq_iff]
  rcases h.ssrcs_eq hne hvideo hrtx with hssrcs | hssrcs
  · simp +contextual [hssrcs, layers]
  · simp +contextual [hssrcs, layers, and_comm]

/-- A legible track stays legible in layers if their sources are distinct. -/
theorem Legible.layers (ht : t.Legible) (hvideo : t.ssrcs.lookup v = some videoName)
    (hrtx : t.ssrcs.lookup r = some rtxName)
    (hdistinct : (t.layers v r videoName rtxName).sources.Nodup) :
    (t.layers v r videoName rtxName).Legible where
  stream := ht.stream
  name := ht.name
  nameless := ht.nameless
  groups g hg := by
    have hdecimal (n : Nat) : '\n' ∉ decimal n := (isWord_decimal n).not_mem (by decide)
    simp only [SdpTrack.layers, List.mem_cons, List.not_mem_nil, or_false] at hg
    rcases hg with rfl | rfl | rfl | rfl
    · simp [toList_simGroup, hdecimal]
    all_goals simp [toList_fidGroup, hdecimal]
  cnames src hsrc := by
    have hname {id : UInt64} {name : String} (h : t.ssrcs.lookup id = some name) :
        '\n' ∉ name.toList := by
      obtain ⟨before, after, heq, -⟩ := List.lookup_eq_some_iff.1 h
      exact ht.cnames (id, name) (by simp [heq])
    simp only [SdpTrack.layers, List.mem_cons, List.not_mem_nil, or_false] at hsrc
    rcases hsrc with rfl | rfl | rfl | rfl | rfl | rfl
    all_goals first | exact hname hvideo | exact hname hrtx
  distinct := hdistinct

end SdpTrack

namespace Sdp

open SdpTrack

variable {s s' : Sdp} {index : Nat} {t t' : SdpTrack} {v r : UInt64}

/-- The numbers of the sources of a description, track by track. -/
def sources (s : Sdp) : List UInt64 := s.tracks.flatMap SdpTrack.sources

/-- If a track is exchanged, all sources are distinct exactly if those of the new track are, and no
other track has one of them. -/
theorem nodup_sources_set (hdistinct : s.sources.Nodup) (ht : s.tracks[index]? = some t) :
    ({ s with tracks := s.tracks.set index t' } : Sdp).sources.Nodup ↔
      t'.sources.Nodup ∧ ∀ u ∈ s.tracks.eraseIdx index, ∀ id ∈ u.sources, id ∉ t'.sources := by
  obtain ⟨hlt, rfl⟩ := List.getElem?_eq_some_iff.1 ht
  have hothers : ((s.tracks.eraseIdx index).flatMap SdpTrack.sources).Nodup := by
    have hperm := (List.getElem_cons_eraseIdx_perm hlt).flatMap_right SdpTrack.sources
    exact (hperm.nodup_iff.2 hdistinct).of_append_right
  have hperm := (List.set_perm_cons_eraseIdx hlt t').flatMap_right SdpTrack.sources
  rw [sources, hperm.nodup_iff, List.flatMap_cons, List.nodup_append']
  simp only [hothers, true_and, List.disjoint_right, List.mem_flatMap, forall_exists_index, and_imp]
  refine and_congr_right fun _ => ⟨fun h u hu id hid => h u hu hid, fun h id u hu hid => ?_⟩
  exact h u hu id hid

/-- The sources of a track come back, in their order and with their canonical names, from the
text that the description is written as. -/
def SourcesSurvive (s : Sdp) (index : Nat) : Prop :=
  ∃ y s' t t', s.decompress = .ok y ∧ compress y = .ok s' ∧ s.tracks[index]? = some t ∧
    s'.tracks[index]? = some t' ∧ t'.ssrcs = t.ssrcs

/-- Only distinct sources come back. -/
theorem SourcesSurvive.nodup (h : s.SourcesSurvive index) (ht : s.tracks[index]? = some t) :
    t.sources.Nodup := by
  obtain ⟨y, s', t₀, t', -, hread, ht₀, ht', hsame⟩ := h
  obtain rfl : t₀ = t := Option.some.inj (ht₀.symm.trans ht)
  have hlegible := (laidOut_of_compress hread).legible t' (List.mem_of_getElem? ht')
  rw [SdpTrack.sources, ← hsame]
  exact hlegible.distinct

section LaidOut

variable {front : List (List Char)} {ms : List (TrackKind × List (List Char))}
  (h : LaidOut s front ms) (ht : s.tracks[index]? = some t)

include h ht

theorem LaidOut.sourcesSurvive_iff : s.SourcesSurvive index ↔ t.reread.ssrcs = t.ssrcs := by
  have hne : s.tracks ≠ [] := List.ne_nil_of_mem (List.mem_of_getElem? ht)
  have hread := h.compress_eq (.inr hne)
  have ht' : (s.tracks.map SdpTrack.reread)[index]? = some t.reread := by
    rw [List.getElem?_map, ht, Option.map_some]
  constructor
  · rintro ⟨y, s', t₀, t', hy, hs', ht₀, ht₁, hsame⟩
    obtain rfl : t₀ = t := Option.some.inj (ht₀.symm.trans ht)
    obtain rfl := Except.ok.inj (h.decompress_eq.symm.trans hy)
    obtain rfl := Except.ok.inj (hread.symm.trans hs')
    obtain rfl := Option.some.inj (ht'.symm.trans ht₁)
    exact hsame
  · exact fun hsame => ⟨_, _, t, t.reread, h.decompress_eq, hread, ht, ht', hsame⟩

/-- A track can be exchanged for a legible one of its kind. -/
theorem LaidOut.set (hkind : t'.kind = t.kind) (hlegible : t'.Legible) :
    LaidOut { s with tracks := s.tracks.set index t' } front ms where
  common := h.common
  template := h.template
  kinds k := by
    obtain ⟨hlt, rfl⟩ := List.getElem?_eq_some_iff.1 ht
    have hlt' : index < (s.tracks.map SdpTrack.kind).length := by rwa [List.length_map]
    have hsame : t'.kind = (s.tracks.map SdpTrack.kind)[index] := by rw [hkind, List.getElem_map]
    rw [h.kinds, List.map_set, hsame, List.set_getElem_self]
  inner := h.inner
  frontLines := h.frontLines
  media := h.media
  lines := h.lines
  legible u hu := (List.mem_or_eq_of_mem_set hu).elim (h.legible u) fun heq => heq ▸ hlegible

end LaidOut

/-- **When layers keep sources distinct.**  A description whose sources have distinct numbers was
put into layers, and the numbers of the layers did not run over.  Then its sources still have
distinct numbers exactly if the pair lies apart and no source of another track has one of the six
numbers.  The six sources come back from the text of the description exactly if the pair lies
apart and each of its sources leaves a line. -/
theorem simulcast_distinct_iff (s s' : Sdp) (index : Nat) (hdistinct : s.sources.Nodup)
    (h : s.simulcast index = .ok s') :
    ∃ t v r, s.tracks[index]? = some t ∧ t.Paired v r ∧
      (v.toNat + 2 < UInt64.size → r.toNat + 2 < UInt64.size →
        (s'.sources.Nodup ↔ Apart v r ∧ ∀ u ∈ s.tracks.eraseIdx index, ∀ id ∈ u.sources, ∀ i < 3,
          id.toNat ≠ v.toNat + i ∧ id.toNat ≠ r.toNat + i) ∧
        ∀ front ms, LaidOut s front ms → (s'.SourcesSurvive index ↔
          Apart v r ∧ ∀ src ∈ t.ssrcs, t.streamId.isSome ∨ src.2 ≠ "")) := by
  obtain ⟨t, t', ht, hlayers, rfl⟩ := simulcast_eq_ok_iff.1 h
  obtain ⟨v, r, videoName, rtxName, hpair, hvideo, hrtx, rfl⟩ :=
    SdpTrack.munge_eq_ok_iff.1 hlayers
  refine ⟨t, v, r, ht, hpair, fun hv hr => ?_⟩
  have hapart : (t.layers v r videoName rtxName).sources.Nodup ↔ Apart v r :=
    nodup_sources_layers hv hr
  have ht' : (s.tracks.set index (t.layers v r videoName rtxName))[index]? =
      some (t.layers v r videoName rtxName) :=
    List.getElem?_set_self (List.getElem?_eq_some_iff.1 ht).1
  refine ⟨?_, fun front ms hlaid => ?_⟩
  · rw [nodup_sources_set hdistinct ht, hapart]
    refine and_congr_right fun _ => forall₂_congr fun u _ => forall₂_congr fun id _ => ?_
    rw [SdpTrack.sources, mem_layers_iff hv hr]
    push Not
    rfl
  · have hiff (hdisjoint : Apart v r) : Sdp.SourcesSurvive { s with
        tracks := s.tracks.set index (t.layers v r videoName rtxName) } index ↔
          ∀ src ∈ t.ssrcs, t.streamId.isSome ∨ src.2 ≠ "" := by
      have hlegible := (hlaid.legible t (List.mem_of_getElem? ht)).layers hvideo hrtx
        (hapart.2 hdisjoint)
      rw [(hlaid.set ht (by rfl) hlegible).sourcesSurvive_iff ht']
      exact hpair.ssrcs_reread_layers hdisjoint.ne hvideo hrtx
    constructor
    · -- what is read again has distinct numbers, so the pair lies apart
      intro hsurvive
      have hdisjoint := hapart.1 (hsurvive.nodup ht')
      exact ⟨hdisjoint, (hiff hdisjoint).1 hsurvive⟩
    · rintro ⟨hdisjoint, hwritten⟩
      exact (hiff hdisjoint).2 hwritten

/-- An offer of one video track with a pair of sources. -/
def pairOffer (v r : Nat) : String :=
  "v=0\r\nm=video 9 RTP/AVP 96\r\na=mid:0\r\na=msid:s v\r\n" ++
    "a=ssrc-group:FID " ++ toString v ++ " " ++ toString r ++ "\r\n" ++
    "a=ssrc:" ++ toString v ++ " cname:a\r\na=ssrc:" ++ toString r ++ " cname:b\r\n"

/-- The track of this offer. -/
def pairTrack (v r : UInt64) : SdpTrack :=
  ⟨.video, 0, .sendRecv, some "s", some "v", [(v, "a"), (r, "b")],
    [groupText "FID" [v.toNat, r.toNat]]⟩

/-- The compact form of this offer. -/
def pairCompact (v r : UInt64) : Sdp where
  common := "v=0\r\n"
  audioTemplate := none
  videoTemplate := some "m=video 9 RTP/AVP 96\r\n"
  tracks := [pairTrack v r]

theorem paired_pairTrack (v r : UInt64) : (pairTrack v r).Paired v r where
  kind := rfl
  two := rfl
  group := ⟨_, rfl, names_groupText "FID" (isWord_of_all (by decide) (by decide)) _⟩
  source := by simp [pairTrack]
  rtx := by simp [pairTrack]

/-- A pair that lies a thousand apart. -/
theorem simulcast_distinct_wide :
    ∃ s', (pairCompact 1001 2001).simulcast 0 = .ok s' ∧ s'.sources.Nodup ∧
      s'.SourcesSurvive 0 := by
  have hread : compress (pairOffer 1001 2001) = .ok (pairCompact 1001 2001) := by decide +kernel
  have ht : (pairCompact 1001 2001).tracks[0]? = some (pairTrack 1001 2001) := rfl
  obtain ⟨_, _, -, -, h⟩ := simulcast_of_paired ht (paired_pairTrack 1001 2001)
  obtain ⟨t, v, r, ht', hpair, hiff⟩ := simulcast_distinct_iff _ _ 0 (by decide) h
  obtain rfl := Option.some.inj (ht.symm.trans ht')
  obtain ⟨rfl, rfl⟩ := (paired_pairTrack 1001 2001).unique hpair
  obtain ⟨hdistinct, hsurvive⟩ := hiff (by decide) (by decide)
  exact ⟨_, h, hdistinct.2 ⟨by decide, by simp [pairCompact]⟩,
    (hsurvive _ _ (laidOut_of_compress hread)).2 ⟨by decide, by simp [pairTrack]⟩⟩

/-- In the layers of a pair of neighbours, two numbers are given twice. -/
theorem simulcast_collides :
    ∃ s s', compress (pairOffer 1 2) = .ok s ∧ s.sources = [1, 2] ∧ s.simulcast 0 = .ok s' ∧
      s'.sources = [1, 2, 2, 3, 3, 4] ∧ ¬ s'.sources.Nodup ∧ ¬ s'.SourcesSurvive 0 := by
  have hread : compress (pairOffer 1 2) = .ok (pairCompact 1 2) := by decide +kernel
  have ht : (pairCompact 1 2).tracks[0]? = some (pairTrack 1 2) := rfl
  let s' := { pairCompact 1 2 with tracks := [(pairTrack 1 2).layers 1 2 "a" "b"] }
  have hlayers : (pairCompact 1 2).simulcast 0 = .ok s' :=
    simulcast_eq_ok_iff.2 ⟨_, _, ht, SdpTrack.munge_eq_ok_iff.2
      ⟨1, 2, "a", "b", paired_pairTrack 1 2, by decide, by decide, rfl⟩, rfl⟩
  have hsources : s'.sources = [1, 2, 2, 3, 3, 4] := by decide
  refine ⟨_, s', hread, by decide, hlayers, hsources, by decide, fun hsurvive => ?_⟩
  exact absurd (hsurvive.nodup (by rfl)) (by decide)

end Sdp
end GroupCall
