/-
# Compact forms that survive the text form

Not every compact form is one that a description can have: a template may hold a line that
belongs to a track, a track may lack its template, a name may hold a blank.  The canonical
ones are told here by looking at their fields alone.  They are exactly those that come back
when they are written as a description and read again.

In one direction a canonical form is laid out in lines, so that what was proved for the forms
that were read applies to it.  In the other direction the form was read from a description,
and it was not altered by being written and read once more.
-/
import GroupCall.Proofs.Sdp.RoundTrip

namespace GroupCall

open Text

namespace SdpTrack

/-- Whether a track is canonical: stream and track are both named by words or both nameless,
the sources have distinct numbers, nothing holds a line feed, and a source without a canonical
name has a stream. -/
structure Canonical (t : SdpTrack) : Prop where
  /-- Stream and track have names, or neither has. -/
  names : (t.streamId = none ∧ t.trackId = none) ∨
    ∃ sid tid, t.streamId = some sid ∧ t.trackId = some tid ∧
      IsWord sid.toList ∧ IsWord tid.toList
  /-- No source is there twice. -/
  distinct : (t.ssrcs.map Prod.fst).Nodup
  /-- A group is written on one line. -/
  groups : ∀ g ∈ t.ssrcGroups, '\n' ∉ g.toList
  /-- So is the canonical name of a source. -/
  cnames : ∀ s ∈ t.ssrcs, '\n' ∉ s.2.toList
  /-- A source without one is told by its stream. -/
  unnamed : ∀ s ∈ t.ssrcs, s.2 = "" → t.streamId.isSome

variable {t : SdpTrack}

theorem canonical_iff : t.Canonical ↔ t.Legible ∧ t.Lossless := by
  constructor
  · intro h
    refine ⟨⟨?_, ?_, ?_, h.groups, h.cnames, h.distinct⟩, ?_, ?_⟩
    · rcases h.names with ⟨hs, -⟩ | ⟨sid, tid, hs, -, hsid, -⟩
      · simp [hs]
      · simpa [hs] using hsid
    · rcases h.names with ⟨-, ht⟩ | ⟨sid, tid, -, ht, -, htid⟩
      · simp [ht]
      · simpa [ht] using htid
    · rcases h.names with ⟨-, ht⟩ | ⟨sid, tid, hs, -⟩
      · exact fun _ => ht
      · simp [hs]
    · rcases h.names with ⟨hs, -⟩ | ⟨sid, tid, -, ht, -⟩
      · simp [hs]
      · simp [ht]
    · intro s hs
      by_cases hname : s.2 = ""
      · exact .inl (h.unnamed s hs hname)
      · exact .inr hname
  · rintro ⟨ht, hnamed, hsource⟩
    refine ⟨?_, ht.distinct, ht.groups, ht.cnames, fun s hs hname => ?_⟩
    · cases hstream : t.streamId with
      | none => exact .inl ⟨rfl, ht.nameless hstream⟩
      | some sid =>
        obtain ⟨tid, htid⟩ := Option.isSome_iff_exists.1 (hnamed (by simp [hstream]))
        exact .inr ⟨sid, tid, rfl, htid, ht.stream sid hstream, ht.name tid htid⟩
    · exact (hsource s hs).resolve_right (not_not.2 hname)

end SdpTrack

namespace Sdp

variable {x : String} {s : Sdp} {k : TrackKind} {text : String}

/-- Whether a text is one of the lines in front of the sections: each is written with its
ending, holds more than blanks and opens no section. -/
def IsFront (text : String) : Prop :=
  ∃ ls, text = textOf ls ∧ ∀ l ∈ ls, Printable l ∧ opensSection l = false

/-- Whether a text is a template of a kind: its lines are written with their endings and hold
more than blanks, the first one opens a section of the kind, and none of the others opens a
section or belongs to a track. -/
def IsTemplate (k : TrackKind) (text : String) : Prop :=
  ∃ opening body, text = textOf (opening :: body) ∧ (∀ l ∈ opening :: body, Printable l) ∧
    TrackKind.ofMediaLine? opening = some k ∧
    ∀ l ∈ body, opensSection l = false ∧ isTrackLine l = false

/-- Whether a compact form is canonical: its common part and its templates are lines that can
stand there, the templates are those of the kinds of its tracks, its tracks are canonical, and
there is something in it. -/
structure Canonical (s : Sdp) : Prop where
  /-- What stands in front of the sections. -/
  common : IsFront s.common
  /-- The templates. -/
  templates : ∀ k text, s.template k = some text → IsTemplate k text
  /-- There is a template for each kind of track, and no other. -/
  kinds : ∀ k, (s.template k).isSome ↔ ∃ t ∈ s.tracks, t.kind = k
  /-- The tracks. -/
  tracks : ∀ t ∈ s.tracks, t.Canonical
  /-- A description is not empty. -/
  nonempty : s.common ≠ "" ∨ s.tracks ≠ []

theorem textOf_eq_empty_iff {ls : List (List Char)} : textOf ls = "" ↔ ls = [] := by
  cases ls <;> simp [textOf, lineEnd]

/-! ### A canonical form is laid out in lines -/

/-- The lines of a template, without those that belong to a track, are its lines. -/
theorem filter_template {opening : List Char} {body : List (List Char)}
    (hkind : TrackKind.ofMediaLine? opening = some k)
    (hbody : ∀ l ∈ body, opensSection l = false ∧ isTrackLine l = false) :
    (opening :: body).filter (!isTrackLine ·) = opening :: body := by
  refine List.filter_eq_self.2 fun l hl => ?_
  rcases List.mem_cons.1 hl with rfl | hl
  · simp [isTrackLine_of_opensSection (opensSection_of_ofMediaLine? hkind)]
  · simp [(hbody l hl).2]

/-- Templates can be taken for sections without a track. -/
theorem Canonical.exists_sections (h : s.Canonical) (ks : List TrackKind) :
    ∃ ms : List (TrackKind × List (List Char)),
      (∀ k, k ∈ ms.map Prod.fst ↔ k ∈ ks ∧ (s.template k).isSome) ∧
      (∀ m ∈ ms, IsMedia m ∧ (∀ l ∈ m.2, Printable l)) ∧
      ∀ k ∈ ks, s.template k = (templateLines? k ms).map textOf := by
  induction ks with
  | nil => exact ⟨[], by simp, by simp, by simp⟩
  | cons k ks ih =>
    obtain ⟨ms, hkinds, hms, htemplate⟩ := ih
    cases hk : s.template k with
    | none =>
      refine ⟨ms, fun k' => ?_, hms, fun k' hk' => ?_⟩
      · by_cases hkk : k' = k
        · simp [hkinds, hkk, hk]
        · simp [hkinds, hkk]
      · rcases List.mem_cons.1 hk' with rfl | hk'
        · have hnone : (templateLines? k' ms).isSome ≠ true := fun hsome => by
            simpa [hk] using ((hkinds k').1 (isSome_templateLines?.1 hsome)).2
          rw [hk, Option.not_isSome_iff_eq_none.1 hnone, Option.map_none]
        · exact htemplate k' hk'
    | some text =>
      obtain ⟨opening, body, rfl, hlines, hkind, hbody⟩ := h.templates k text hk
      refine ⟨(k, opening :: body) :: ms, fun k' => ?_, ?_, fun k' hk' => ?_⟩
      · by_cases hkk : k' = k
        · simp [hkk, hk]
        · simp [hkinds, hkk]
      · rintro m (_ | ⟨_, hm⟩)
        · exact ⟨⟨opening, body, rfl, hkind, fun l hl => (hbody l hl).1⟩, hlines⟩
        · exact hms m hm
      · rw [templateLines?_cons]
        split
        · next hkk =>
          obtain rfl : k = k' := hkk
          rw [hk, filter_template hkind hbody, Option.map_some]
        · next hkk => exact htemplate k' ((List.mem_cons.1 hk').resolve_left (Ne.symm hkk))

theorem Canonical.exists_laidOut (h : s.Canonical) :
    ∃ front ms, LaidOut s front ms ∧ (front ≠ [] ∨ s.tracks ≠ []) := by
  obtain ⟨front, hcommon, hfront⟩ := h.common
  obtain ⟨ms, hkinds, hms, htemplate⟩ := h.exists_sections [.audio, .video]
  have hall (k : TrackKind) : k ∈ [TrackKind.audio, .video] := by cases k <;> simp
  refine ⟨front, ms, ⟨hcommon, fun k => htemplate k (hall k), fun k => ?_,
    fun l hl => (hfront l hl).2, fun l hl => (hfront l hl).1, fun m hm => (hms m hm).1,
    fun m hm => (hms m hm).2, fun t ht => (SdpTrack.canonical_iff.1 (h.tracks t ht)).1⟩, ?_⟩
  · simp [hkinds, hall, h.kinds]
  · exact h.nonempty.imp_left fun hne hnil => hne (hcommon.trans (textOf_eq_empty_iff.2 hnil))

/-! ### A form that comes back is canonical -/

section LaidOut

variable {front : List (List Char)} {ms : List (TrackKind × List (List Char))}
  (h : LaidOut s front ms)

include h

theorem LaidOut.isTemplate (hk : s.template k = some text) : IsTemplate k text := by
  rw [h.template] at hk
  obtain ⟨tls, htls, rfl⟩ := Option.map_eq_some_iff.1 hk
  obtain ⟨⟨opening, body, rfl, hkind, hinner⟩, hlines⟩ := isMedia_templateLines h.media htls
  refine ⟨opening, body, rfl, fun l hl => ?_, hkind, fun l hl => ⟨hinner l hl, ?_⟩⟩
  · obtain ⟨-, m, hm, hlm⟩ := hlines l hl
    exact h.lines m hm l hlm
  · exact (hlines l (List.mem_cons_of_mem _ hl)).1

theorem LaidOut.canonical (hne : front ≠ [] ∨ s.tracks ≠ [])
    (hlossless : ∀ t ∈ s.tracks, t.Lossless) : s.Canonical where
  common := ⟨front, h.common, fun l hl => ⟨h.frontLines l hl, h.inner l hl⟩⟩
  templates _ _ hk := h.isTemplate hk
  kinds k := by
    rw [h.template, Option.isSome_map, isSome_templateLines?, h.kinds, List.mem_map]
  tracks t ht := SdpTrack.canonical_iff.2 ⟨h.legible t ht, hlossless t ht⟩
  nonempty := hne.imp_left fun hne hnil => hne (textOf_eq_empty_iff.1 (h.common.symm.trans hnil))

/-- A form that is laid out in lines comes back as it was if its tracks are lossless. -/
theorem LaidOut.reread_eq_self_iff :
    { s with tracks := s.tracks.map SdpTrack.reread } = s ↔ ∀ t ∈ s.tracks, t.Lossless := by
  have hsame : { s with tracks := s.tracks.map SdpTrack.reread } = s ↔
      s.tracks.map SdpTrack.reread = s.tracks := by
    obtain ⟨⟩ := s
    simp
  have hmap : s.tracks.map SdpTrack.reread = s.tracks ↔ ∀ t ∈ s.tracks, t.reread = t := by
    simpa using List.map_inj_left (l := s.tracks) (f := SdpTrack.reread) (g := id)
  rw [hsame, hmap]
  exact forall₂_congr fun t ht => SdpTrack.reread_eq_self_iff (h.legible t ht)

end LaidOut

/-- **The forms that survive the text form.**  A compact form can be written as a description,
and the compact form of that description is the very same one, exactly if the form is
canonical. -/
theorem decompress_compress_iff (s : Sdp) :
    (∃ x, s.decompress = .ok x ∧ compress x = .ok s) ↔ s.Canonical := by
  constructor
  · rintro ⟨x, hx, hs⟩
    have h := laidOut_of_compress hs
    -- the description that was read is the one that was written, and it is not empty
    have hwritten := Except.ok.inj (h.decompress_eq.symm.trans hx)
    have hne : (sections (contentLines x)).1 ≠ [] ∨ s.tracks ≠ [] := by
      by_contra! hnil
      rw [hnil.1, hnil.2] at hwritten
      exact (compress_eq_ok_iff.1 hs).1 (congrArg contentLines hwritten.symm)
    have hcompress := h.compress_eq hne
    rw [hwritten, hs] at hcompress
    have hreread := (Except.ok.inj hcompress).symm
    exact h.canonical hne (h.reread_eq_self_iff.1 hreread)
  · intro hcanonical
    obtain ⟨front, ms, h, hne⟩ := hcanonical.exists_laidOut
    have hlossless : ∀ t ∈ s.tracks, t.Lossless := fun t ht =>
      (SdpTrack.canonical_iff.1 (hcanonical.tracks t ht)).2
    refine ⟨_, h.decompress_eq, ?_⟩
    rw [h.compress_eq hne, h.reread_eq_self_iff.2 hlossless]

/-- The compact form of a plain offer survives. -/
example : ∃ x, plainCompact.decompress = .ok x ∧ compress x = .ok plainCompact :=
  ⟨_, rfl, by decide +kernel⟩

end Sdp
end GroupCall
