/-
# The compact form, section by section

The lines of a description that hold more than blanks fall into a front part and sections,
and only the sections of audio and video matter.  This file says what the compact form
is in terms of these: each section yields a track, and the first section of a kind yields
the template of the kind.
-/
import GroupCall.Sdp.Compress
import Mathlib.Data.List.Forall2

namespace GroupCall.Sdp

open Text

variable {x : String} {s s' : Sdp} {ls front : List (List Char)} {kind k : TrackKind}
  {opening : List Char} {body : List (List Char)} {secs : List (List Char × List (List Char))}

/-! ### Sections -/

/-- The lines of a section. -/
def sectionLines (sec : List Char × List (List Char)) : List (List Char) := sec.1 :: sec.2

/-- Whether lines can stand in one section behind its opening line. -/
def Inner (ls : List (List Char)) : Prop := ∀ l ∈ ls, opensSection l = false

theorem sections_cons (line : List Char) (rest : List (List Char)) :
    sections (line :: rest) =
      if opensSection line then ([], (line, (sections rest).1) :: (sections rest).2)
      else (line :: (sections rest).1, (sections rest).2) := rfl

theorem sections_inner (h : Inner front) (rest : List (List Char)) :
    sections (front ++ rest) = (front ++ (sections rest).1, (sections rest).2) := by
  induction front with
  | nil => rfl
  | cons l front ih =>
    have hl : opensSection l = false := h l (by simp)
    rw [List.cons_append, sections_cons, ih fun l hl => h l (List.mem_cons_of_mem _ hl)]
    simp [hl]

/-- Sections that are written one after the other are cut apart again. -/
theorem sections_append (hfront : Inner front)
    (hsecs : ∀ sec ∈ secs, opensSection sec.1 = true ∧ Inner sec.2) :
    sections (front ++ secs.flatMap sectionLines) = (front, secs) := by
  have hrest : sections (secs.flatMap sectionLines) = ([], secs) := by
    induction secs with
    | nil => rfl
    | cons sec secs ih =>
      obtain ⟨hopens, hinner⟩ := hsecs sec (by simp)
      rw [List.flatMap_cons, sectionLines, List.cons_append, sections_cons, sections_inner hinner,
        ih fun sec hsec => hsecs sec (List.mem_cons_of_mem _ hsec)]
      simp [hopens]
  rw [sections_inner hfront, hrest, List.append_nil]

/-- The lines of a description are its front part and its sections, and only the first line
of a section opens one. -/
theorem sections_spec (ls : List (List Char)) :
    ls = (sections ls).1 ++ (sections ls).2.flatMap sectionLines ∧
      Inner (sections ls).1 ∧
      ∀ sec ∈ (sections ls).2, opensSection sec.1 = true ∧ Inner sec.2 := by
  induction ls with
  | nil => simp [sections, Inner]
  | cons line rest ih =>
    obtain ⟨hrest, hfront, hsecs⟩ := ih
    rw [sections_cons]
    split
    · next hopens =>
      refine ⟨by simpa [sectionLines] using hrest, by simp [Inner], ?_⟩
      rintro sec (_ | ⟨_, hsec⟩)
      · exact ⟨hopens, hfront⟩
      · exact hsecs sec hsec
    · next hopens =>
      refine ⟨by simpa using hrest, ?_, hsecs⟩
      rintro l (_ | ⟨_, hl⟩)
      · simpa using hopens
      · exact hfront l hl

theorem opensSection_of_ofMediaLine? (h : TrackKind.ofMediaLine? opening = some kind) :
    opensSection opening = true := by
  have hprefix : "m=".toList <+: opening := by
    rw [TrackKind.ofMediaLine?] at h
    split at h
    · next ha => exact List.IsPrefix.trans (by decide) (List.isPrefixOf_iff_prefix.1 ha)
    · split at h
      · next hv => exact List.IsPrefix.trans (by decide) (List.isPrefixOf_iff_prefix.1 hv)
      · simp at h
  exact List.isPrefixOf_iff_prefix.2 hprefix

/-- An opening line belongs to no track. -/
theorem isTrackLine_of_opensSection (h : opensSection opening = true) :
    isTrackLine opening = false := by
  obtain ⟨rest, rfl⟩ := List.isPrefixOf_iff_prefix.1 h
  rfl

/-! ### Adding sections -/

/-- The kind and the lines of a section, if it is one of audio or video. -/
def media? (sec : List Char × List (List Char)) : Option (TrackKind × List (List Char)) :=
  (TrackKind.ofMediaLine? sec.1).map fun kind => (kind, sectionLines sec)

/-- The lines of the template of a kind: those of the first section of the kind that no track
owns. -/
def templateLines? (kind : TrackKind) (ms : List (TrackKind × List (List Char))) :
    Option (List (List Char)) :=
  (ms.find? (·.1 = kind)).map fun m => m.2.filter (!isTrackLine ·)

/-- Lines as one text. -/
def textOf (ls : List (List Char)) : String := String.ofList (joinLines ls)

/-- Whether a track is the one that a section describes. -/
def Describes (m : TrackKind × List (List Char)) (t : SdpTrack) : Prop :=
  SdpTrack.ofSection m.1 m.2 = .ok t

/-- Adds the track of a section, and the template of its kind if there is none. -/
def addTrack (s : Sdp) (kind : TrackKind) (lines : List (List Char)) (t : SdpTrack) : Sdp :=
  { (if (s.template kind).isSome then s
      else s.setTemplate kind (textOf (lines.filter (!isTrackLine ·)))) with
    tracks := s.tracks ++ [t] }

theorem setTemplate_tracks (kind : TrackKind) (text : String) :
    (s.setTemplate kind text).tracks = s.tracks := by
  cases kind <;> rfl

theorem addSection_of_media (h : TrackKind.ofMediaLine? opening = some kind) :
    s.addSection opening body =
      (SdpTrack.ofSection kind (opening :: body)).map
        (s.addTrack kind (opening :: body)) := by
  simp only [addSection, h]
  cases SdpTrack.ofSection kind (opening :: body) with
  | error e => rfl
  | ok t =>
    simp only [addTrack, Except.map]
    split
    · rfl
    · rw [setTemplate_tracks]
      rfl

theorem addTrack_common (kind : TrackKind) (lines : List (List Char)) (t : SdpTrack) :
    (s.addTrack kind lines t).common = s.common := by
  rw [addTrack]
  split
  · rfl
  · cases kind <;> rfl

theorem addTrack_tracks (kind : TrackKind) (lines : List (List Char)) (t : SdpTrack) :
    (s.addTrack kind lines t).tracks = s.tracks ++ [t] := rfl

theorem addTrack_template (kind : TrackKind) (lines : List (List Char)) (t : SdpTrack)
    (k : TrackKind) :
    (s.addTrack kind lines t).template k =
      (s.template k).or
        (if kind = k then some (textOf (lines.filter (!isTrackLine ·))) else none) := by
  rw [addTrack]
  split
  · next hsome =>
    by_cases hk : kind = k
    · subst hk
      obtain ⟨text, htext⟩ := Option.isSome_iff_exists.1 hsome
      cases kind <;> simp_all [template]
    · cases k <;> simp [hk, template]
  · next hnone =>
    by_cases hk : kind = k
    · subst hk
      cases kind <;> simp_all [template, setTemplate]
    · cases kind <;> cases k <;> simp_all [template, setTemplate]

theorem ext_template (hc : s.common = s'.common) (ht : ∀ k, s.template k = s'.template k)
    (htr : s.tracks = s'.tracks) : s = s' := by
  have ha : s.audioTemplate = s'.audioTemplate := ht .audio
  have hv : s.videoTemplate = s'.videoTemplate := ht .video
  cases s
  cases s'
  simp_all

theorem templateLines?_cons (m : TrackKind × List (List Char))
    (ms : List (TrackKind × List (List Char))) :
    templateLines? k (m :: ms) =
      if m.1 = k then some (m.2.filter (!isTrackLine ·)) else templateLines? k ms := by
  by_cases hk : m.1 = k <;> simp [templateLines?, hk]

/-- What adding sections comes to: each section of audio or video adds its track, and the
first one of a kind its template, unless there is one already. -/
theorem addSections_eq_ok_iff :
    addSections s secs = .ok s' ↔
      s'.common = s.common ∧
      (∀ k, s'.template k =
        (s.template k).or ((templateLines? k (secs.filterMap media?)).map textOf)) ∧
      ∃ ts, s'.tracks = s.tracks ++ ts ∧ List.Forall₂ Describes (secs.filterMap media?) ts := by
  induction secs generalizing s with
  | nil =>
    simp only [addSections, List.filterMap_nil, templateLines?, List.find?_nil, Option.map_none,
      Option.or_none, List.forall₂_nil_left_iff, exists_eq_right, List.append_nil,
      Except.ok.injEq]
    constructor
    · rintro rfl
      exact ⟨rfl, fun _ => rfl, rfl⟩
    · rintro ⟨hc, ht, htr⟩
      exact ext_template hc.symm (fun k => (ht k).symm) htr.symm
  | cons sec secs ih =>
    obtain ⟨opening, body⟩ := sec
    cases hkind : TrackKind.ofMediaLine? opening with
    | none =>
      -- a section of another kind is passed over
      have hmedia : media? (opening, body) = none := by simp [media?, hkind]
      simp only [addSections, addSection, hkind, List.filterMap_cons, hmedia]
      exact ih
    | some kind =>
      have hmedia : media? (opening, body) = some (kind, opening :: body) := by
        simp [media?, hkind, sectionLines]
      simp only [addSections, addSection_of_media hkind, List.filterMap_cons, hmedia]
      cases ht : SdpTrack.ofSection kind (opening :: body) with
      | error e =>
        -- no track describes a section that is refused
        simp only [Except.map, reduceCtorEq, false_iff]
        rintro ⟨-, -, ts, -, hts⟩
        obtain ⟨t, ts, hdescr, -, rfl⟩ := List.forall₂_cons_left_iff.1 hts
        simp [Describes, ht] at hdescr
      | ok t =>
        have htemplate (k : TrackKind) :
            ((s.template k).or (if kind = k then
                some (textOf ((opening :: body).filter (!isTrackLine ·))) else none)).or
                ((templateLines? k (secs.filterMap media?)).map textOf) =
              (s.template k).or ((if kind = k then some ((opening :: body).filter (!isTrackLine ·))
                else templateLines? k (secs.filterMap media?)).map textOf) := by
          by_cases hk : kind = k <;> simp [hk]
        have htracks :
            (∃ ts, s'.tracks = s.tracks ++ [t] ++ ts ∧
              List.Forall₂ Describes (secs.filterMap media?) ts) ↔
            ∃ ts, s'.tracks = s.tracks ++ ts ∧
              List.Forall₂ Describes ((kind, opening :: body) :: secs.filterMap media?) ts := by
          constructor
          · rintro ⟨ts, htr, hts⟩
            exact ⟨t :: ts, by simpa using htr, .cons ht hts⟩
          · rintro ⟨_, htr, hts⟩
            cases hts with
            | cons hdescr hrest =>
              obtain rfl := Except.ok.inj (ht.symm.trans hdescr)
              exact ⟨_, by simpa using htr, hrest⟩
        simp only [Except.map, ih, addTrack_common, addTrack_template, templateLines?_cons,
          htemplate, addTrack_tracks, htracks]

/-! ### Descriptions -/

/-- The lines of a description that hold more than blanks. -/
def contentLines (x : String) : List (List Char) :=
  (lines x.toList).filter fun l => !isAllBlank l

/-- The sections of audio and video among the lines of a description. -/
def mediaSections (ls : List (List Char)) : List (TrackKind × List (List Char)) :=
  (sections ls).2.filterMap media?

/-- Whether lines are a section of a kind: the first line opens one of the kind, and no other
line opens one. -/
def IsMedia (m : TrackKind × List (List Char)) : Prop :=
  ∃ opening body, m.2 = opening :: body ∧ TrackKind.ofMediaLine? opening = some m.1 ∧ Inner body

/-- The first line of a section and the others. -/
def cut (m : TrackKind × List (List Char)) : List Char × List (List Char) :=
  (m.2.headD [], m.2.tail)

theorem isMedia_of_mem_mediaSections {m : TrackKind × List (List Char)}
    (h : m ∈ mediaSections ls) : IsMedia m ∧ ∀ l ∈ m.2, l ∈ ls := by
  obtain ⟨hls, -, hsecs⟩ := sections_spec ls
  obtain ⟨⟨opening, body⟩, hsec, hmedia⟩ := List.mem_filterMap.1 h
  obtain ⟨kind, hkind, rfl⟩ := Option.map_eq_some_iff.1 hmedia
  refine ⟨⟨opening, body, rfl, hkind, (hsecs _ hsec).2⟩, fun l hl => ?_⟩
  rw [hls]
  exact List.mem_append_right _ (List.mem_flatMap.2 ⟨_, hsec, hl⟩)

theorem mem_of_mem_front {l : List Char} (h : l ∈ (sections ls).1) : l ∈ ls := by
  rw [(sections_spec ls).1]
  exact List.mem_append_left _ h

theorem sectionLines_cut {m : TrackKind × List (List Char)} (h : IsMedia m) :
    sectionLines (cut m) = m.2 := by
  obtain ⟨opening, body, heq, -⟩ := h
  simp [cut, sectionLines, heq]

/-- Sections of audio and video that are written one after the other are cut apart again. -/
theorem sections_media_append {ms : List (TrackKind × List (List Char))} (hfront : Inner front)
    (hms : ∀ m ∈ ms, IsMedia m) :
    sections (front ++ ms.flatMap Prod.snd) = (front, ms.map cut) := by
  have hlines : ms.flatMap Prod.snd = (ms.map cut).flatMap sectionLines := by
    rw [List.flatMap_map]
    exact List.flatMap_congr fun m hm => (sectionLines_cut (hms m hm)).symm
  have hsecs : ∀ sec ∈ ms.map cut, opensSection sec.1 = true ∧ Inner sec.2 := by
    intro sec hsec
    obtain ⟨m, hm, rfl⟩ := List.mem_map.1 hsec
    obtain ⟨opening, body, heq, hkind, hinner⟩ := hms m hm
    simpa [cut, heq, hinner] using opensSection_of_ofMediaLine? hkind
  rw [hlines, sections_append hfront hsecs]

/-- They are found again as what they are. -/
theorem mediaSections_append {ms : List (TrackKind × List (List Char))} (hfront : Inner front)
    (hms : ∀ m ∈ ms, IsMedia m) :
    (sections (front ++ ms.flatMap Prod.snd)).1 = front ∧
      mediaSections (front ++ ms.flatMap Prod.snd) = ms := by
  have hmedia : (ms.map cut).filterMap media? = ms := by
    rw [List.filterMap_map]
    refine (List.filterMap_congr fun m hm => ?_).trans List.filterMap_some
    obtain ⟨opening, body, heq, hkind, -⟩ := hms m hm
    obtain ⟨kind, lines⟩ := m
    simp_all [cut, media?, sectionLines]
  rw [mediaSections, sections_media_append hfront hms]
  exact ⟨rfl, hmedia⟩

/-- What the compact form of a description is. -/
theorem compress_eq_ok_iff :
    compress x = .ok s ↔
      contentLines x ≠ [] ∧
      s.common = textOf (sections (contentLines x)).1 ∧
      (∀ k, s.template k = (templateLines? k (mediaSections (contentLines x))).map textOf) ∧
      List.Forall₂ Describes (mediaSections (contentLines x)) s.tracks := by
  have hnone (common : String) (k : TrackKind) :
      template ⟨common, none, none, []⟩ k = none := by
    cases k <;> rfl
  rw [compress, ← contentLines]
  cases hlines : contentLines x with
  | nil => simp [ofLines]
  | cons l ls =>
    simp only [ofLines, addSections_eq_ok_iff, hnone, Option.none_or, List.nil_append,
      exists_eq_left', ne_eq, reduceCtorEq, not_false_eq_true, true_and]
    rfl

end GroupCall.Sdp
