/-
# From a description to its compact form and back

A description that was rebuilt from a compact form has, behind the same front part, one
section for each track: the template of its kind and its own lines.  Its compact form has
the same front part and the same templates, and of each track what comes back of a track
that is written and read again.
-/
import GroupCall.Proofs.Sdp.Sections
import GroupCall.Proofs.Sdp.Tracks

namespace GroupCall.Sdp

open Text

variable {x : String} {s : Sdp} {ls : List (List Char)} {k : TrackKind}
  {ms : List (TrackKind × List (List Char))} {ts : List SdpTrack} {t : SdpTrack}

/-! ### Lines as text -/

/-- Whether a line is read again from the text that it is written in. -/
def Printable (l : List Char) : Prop := '\n' ∉ l ∧ isAllBlank l = false

theorem printable_of_mem_contentLines {l : List Char} (h : l ∈ contentLines x) : Printable l := by
  obtain ⟨hl, hblank⟩ := List.mem_filter.1 h
  exact ⟨not_mem_of_mem_lines hl, by simpa using hblank⟩

theorem contentLines_textOf (h : ∀ l ∈ ls, Printable l) : contentLines (textOf ls) = ls := by
  rw [contentLines, textOf, String.toList_ofList, lines_joinLines fun l hl => (h l hl).1,
    List.filter_eq_self]
  intro l hl
  simp [(h l hl).2]

theorem isTrackLine_prefix {l : List Char} (h : isTrackLine l = true) : "a=".toList <+: l := by
  rw [isTrackLine] at h
  split at h
  · next hattr =>
    obtain ⟨rest, hrest, -⟩ := Option.map_eq_some_iff.1 hattr
    exact ⟨rest, (eq_of_dropBeginning hrest).symm⟩
  · simp at h

theorem printable_of_mem_ownLines (ht : t.Legible) {l : List Char} (h : l ∈ t.ownLines) :
    Printable l := by
  refine ⟨ht.notMem_ownLines h, ?_⟩
  obtain ⟨rest, rfl⟩ := isTrackLine_prefix (SdpTrack.isTrackLine_of_mem_ownLines h)
  simp [isAllBlank, show isBlank 'a' = false by decide]

theorem inner_ownLines (t : SdpTrack) : Inner t.ownLines := by
  intro l hl
  obtain ⟨rest, rfl⟩ := isTrackLine_prefix (SdpTrack.isTrackLine_of_mem_ownLines hl)
  rfl

/-! ### The section that a track is written as -/

/-- The section that a track is written as: the template of its kind and its own lines. -/
def written (ms : List (TrackKind × List (List Char))) (t : SdpTrack) :
    TrackKind × List (List Char) :=
  (t.kind, (templateLines? t.kind ms).getD [] ++ t.ownLines)

theorem isSome_templateLines? : (templateLines? k ms).isSome ↔ k ∈ ms.map Prod.fst := by
  simp [templateLines?]

/-- A track and the section that describes it are of one kind. -/
theorem map_fst_eq_of_describes (h : List.Forall₂ Describes ms ts)
    (hls : ∀ m ∈ ms, ∀ l ∈ m.2, '\n' ∉ l) :
    ms.map Prod.fst = ts.map SdpTrack.kind ∧ ∀ t ∈ ts, t.Legible := by
  induction h with
  | nil => simp
  | cons hdescr _ ih =>
    obtain ⟨hkinds, hlegible⟩ := ih fun m hm => hls m (List.mem_cons_of_mem _ hm)
    obtain ⟨ht, hkind⟩ := SdpTrack.legible_of_ofSection (hls _ (by simp)) hdescr
    exact ⟨by simp [hkinds, hkind], by simpa [ht] using hlegible⟩

theorem isMedia_templateLines (hms : ∀ m ∈ ms, IsMedia m) {tls : List (List Char)}
    (h : templateLines? k ms = some tls) :
    IsMedia (k, tls) ∧ ∀ l ∈ tls, isTrackLine l = false ∧ ∃ m ∈ ms, l ∈ m.2 := by
  obtain ⟨m, hm, rfl⟩ := Option.map_eq_some_iff.1 h
  have hmem : m ∈ ms := List.mem_of_find?_eq_some hm
  obtain rfl : m.1 = k := by simpa using List.find?_some hm
  obtain ⟨opening, body, heq, hkind, hinner⟩ := hms m hmem
  have hopening := isTrackLine_of_opensSection (opensSection_of_ofMediaLine? hkind)
  refine ⟨⟨opening, body.filter (!isTrackLine ·), ?_, hkind, ?_⟩, fun l hl => ?_⟩
  · simp [heq, hopening]
  · exact fun l hl => hinner l (List.mem_of_mem_filter hl)
  · obtain ⟨hl, htrack⟩ := List.mem_filter.1 hl
    exact ⟨by simpa using htrack, m, hmem, hl⟩

theorem legible_of_mem (hls : ∀ m ∈ ms, ∀ l ∈ m.2, Printable l)
    (h : List.Forall₂ Describes ms ts) (ht : t ∈ ts) : t.Legible :=
  (map_fst_eq_of_describes h fun m hm l hl => (hls m hm l hl).1).2 t ht

/-! ### A compact form that is laid out in lines -/

/-- Whether a compact form is laid out as the lines of a front part and of sections: its common
part is the front part, its templates are those that the sections give, there is a section of
each kind that its tracks have and of no other, and its tracks can be written as lines. -/
structure LaidOut (s : Sdp) (front : List (List Char))
    (ms : List (TrackKind × List (List Char))) : Prop where
  common : s.common = textOf front
  template : ∀ k, s.template k = (templateLines? k ms).map textOf
  kinds : ∀ k, k ∈ ms.map Prod.fst ↔ k ∈ s.tracks.map SdpTrack.kind
  inner : Inner front
  frontLines : ∀ l ∈ front, Printable l
  media : ∀ m ∈ ms, IsMedia m
  lines : ∀ m ∈ ms, ∀ l ∈ m.2, Printable l
  legible : ∀ t ∈ s.tracks, t.Legible

/-- The lines of the description that a compact form is written as. -/
def writtenLines (front : List (List Char)) (ms : List (TrackKind × List (List Char)))
    (ts : List SdpTrack) : List (List Char) :=
  front ++ (ts.map (written ms)).flatMap Prod.snd

theorem textOf_append (a b : List (List Char)) :
    String.ofList ((textOf a).toList ++ joinLines b) = textOf (a ++ b) := by
  rw [textOf, textOf, String.toList_ofList, joinLines_append]

/-- Tracks whose kinds have templates are written, each with the template of its kind. -/
theorem sectionChars_eq (htemplate : ∀ k, s.template k = (templateLines? k ms).map textOf)
    (hts : ∀ t ∈ ts, ∃ tls, templateLines? t.kind ms = some tls) :
    s.sectionChars ts = .ok (joinLines ((ts.map (written ms)).flatMap Prod.snd)) := by
  induction ts with
  | nil => rfl
  | cons t ts ih =>
    obtain ⟨tls, htls⟩ := hts t (by simp)
    have htext : s.template t.kind = some (textOf tls) := by
      rw [htemplate, htls, Option.map_some]
    simp only [sectionChars, htext, ih fun t ht => hts t (List.mem_cons_of_mem _ ht)]
    simp [written, htls, textOf, joinLines_append]

namespace LaidOut

variable {front : List (List Char)} (h : LaidOut s front ms)

include h

theorem exists_templateLines (ht : t ∈ s.tracks) :
    ∃ tls, templateLines? t.kind ms = some tls :=
  Option.isSome_iff_exists.1
    (isSome_templateLines?.2 ((h.kinds t.kind).2 (List.mem_map_of_mem ht)))

theorem isMedia_written (ht : t ∈ s.tracks) : IsMedia (written ms t) := by
  obtain ⟨tls, htls⟩ := h.exists_templateLines ht
  obtain ⟨⟨opening, body, heq, hkind, hinner⟩, -⟩ := isMedia_templateLines h.media htls
  obtain rfl : tls = opening :: body := heq
  refine ⟨opening, body ++ t.ownLines, by simp [written, htls], hkind, fun l hl => ?_⟩
  rcases List.mem_append.1 hl with hl | hl
  · exact hinner l hl
  · exact inner_ownLines t l hl

theorem printable_written (ht : t ∈ s.tracks) : ∀ l ∈ (written ms t).2, Printable l := by
  intro l hl
  obtain ⟨tls, htls⟩ := h.exists_templateLines ht
  rw [written, htls] at hl
  rcases List.mem_append.1 hl with hl | hl
  · obtain ⟨-, m, hm, hlm⟩ := (isMedia_templateLines h.media htls).2 l hl
    exact h.lines m hm l hlm
  · exact printable_of_mem_ownLines (h.legible t ht) hl

/-- The first section of a kind gives back the template that it was written with. -/
theorem templateLines?_written :
    templateLines? k (s.tracks.map (written ms)) = templateLines? k ms := by
  rw [templateLines?, List.find?_map, Option.map_map]
  cases hfind : s.tracks.find? ((fun m => decide (m.1 = k)) ∘ written ms) with
  | none =>
    have hk : k ∉ s.tracks.map SdpTrack.kind := fun hmem => by
      obtain ⟨t, ht, hkind⟩ := List.mem_map.1 hmem
      exact List.find?_eq_none.1 hfind t ht (decide_eq_true hkind)
    have hnone := mt isSome_templateLines?.1 (mt (h.kinds k).1 hk)
    simpa using (Option.not_isSome_iff_eq_none.1 hnone).symm
  | some t =>
    -- none of the lines of the template belongs to a track, and all of the others do
    have hkind := List.find?_some hfind
    obtain rfl : t.kind = k := of_decide_eq_true hkind
    obtain ⟨tls, htls⟩ := h.exists_templateLines (List.mem_of_find?_eq_some hfind)
    have htemplate : tls.filter (!isTrackLine ·) = tls :=
      List.filter_eq_self.2 fun l hl => by
        simp [((isMedia_templateLines h.media htls).2 l hl).1]
    have hown : t.ownLines.filter (!isTrackLine ·) = [] :=
      List.filter_eq_nil_iff.2 fun l hl => by
        simp [SdpTrack.isTrackLine_of_mem_ownLines hl]
    simp [written, htls, htemplate, hown]

theorem describes_written (ht : t ∈ s.tracks) : Describes (written ms t) t.reread := by
  obtain ⟨tls, htls⟩ := h.exists_templateLines ht
  rw [Describes, written, htls]
  exact SdpTrack.ofSection_ownLines (h.legible t ht) fun l hl =>
    ((isMedia_templateLines h.media htls).2 l hl).1

theorem printable_writtenLines : ∀ l ∈ writtenLines front ms s.tracks, Printable l := by
  intro l hl
  rcases List.mem_append.1 hl with hl | hl
  · exact h.frontLines l hl
  · obtain ⟨_, hmem, hl⟩ := List.mem_flatMap.1 hl
    obtain ⟨t, ht, rfl⟩ := List.mem_map.1 hmem
    exact h.printable_written ht l hl

/-- Such a compact form can be written. -/
theorem decompress_eq : s.decompress = .ok (textOf (writtenLines front ms s.tracks)) := by
  have hchars := sectionChars_eq h.template fun t ht => h.exists_templateLines ht
  simp only [decompress, hchars, h.common, textOf_append, writtenLines]

/-- What is read again of it, unless nothing was written. -/
theorem compress_eq (hne : front ≠ [] ∨ s.tracks ≠ []) :
    compress (textOf (writtenLines front ms s.tracks)) =
      .ok { s with tracks := s.tracks.map SdpTrack.reread } := by
  have hwritten : ∀ m ∈ s.tracks.map (written ms), IsMedia m := by
    intro m hm
    obtain ⟨t, ht, rfl⟩ := List.mem_map.1 hm
    exact h.isMedia_written ht
  obtain ⟨hfront, hmedia⟩ := mediaSections_append h.inner hwritten
  refine compress_eq_ok_iff.2 ?_
  rw [contentLines_textOf h.printable_writtenLines]
  refine ⟨?_, ?_, fun k => ?_, ?_⟩
  · rcases hne with hne | hne
    · simp [writtenLines, hne]
    · -- the section of a track has at least its opening line
      obtain ⟨t, ts, hts⟩ := List.exists_cons_of_ne_nil hne
      have ht : t ∈ s.tracks := by simp [hts]
      obtain ⟨opening, body, heq, -⟩ := hwritten _ (List.mem_map_of_mem ht)
      simp [writtenLines, hts, heq]
  · rw [writtenLines, hfront, h.common]
  · rw [writtenLines, hmedia, h.templateLines?_written]
    exact h.template k
  · rw [writtenLines, hmedia, List.forall₂_map_left_iff, List.forall₂_map_right_iff,
      List.forall₂_same]
    exact fun t ht => h.describes_written ht

end LaidOut

/-! ### The rebuilt description -/

section Rebuilt

theorem printable_mediaSections (x : String) :
    ∀ m ∈ mediaSections (contentLines x), ∀ l ∈ m.2, Printable l := fun _ hm l hl =>
  printable_of_mem_contentLines ((isMedia_of_mem_mediaSections hm).2 l hl)

variable (h : compress x = .ok s)

include h

/-- A compact form is laid out as the front part and the sections of its description. -/
theorem laidOut_of_compress :
    LaidOut s (sections (contentLines x)).1 (mediaSections (contentLines x)) := by
  obtain ⟨-, hcommon, htemplate, hdescr⟩ := compress_eq_ok_iff.1 h
  have hls := printable_mediaSections x
  refine ⟨hcommon, htemplate, fun k => ?_, (sections_spec (contentLines x)).2.1,
    fun l hl => printable_of_mem_contentLines (mem_of_mem_front hl),
    fun m hm => (isMedia_of_mem_mediaSections hm).1, hls, fun t ht => legible_of_mem hls hdescr ht⟩
  rw [(map_fst_eq_of_describes hdescr fun m hm l hl => (hls m hm l hl).1).1]

/-- The description that is rebuilt from the compact form of another one. -/
theorem decompress_eq_textOf :
    s.decompress = .ok (textOf (writtenLines (sections (contentLines x)).1
      (mediaSections (contentLines x)) s.tracks)) :=
  (laidOut_of_compress h).decompress_eq

/-- A description has a track for each of its sections of audio and video. -/
theorem tracks_ne_nil (hx : ∃ l ∈ lines x.toList, (TrackKind.ofMediaLine? l).isSome) :
    s.tracks ≠ [] := by
  obtain ⟨-, -, -, hdescr⟩ := compress_eq_ok_iff.1 h
  obtain ⟨l, hl, hkind⟩ := hx
  obtain ⟨kind, hkind⟩ := Option.isSome_iff_exists.1 hkind
  have hopens := opensSection_of_ofMediaLine? hkind
  have hmem : l ∈ contentLines x := by
    obtain ⟨rest, rfl⟩ := List.isPrefixOf_iff_prefix.1 hopens
    refine List.mem_filter.2 ⟨hl, ?_⟩
    simp [isAllBlank, show isBlank 'm' = false by decide]
  obtain ⟨hlines, hfront, hsecs⟩ := sections_spec (contentLines x)
  -- an opening line stands neither in front of the sections nor inside of one
  have hsection : ∃ sec ∈ (sections (contentLines x)).2, sec.1 = l := by
    rw [hlines] at hmem
    rcases List.mem_append.1 hmem with hmem | hmem
    · simp [hfront l hmem] at hopens
    · obtain ⟨sec, hsec, hmem⟩ := List.mem_flatMap.1 hmem
      rcases List.mem_cons.1 hmem with rfl | hmem
      · exact ⟨sec, hsec, rfl⟩
      · simp [(hsecs sec hsec).2 l hmem] at hopens
  obtain ⟨sec, hsec, rfl⟩ := hsection
  have hmedia : (kind, sectionLines sec) ∈ mediaSections (contentLines x) :=
    List.mem_filterMap.2 ⟨sec, hsec, by simp [media?, hkind]⟩
  intro hnil
  rw [hnil, List.forall₂_nil_right_iff] at hdescr
  simp [hdescr] at hmedia

/-- The compact form of the rebuilt description. -/
theorem compress_rebuiltLines (hne : s.tracks ≠ []) :
    compress (textOf (writtenLines (sections (contentLines x)).1
        (mediaSections (contentLines x)) s.tracks)) =
      .ok { s with tracks := s.tracks.map SdpTrack.reread } :=
  (laidOut_of_compress h).compress_eq (.inr hne)

end Rebuilt

/-- **From a description to its compact form and back.**  If a description with a section of
audio or video has a compact form, then the description that is rebuilt from it has a compact
form too.  That one has the same front part and the same templates and, section by section,
what comes back of a track that is written and read again; and it is the first compact form
exactly if every track is lossless. -/
theorem compress_decompress (x : String) (s : Sdp) (h : compress x = .ok s)
    (hx : ∃ l ∈ lines x.toList, (TrackKind.ofMediaLine? l).isSome) :
    ∃ y, s.decompress = .ok y ∧
      compress y = .ok { s with tracks := s.tracks.map SdpTrack.reread } ∧
      (compress y = .ok s ↔ ∀ t ∈ s.tracks, t.Lossless) := by
  have hrebuilt := compress_rebuiltLines h (tracks_ne_nil h hx)
  refine ⟨_, decompress_eq_textOf h, hrebuilt, ?_⟩
  obtain ⟨-, -, -, hdescr⟩ := compress_eq_ok_iff.1 h
  have hlegible : ∀ t ∈ s.tracks, t.Legible := fun t ht =>
    legible_of_mem (printable_mediaSections x) hdescr ht
  have hsame : { s with tracks := s.tracks.map SdpTrack.reread } = s ↔
      s.tracks.map SdpTrack.reread = s.tracks := by
    obtain ⟨⟩ := s
    simp
  rw [hrebuilt, Except.ok.injEq, hsame]
  have hmap : s.tracks.map SdpTrack.reread = s.tracks ↔ ∀ t ∈ s.tracks, t.reread = t := by
    simpa using List.map_inj_left (l := s.tracks) (f := SdpTrack.reread) (g := id)
  exact hmap.trans (forall₂_congr fun t ht => SdpTrack.reread_eq_self_iff (hlegible t ht))

/-- An offer whose one track has a stream and a name, and a source with a canonical name. -/
def plainOffer : String :=
  "v=0\r\nm=audio 9 RTP/AVP 0\r\nc=IN IP4 0.0.0.0\r\n" ++
    "a=mid:0\r\na=msid:s voice\r\na=ssrc:7 cname:me\r\n"

/-- The compact form of this offer. -/
def plainCompact : Sdp where
  common := "v=0\r\n"
  audioTemplate := some "m=audio 9 RTP/AVP 0\r\nc=IN IP4 0.0.0.0\r\n"
  videoTemplate := none
  tracks := [⟨.audio, 0, .sendRecv, some "s", some "voice", [(7, "me")], []⟩]

theorem compress_decompress_plainOffer :
    compress plainOffer = .ok plainCompact ∧
      ∃ y, plainCompact.decompress = .ok y ∧ compress y = .ok plainCompact := by
  have h : compress plainOffer = .ok plainCompact := by decide +kernel
  obtain ⟨y, hy, -, hiff⟩ := compress_decompress plainOffer plainCompact h (by decide +kernel)
  refine ⟨h, y, hy, hiff.2 ?_⟩
  simp [plainCompact, SdpTrack.Lossless]

/-- An offer with a stream whose track has no name, and with a source that has neither a
canonical name nor a stream. -/
def sparseOffer : String :=
  "v=0\r\nm=audio 9 RTP/AVP 0\r\na=mid:0\r\na=msid:s\r\n" ++
    "m=video 9 RTP/AVP 96\r\na=mid:1\r\na=ssrc:7 msid:s v\r\n"

/-- The nameless track comes back with a name, and the source is lost. -/
theorem sparseOffer_altered :
    ∃ s y s', compress sparseOffer = .ok s ∧ s.decompress = .ok y ∧ compress y = .ok s' ∧
      s.tracks.map (·.trackId) = [none, none] ∧ s'.tracks.map (·.trackId) = [some "-", none] ∧
      s.tracks.map (·.ssrcs) = [[], [(7, "")]] ∧ s'.tracks.map (·.ssrcs) = [[], []] ∧
      s' ≠ s := by
  refine ⟨⟨"v=0\r\n", some "m=audio 9 RTP/AVP 0\r\n", some "m=video 9 RTP/AVP 96\r\n",
      [⟨.audio, 0, .sendRecv, some "s", none, [], []⟩,
        ⟨.video, 1, .sendRecv, none, none, [(7, "")], []⟩]⟩,
    "v=0\r\nm=audio 9 RTP/AVP 0\r\na=mid:0\r\na=sendrecv\r\na=msid:s -\r\n" ++
      "m=video 9 RTP/AVP 96\r\na=mid:1\r\na=sendrecv\r\n",
    ⟨"v=0\r\n", some "m=audio 9 RTP/AVP 0\r\n", some "m=video 9 RTP/AVP 96\r\n",
      [⟨.audio, 0, .sendRecv, some "s", some "-", [], []⟩,
        ⟨.video, 1, .sendRecv, none, none, [], []⟩]⟩, ?_⟩
  decide +kernel

end GroupCall.Sdp
