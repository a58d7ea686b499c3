/-
# What an offer says of the tracks of an engine

The engine writes one section per track, and the compact form has one track per section.  If
there is a compact form, it therefore lists the tracks of the engine in their order, each with
its number, its kind and its direction; sending one of them in layers does not change that.
What is written of sources matters to neither.

There is a compact form if the numbers of the sources have 64 bits, and then it says of the
sources of every track what the offer says of them.
-/
import GroupCall.Call.Engine
import GroupCall.Proofs.Sdp.Layers
import GroupCall.Proofs.Sdp.RoundTrip

namespace GroupCall

open Text

/-- What a description says of a track, but for its sources. -/
structure TrackOutline where
  /-- The number. -/
  mid : Mid
  /-- The kind. -/
  kind : TrackKind
  /-- The direction. -/
  direction : Direction
deriving DecidableEq, Repr

/-- The outline of a track of the engine; one without a number is offered under zero. -/
def MediaTrack.outline (t : MediaTrack) : TrackOutline := ⟨t.mid.getD 0, t.kind, t.direction⟩

/-- The outline of a track of a description. -/
def SdpTrack.outline (t : SdpTrack) : TrackOutline := ⟨t.mid, t.kind, t.direction⟩

/-- The outlines of the tracks of a description, in their order. -/
def Sdp.outlines (sdp : Sdp) : List TrackOutline := sdp.tracks.map SdpTrack.outline

/-! ## Sources -/

namespace Sdp

/-- The attributes that tell of the sources of a track. -/
def sourceAttributes : List (List Char) := ["msid", "ssrc", "ssrc-group"].map String.toList

/-- A line that tells of the sources of a track. -/
def IsSourceLine (line : List Char) : Prop :=
  ∃ name value, attribute? line = some (name, value) ∧ name ∈ sourceAttributes

theorem isSourceLine_colon (name value : List Char) (hcolon : ':' ∉ name)
    (hname : name ∈ sourceAttributes) : IsSourceLine ("a=".toList ++ (name ++ ':' :: value)) :=
  ⟨name, value, SdpTrack.attribute?_colon name value hcolon, hname⟩

end Sdp

namespace SdpTrack

variable {t t' : SdpTrack} {o o' : Option Mid} {ls : List (List Char)}

/-- What is said of sources changes no outline. -/
theorem readAttribute_of_source {line name value : List Char} (hname : name ∈ Sdp.sourceAttributes)
    (h : readAttribute line name value t o = .ok (t', o')) :
    t'.kind = t.kind ∧ t'.direction = t.direction ∧ o' = o := by
  simp only [Sdp.sourceAttributes, List.map_cons, List.map_nil, List.mem_cons, List.not_mem_nil,
    or_false] at hname
  rcases hname with rfl | rfl | rfl
  · cases h
    exact ⟨rfl, rfl, rfl⟩
  · simp only [readAttribute] at h
    rw [if_neg (by decide), if_neg (by decide), if_neg (by decide), if_pos trivial] at h
    split at h
    · cases h
      exact ⟨rfl, rfl, rfl⟩
    · cases h
  · cases h
    exact ⟨rfl, rfl, rfl⟩

theorem readLines_of_sources (hls : ∀ l ∈ ls, Sdp.IsSourceLine l)
    (h : readLines t o ls = .ok (t', o')) :
    t'.kind = t.kind ∧ t'.direction = t.direction ∧ o' = o := by
  induction ls generalizing t o with
  | nil =>
    cases h
    exact ⟨rfl, rfl, rfl⟩
  | cons line rest ih =>
    obtain ⟨name, value, hattr, hname⟩ := hls line List.mem_cons_self
    simp only [readLines, hattr] at h
    split at h
    · rename_i t₁ o₁ hread
      obtain ⟨hkind, hdirection, ho⟩ := readAttribute_of_source hname hread
      obtain ⟨hkind', hdirection', ho'⟩ :=
        ih (fun l hl => hls l (List.mem_cons_of_mem _ hl)) h
      exact ⟨hkind'.trans hkind, hdirection'.trans hdirection, ho'.trans ho⟩
    · cases h

/-- Layers are a matter of sources. -/
theorem outline_munge (t : SdpTrack) : t.munge.1.outline = t.outline := by
  obtain ⟨e, heq⟩ | ⟨v, r, hpair⟩ := t.munge_cases
  · rw [heq]
  · obtain ⟨videoName, rtxName, -, -, heq⟩ := hpair.munge_eq
    rw [heq]
    rfl

end SdpTrack

theorem Sdp.outlines_layered (sdp : Sdp) (index : Nat) :
    (sdp.layered index).outlines = sdp.outlines := by
  rw [layered, munge]
  split
  · rfl
  · rename_i track htrack
    obtain ⟨hlt, rfl⟩ := List.getElem?_eq_some_iff.1 htrack
    rw [outlines, outlines, List.map_set, SdpTrack.outline_munge, ← List.map_set,
      List.set_getElem_self]

/-! ## Sections -/

namespace MediaEngine

/-- The sections of tracks with their kinds. -/
def parts (source : Nat) : List MediaTrack → List (TrackKind × List (List Char))
  | [] => []
  | t :: rest => (t.kind, trackSection source t) :: parts (nextSource source t) rest

theorem sections_eq (source : Nat) (tracks : List MediaTrack) :
    sections source tracks = (parts source tracks).flatMap Prod.snd := by
  induction tracks generalizing source with
  | nil => rfl
  | cons t rest ih => rw [sections, ih, parts, List.flatMap_cons]

theorem exists_of_mem_parts {source : Nat} {tracks : List MediaTrack}
    {part : TrackKind × List (List Char)} (h : part ∈ parts source tracks) :
    ∃ source' t, part = (t.kind, trackSection source' t) := by
  induction tracks generalizing source with
  | nil => cases h
  | cons t rest ih =>
    rcases List.mem_cons.1 h with rfl | hrest
    · exact ⟨source, t, rfl⟩
    · exact ih hrest

/-- A line that is read again and opens no section. -/
def Ordinary (l : List Char) : Prop := Sdp.Printable l ∧ Sdp.opensSection l = false

theorem ordinary_attribute (rest : List Char) (h : '\n' ∉ rest) :
    Ordinary ("a=".toList ++ rest) := by
  refine ⟨⟨?_, ?_⟩, rfl⟩
  · simpa using h
  · simp [isAllBlank, show isBlank 'a' = false by decide]

theorem notMem_decimal (n : Nat) : '\n' ∉ decimal n := (isWord_decimal n).not_mem (by decide)

theorem notMem_joinWith {pieces : List (List Char)} (h : ∀ piece ∈ pieces, '\n' ∉ piece) :
    '\n' ∉ joinWith ' ' pieces := by
  induction pieces using joinWith.induct with
  | case1 => simp [joinWith]
  | case2 piece => exact h piece List.mem_cons_self
  | case3 piece next rest ih =>
    have hrest := ih fun p hp => h p (List.mem_cons_of_mem _ hp)
    simpa [joinWith, h piece List.mem_cons_self] using hrest

theorem ordinary_sessionLines (tracks : List MediaTrack) :
    ∀ l ∈ sessionLines tracks, Ordinary l := by
  have hgroup : '\n' ∉ joinWith ' ' (tracks.map fun t => decimal (t.mid.getD 0).toNat) := by
    refine notMem_joinWith fun piece hpiece => ?_
    obtain ⟨t, -, rfl⟩ := List.mem_map.1 hpiece
    exact notMem_decimal _
  have hfixed : ∀ l ∈ ["v=0".toList, "o=- 0 2 IN IP4 127.0.0.1".toList, "s=-".toList,
      "t=0 0".toList], Ordinary l := by
    simp only [Ordinary, Sdp.Printable]
    decide
  intro l hl
  rcases List.mem_append.1 (show l ∈ ["v=0".toList, "o=- 0 2 IN IP4 127.0.0.1".toList,
      "s=-".toList, "t=0 0".toList] ++ _ from hl) with hl | hl
  · exact hfixed l hl
  · obtain rfl := List.mem_singleton.1 hl
    exact ordinary_attribute ("group:BUNDLE ".toList ++ _) (by simpa using hgroup)

/-- The lines about the sources of a section. -/
def sourceTail (source : Nat) (t : MediaTrack) : List (List Char) :=
  if t.direction = .recvOnly then []
  else ("a=msid:local track".toList ++ decimal (t.mid.getD 0).toNat) :: sourceLines source t.kind

theorem trackSection_eq (source : Nat) (t : MediaTrack) :
    trackSection source t = openingLines t.kind ++
      (("a=mid:".toList ++ decimal (t.mid.getD 0).toNat) ::
        ("a=".toList ++ t.direction.name.toList) :: sourceTail source t) := by
  rw [trackSection, sourceTail, List.append_assoc]
  rfl

/-- A line about the sources of a section is of one of three forms: it names the track, it groups
its two sources, or it is about one of them. -/
theorem mem_sourceTail {source : Nat} {t : MediaTrack} {l : List Char}
    (h : l ∈ sourceTail source t) :
    l = "a=msid:local track".toList ++ decimal (t.mid.getD 0).toNat ∨
      l = "a=ssrc-group:".toList ++ ("FID ".toList ++ decimal source ++
        ' ' :: decimal (source + 500)) ∨
      ∃ n, l = sourceLine n := by
  rw [sourceTail] at h
  split at h
  · cases h
  · rcases List.mem_cons.1 h with rfl | h
    · exact Or.inl rfl
    · cases hkind : t.kind <;> rw [hkind] at h <;>
        simp only [sourceLines, List.mem_cons, List.not_mem_nil, or_false] at h
      · exact Or.inr (Or.inr ⟨source, h⟩)
      · rcases h with rfl | rfl | rfl
        · exact Or.inr (Or.inl rfl)
        · exact Or.inr (Or.inr ⟨source, rfl⟩)
        · exact Or.inr (Or.inr ⟨source + 500, rfl⟩)

theorem sourceLine_eq (source : Nat) :
    sourceLine source = "a=ssrc:".toList ++ (decimal source ++ " cname:headless".toList) :=
  List.append_assoc _ _ _

theorem isSourceLine_sourceLine (source : Nat) : Sdp.IsSourceLine (sourceLine source) := by
  rw [sourceLine_eq]
  exact Sdp.isSourceLine_colon "ssrc".toList (decimal source ++ " cname:headless".toList)
    (by decide) (by decide)

theorem isSourceLine_of_mem {source : Nat} {t : MediaTrack} {l : List Char}
    (h : l ∈ sourceTail source t) : Sdp.IsSourceLine l := by
  obtain rfl | rfl | ⟨n, rfl⟩ := mem_sourceTail h
  · exact Sdp.isSourceLine_colon "msid".toList ("local track".toList ++ _) (by decide) (by decide)
  · exact Sdp.isSourceLine_colon "ssrc-group".toList _ (by decide) (by decide)
  · exact isSourceLine_sourceLine n

theorem ordinary_of_mem_sourceTail {source : Nat} {t : MediaTrack} {l : List Char}
    (h : l ∈ sourceTail source t) : Ordinary l := by
  obtain rfl | rfl | ⟨n, rfl⟩ := mem_sourceTail h
  · exact ordinary_attribute ("msid:local track".toList ++ _) (by simp [notMem_decimal])
  · exact ordinary_attribute ("ssrc-group:".toList ++ _) (by simp [notMem_decimal])
  · rw [sourceLine_eq]
    exact ordinary_attribute ("ssrc:".toList ++ (decimal n ++ " cname:headless".toList))
      (by simp [notMem_decimal])

/-- The opening line of a section opens one of its kind, and no other line opens any. -/
theorem openingLines_cut (kind : TrackKind) :
    ∃ opening rest, openingLines kind = opening :: rest ∧
      TrackKind.ofMediaLine? opening = some kind ∧ Sdp.Printable opening ∧
      ∀ l ∈ rest, Ordinary l := by
  simp only [Ordinary, Sdp.Printable]
  cases kind
  · exact ⟨_, _, rfl, by decide, by decide, by decide⟩
  · exact ⟨_, _, rfl, by decide, by decide, by decide⟩

theorem trackSection_cut (source : Nat) (t : MediaTrack) :
    ∃ opening body, trackSection source t = opening :: body ∧
      TrackKind.ofMediaLine? opening = some t.kind ∧ Sdp.Printable opening ∧
      ∀ l ∈ body, Ordinary l := by
  obtain ⟨opening, rest, heq, hkind, hopening, hrest⟩ := openingLines_cut t.kind
  refine ⟨opening, rest ++ (("a=mid:".toList ++ decimal (t.mid.getD 0).toNat) ::
    ("a=".toList ++ t.direction.name.toList) :: sourceTail source t), ?_, hkind, hopening, ?_⟩
  · rw [trackSection_eq, heq, List.cons_append]
  · intro l hl
    rcases List.mem_append.1 hl with hl | hl
    · exact hrest l hl
    · rcases List.mem_cons.1 hl with rfl | hl
      · exact ordinary_attribute ("mid:".toList ++ _) (by simp [notMem_decimal])
      · rcases List.mem_cons.1 hl with rfl | hl
        · exact ordinary_attribute _ (by cases t.direction <;> decide)
        · exact ordinary_of_mem_sourceTail hl

/-! ## The compact form of an offer -/

/-- The lines of an offer are read again as they were written. -/
theorem contentLines_offerText (tracks : List MediaTrack) :
    Sdp.contentLines (offerText tracks) =
      sessionLines tracks ++ (parts firstSource tracks).flatMap Prod.snd := by
  have hprintable : ∀ l ∈ sessionLines tracks ++ (parts firstSource tracks).flatMap Prod.snd,
      Sdp.Printable l := by
    intro l hl
    rcases List.mem_append.1 hl with hl | hl
    · exact (ordinary_sessionLines tracks l hl).1
    · obtain ⟨part, hpart, hl⟩ := List.mem_flatMap.1 hl
      obtain ⟨source, t, rfl⟩ := exists_of_mem_parts hpart
      obtain ⟨opening, body, heq, -, hopening, hbody⟩ := trackSection_cut source t
      rw [heq] at hl
      rcases List.mem_cons.1 hl with rfl | hl
      · exact hopening
      · exact (hbody l hl).1
  rw [offerText, sections_eq]
  exact Sdp.contentLines_textOf hprintable

/-- The sections of an offer are found again. -/
theorem mediaSections_offerText (tracks : List MediaTrack) :
    Sdp.mediaSections (Sdp.contentLines (offerText tracks)) = parts firstSource tracks := by
  have hfront : Sdp.Inner (sessionLines tracks) :=
    fun l hl => (ordinary_sessionLines tracks l hl).2
  have hmedia : ∀ part ∈ parts firstSource tracks, Sdp.IsMedia part := by
    intro part hpart
    obtain ⟨source, t, rfl⟩ := exists_of_mem_parts hpart
    obtain ⟨opening, body, heq, hkind, -, hbody⟩ := trackSection_cut source t
    exact ⟨opening, body, heq, hkind, fun l hl => (hbody l hl).2⟩
  rw [contentLines_offerText]
  exact (Sdp.mediaSections_append hfront hmedia).2

/-- Whatever track the section of a track describes has its outline. -/
theorem outline_of_describes {source : Nat} {t : MediaTrack} {track : SdpTrack}
    (h : Sdp.Describes (t.kind, trackSection source t) track) : track.outline = t.outline := by
  have hopening : ∀ l ∈ openingLines t.kind, Sdp.isTrackLine l = false := by
    cases t.kind <;> decide
  rw [Sdp.Describes, trackSection_eq, SdpTrack.ofSection, SdpTrack.readLines_template hopening,
    SdpTrack.readLines_mid, SdpTrack.readLines_direction] at h
  split at h
  · rename_i track' mid hread
    obtain ⟨hkind, hdirection, hmid⟩ :=
      SdpTrack.readLines_of_sources (fun l hl => isSourceLine_of_mem hl) hread
    cases hmid
    cases h
    rw [SdpTrack.outline, hkind, hdirection]
    rfl
  · cases h
  · cases h

/-- The compact form of an offer lists the tracks that it was made of, in their order. -/
theorem outlines_of_compress {tracks : List MediaTrack} {sdp : Sdp}
    (h : Sdp.compress (offerText tracks) = .ok sdp) :
    sdp.outlines = tracks.map MediaTrack.outline := by
  obtain ⟨-, -, -, hdescribes⟩ := Sdp.compress_eq_ok_iff.1 h
  rw [mediaSections_offerText] at hdescribes
  rw [Sdp.outlines]
  clear h
  -- the number of the first source differs from section to section
  generalize firstSource = source, sdp.tracks = described at hdescribes
  induction tracks generalizing source described with
  | nil =>
    cases hdescribes
    rfl
  | cons t rest ih =>
    obtain ⟨track, others, hfirst, hrest, rfl⟩ := List.forall₂_cons_left_iff.1 hdescribes
    rw [List.map_cons, List.map_cons, outline_of_describes hfirst, ih _ _ hrest]

/-! ## What an offer says of sources -/

/-- The sources of a track that sends, with their canonical names. -/
def namedSources (source : Nat) : TrackKind → List (UInt64 × String)
  | .audio => [(.ofNat source, "headless")]
  | .video => [(.ofNat source, "headless"), (.ofNat (source + 500), "headless")]

/-- The groups of its sources. -/
def sourceGroups (source : Nat) : TrackKind → List String
  | .audio => []
  | .video => [SdpTrack.fidGroup (.ofNat source) (.ofNat (source + 500))]

/-- What the section of a track says of it. -/
def described (source : Nat) (t : MediaTrack) : SdpTrack :=
  let mid := t.mid.getD 0
  if t.direction = .recvOnly then ⟨t.kind, mid, t.direction, none, none, [], []⟩
  else
    ⟨t.kind, mid, t.direction, some "local",
      some (String.ofList ("track".toList ++ decimal mid.toNat)), namedSources source t.kind,
      sourceGroups source t.kind⟩

theorem isWord_append {a b : List Char} (ha : IsWord a) (hb : IsWord b) : IsWord (a ++ b) := by
  refine ⟨by simp [ha.1], fun c hc => ?_⟩
  rcases List.mem_append.1 hc with hc | hc
  · exact ha.2 c hc
  · exact hb.2 c hc

section Reading

variable {t : SdpTrack} {o : Option Mid} {source : Nat} {value : List Char}

theorem readLines_msidLine (h : IsWord value) (more : List (List Char)) :
    SdpTrack.readLines t o (("a=msid:local track".toList ++ value) :: more) =
      SdpTrack.readLines { t with
        streamId := some "local", trackId := some (String.ofList ("track".toList ++ value)) } o
        more := by
  have hstream : IsWord "local".toList := isWord_of_all (by decide) (by decide)
  have htrack : IsWord "track".toList := isWord_of_all (by decide) (by decide)
  exact SdpTrack.readLines_msid hstream (isWord_append htrack h) more

theorem readLines_sourceLine (h : source < UInt64.size) (more : List (List Char)) :
    SdpTrack.readLines t o (sourceLine source :: more) =
      SdpTrack.readLines { t with
        ssrcs := SdpTrack.addSsrc (.ofNat source) (some "headless") t.ssrcs } o more := by
  have hsource : (UInt64.ofNat source).toNat = source := UInt64.toNat_ofNat_of_lt h
  have hread := SdpTrack.readLines_ssrc_cname (t := t) (o := o) (.ofNat source) "headless" more
  rw [hsource, List.append_assoc, List.append_assoc] at hread
  rw [sourceLine_eq]
  exact hread

theorem readLines_groupLine (h : source + 500 < UInt64.size) (more : List (List Char)) :
    SdpTrack.readLines t o
        (("a=ssrc-group:FID ".toList ++ decimal source ++ ' ' :: decimal (source + 500)) :: more) =
      SdpTrack.readLines { t with
        ssrcGroups := t.ssrcGroups ++
          [SdpTrack.fidGroup (.ofNat source) (.ofNat (source + 500))] } o more := by
  have hsource : (UInt64.ofNat source).toNat = source := UInt64.toNat_ofNat_of_lt (by omega)
  have hrtx : (UInt64.ofNat (source + 500)).toNat = source + 500 := UInt64.toNat_ofNat_of_lt h
  have hgroup : (SdpTrack.fidGroup (.ofNat source) (.ofNat (source + 500))).toList =
      "FID ".toList ++ decimal source ++ ' ' :: decimal (source + 500) := by
    rw [SdpTrack.toList_fidGroup, hsource, hrtx]
  have hread := SdpTrack.readLines_groups (t := t) (o := o)
    [SdpTrack.fidGroup (.ofNat source) (.ofNat (source + 500))] more
  rw [List.map_singleton, List.singleton_append, hgroup] at hread
  exact hread

/-- The two sources of a video track have different numbers. -/
theorem source_ne_rtx (h : source + 500 < UInt64.size) :
    UInt64.ofNat source ≠ UInt64.ofNat (source + 500) := by
  intro heq
  have hnat := congrArg UInt64.toNat heq
  rw [UInt64.toNat_ofNat_of_lt' (by omega), UInt64.toNat_ofNat_of_lt' h] at hnat
  omega

/-- Sources with numbers of 64 bits are read as they were offered. -/
theorem readLines_sourceLines (h : source + 500 < UInt64.size) (hssrcs : t.ssrcs = [])
    (hgroups : t.ssrcGroups = []) (kind : TrackKind) :
    SdpTrack.readLines t o (sourceLines source kind) =
      .ok ({ t with
        ssrcs := namedSources source kind, ssrcGroups := sourceGroups source kind }, o) := by
  have hfirst : source < UInt64.size := by omega
  obtain ⟨⟩ := t
  subst hssrcs hgroups
  cases kind with
  | audio => exact readLines_sourceLine hfirst []
  | video =>
    -- the second source is listed behind the first one, since it is another one
    have hboth : SdpTrack.addSsrc (.ofNat (source + 500)) (some "headless")
        (SdpTrack.addSsrc (.ofNat source) (some "headless") []) = namedSources source .video := by
      rw [SdpTrack.addSsrc, SdpTrack.addSsrc, if_neg (source_ne_rtx h)]
      rfl
    refine (readLines_groupLine h _).trans ((readLines_sourceLine hfirst _).trans
      ((readLines_sourceLine h []).trans ?_))
    rw [← hboth]
    rfl

end Reading

/-- The section of a track describes it, if its sources have numbers of 64 bits. -/
theorem describes_described {source : Nat} (h : source + 500 < UInt64.size) (t : MediaTrack) :
    Sdp.Describes (t.kind, trackSection source t) (described source t) := by
  have hopening : ∀ l ∈ openingLines t.kind, Sdp.isTrackLine l = false := by
    cases t.kind <;> decide
  rw [Sdp.Describes, trackSection_eq, SdpTrack.ofSection, SdpTrack.readLines_template hopening,
    SdpTrack.readLines_mid, SdpTrack.readLines_direction, sourceTail, described]
  by_cases hrecv : t.direction = .recvOnly
  · rw [if_pos hrecv, if_pos hrecv]
    rfl
  · rw [if_neg hrecv, if_neg hrecv, readLines_msidLine (isWord_decimal _),
      readLines_sourceLines h rfl rfl]
    rfl

/-- What an offer says of its tracks, from a first source on. -/
def describedTracks (source : Nat) : List MediaTrack → List SdpTrack
  | [] => []
  | t :: rest => described source t :: describedTracks (nextSource source t) rest

/-- A track takes no more than ten numbers. -/
theorem nextSource_le (source : Nat) (t : MediaTrack) : nextSource source t ≤ source + 10 := by
  rw [nextSource]
  split
  · omega
  · split <;> omega

theorem forall₂_describes {source : Nat} {tracks : List MediaTrack}
    (h : source + 10 * tracks.length + 500 ≤ UInt64.size) :
    List.Forall₂ Sdp.Describes (parts source tracks) (describedTracks source tracks) := by
  induction tracks generalizing source with
  | nil => exact .nil
  | cons t rest ih =>
    rw [List.length_cons] at h
    have hnext := nextSource_le source t
    exact .cons (describes_described (by omega) t) (ih (by omega))

/-- There is a description of any parts. -/
theorem exists_sdp (common : String) (template : TrackKind → Option String)
    (tracks : List SdpTrack) :
    ∃ sdp : Sdp, sdp.common = common ∧ (∀ kind, sdp.template kind = template kind) ∧
      sdp.tracks = tracks :=
  ⟨⟨common, template .audio, template .video, tracks⟩, rfl, fun kind => by cases kind <;> rfl, rfl⟩

/-- An offer has a compact form, as long as its sources have numbers of 64 bits, and this form says
of every track what the offer says of it. -/
theorem exists_compress {tracks : List MediaTrack}
    (h : firstSource + 10 * tracks.length + 500 ≤ UInt64.size) :
    ∃ sdp, Sdp.compress (offerText tracks) = .ok sdp ∧
      sdp.tracks = describedTracks firstSource tracks := by
  have hdescribes := forall₂_describes h
  rw [← mediaSections_offerText] at hdescribes
  have hlines : Sdp.contentLines (offerText tracks) ≠ [] := by
    rw [contentLines_offerText]
    simp [sessionLines]
  obtain ⟨sdp, hcommon, htemplate, htracks⟩ := exists_sdp _ _ (describedTracks firstSource tracks)
  rw [← htracks] at hdescribes
  exact ⟨sdp, Sdp.compress_eq_ok_iff.2 ⟨hlines, hcommon, htemplate, hdescribes⟩, htracks⟩

end MediaEngine
end GroupCall
