/-
# What becomes of bundled sections

The lines in front of the sections may list the numbers of sections that share one transport.  The
compact form keeps these lines as they are, and it leaves out the sections that are neither audio
nor video.  So a description that is rebuilt may list a number under which it has no section.  This
file says when that is so: a listed number is that of a rebuilt section exactly if it is that of a
section of audio or video and stands in plain decimal digits, as a rebuilt section writes it.
-/
import GroupCall.Proofs.Sdp.RoundTrip

namespace GroupCall.Sdp

open Text

variable {x : String} {s : Sdp} {line name value : List Char} {ls : List (List Char)}
  {ms : List (TrackKind × List (List Char))} {t t' : SdpTrack} {o o' : Option Mid}

/-! ### Which numbers are listed, and which are there -/

/-- The numbers of the sections that a line bundles, as they are written. -/
def bundleLine (line : List Char) : List (List Char) :=
  match attribute? line with
  | some (name, value) =>
    if name = "group".toList then
      match words value with
      | semantics :: mids => if semantics = "BUNDLE".toList then mids else []
      | [] => []
    else []
  | none => []

/-- The numbers of sections that the lines in front of the sections bundle. -/
def bundled (ls : List (List Char)) : List (List Char) := (sections ls).1.flatMap bundleLine

/-- The number of a section that a line gives, as it is written. -/
def midLine? (line : List Char) : Option (List Char) :=
  match attribute? line with
  | some (name, value) => if name = "mid".toList then some (trim value) else none
  | none => none

/-- The number of a section, as it is written in the last line that gives one. -/
def sectionMid? (ls : List (List Char)) : Option (List Char) := (ls.filterMap midLine?).getLast?

/-- Every number that is bundled is that of a section. -/
def BundleResolves (x : String) : Prop :=
  ∀ mid ∈ bundled (contentLines x), ∃ sec ∈ (sections (contentLines x)).2,
    sectionMid? (sectionLines sec) = some mid

instance (x : String) : Decidable (BundleResolves x) :=
  inferInstanceAs (Decidable (∀ mid ∈ bundled (contentLines x),
    ∃ sec ∈ (sections (contentLines x)).2, sectionMid? (sectionLines sec) = some mid))

/-- The number of a section as it is written anew. -/
def rewrittenMid? (ls : List (List Char)) : Option (List Char) :=
  ((sectionMid? ls).bind readUInt32?).map fun mid => decimal mid.toNat

/-! ### The number of a section that is read -/

theorem midLine?_of_ne (h : attribute? line = some (name, value)) (hname : name ≠ "mid".toList) :
    midLine? line = none := by
  rw [midLine?, h]
  exact if_neg hname

theorem midLine?_of_not_isTrackLine (h : isTrackLine line = false) : midLine? line = none := by
  rw [midLine?]
  split
  · next name value hattr =>
    refine if_neg fun hname => ?_
    rw [isTrackLine, hattr, hname] at h
    have hmid : trackAttributes.contains "mid".toList = false := h
    exact absurd hmid (by decide)
  · rfl

theorem number_of_ok (h : (.ok (t, o) : Except SdpError (SdpTrack × Option Mid)) = .ok (t', o')) :
    o' = o :=
  (Prod.mk.inj (Except.ok.inj h)).2.symm

theorem mid_of_readAttribute
    (h : SdpTrack.readAttribute line name value t o = .ok (t', o')) :
    o' = if name = "mid".toList then readUInt32? (trim value) else o := by
  rw [SdpTrack.readAttribute] at h
  split at h
  · next hname =>
    rw [if_pos hname]
    split at h
    · next n hn =>
      rw [hn]
      exact number_of_ok h
    · cases h
  · next hname =>
    rw [if_neg hname]
    -- no other attribute gives a number
    split_ifs at h
    · exact number_of_ok h
    · exact number_of_ok h
    · dsimp only at h
      split at h
      · exact number_of_ok h
      · cases h
    · split at h
      · exact number_of_ok h
      · exact number_of_ok h

/-- The lines of a section give its number one after the other. -/
theorem mid_of_readLines (h : SdpTrack.readLines t o ls = .ok (t', o')) :
    o' = (ls.filterMap midLine?).foldl (fun _ mid => readUInt32? mid) o := by
  induction ls generalizing t o with
  | nil => exact number_of_ok h
  | cons line ls ih =>
    rw [SdpTrack.readLines] at h
    rw [List.filterMap_cons, midLine?]
    split at h
    · next hattr =>
      rw [hattr]
      exact ih h
    · next name value hattr =>
      split at h
      · next t₁ o₁ hread =>
        have ho := mid_of_readAttribute hread
        rw [hattr, ih h, ho]
        dsimp only
        split <;> rfl
      · cases h

theorem foldl_eq_bind_getLast? {α β : Type} (f : α → Option β) (l : List α) :
    l.foldl (fun _ a => f a) none = l.getLast?.bind f := by
  induction l using List.reverseRecOn with
  | nil => rfl
  | append_singleton l a ih => simp

/-- A track has the number of its section. -/
theorem mid_of_describes {m : TrackKind × List (List Char)} (h : Describes m t) :
    rewrittenMid? m.2 = some (decimal t.mid.toNat) := by
  rw [Describes, SdpTrack.ofSection] at h
  split at h
  · next t₁ mid hread =>
    have hmid : some mid = (sectionMid? m.2).bind readUInt32? := by
      rw [sectionMid?, ← foldl_eq_bind_getLast?]
      exact mid_of_readLines hread
    obtain rfl := Except.ok.inj h
    rw [rewrittenMid?, ← hmid, Option.map_some]
  · cases h
  · cases h

/-! ### The number of a section that is written -/

theorem midLine?_of_mem_ssrcLines {msid : Option (List Char)} {id : UInt64} {cname : String}
    (h : line ∈ SdpTrack.ssrcLines msid id cname) : midLine? line = none := by
  have hssrc (rest : List Char) : midLine? ("a=ssrc:".toList ++ rest) = none :=
    midLine?_of_ne (SdpTrack.attribute?_colon "ssrc".toList rest (by decide)) (by decide)
  rcases List.mem_append.1 h with h | h
  · split at h
    · cases h
    · obtain rfl := List.mem_singleton.1 h
      simpa using hssrc _
  · split at h
    · obtain rfl := List.mem_singleton.1 h
      simpa using hssrc _
    · cases h

/-- Of the lines of a track only the first one gives a number. -/
theorem filterMap_ownLines (t : SdpTrack) :
    t.ownLines.filterMap midLine? = [decimal t.mid.toNat] := by
  have hattr : attribute? ("a=mid:".toList ++ decimal t.mid.toNat) =
      some ("mid".toList, decimal t.mid.toNat) :=
    SdpTrack.attribute?_colon "mid".toList _ (by decide)
  have hmid : midLine? ("a=mid:".toList ++ decimal t.mid.toNat) = some (decimal t.mid.toNat) := by
    rw [midLine?, hattr]
    simp [trim_of_isWord (isWord_decimal _)]
  have hothers : ∀ line ∈ t.ownLines.tail, midLine? line = none := by
    rw [SdpTrack.ownLines_eq]
    intro line hline
    simp only [List.tail_cons, List.mem_cons, List.mem_append, Option.mem_toList, List.mem_map,
      List.mem_flatMap] at hline
    rcases hline with rfl | hmsid | ⟨group, -, rfl⟩ | ⟨source, -, hline⟩
    · exact midLine?_of_ne
        (SdpTrack.attribute?_flag t.direction.name.toList (by cases t.direction <;> decide))
        (by cases t.direction <;> decide)
    · obtain ⟨msid, -, rfl⟩ := Option.map_eq_some_iff.1 hmsid
      exact midLine?_of_ne (SdpTrack.attribute?_colon "msid".toList msid (by decide)) (by decide)
    · exact midLine?_of_ne
        (SdpTrack.attribute?_colon "ssrc-group".toList group.toList (by decide)) (by decide)
    · exact midLine?_of_mem_ssrcLines hline
  rw [SdpTrack.ownLines_eq] at hothers ⊢
  rw [List.filterMap_cons, hmid]
  exact congrArg _ (List.filterMap_eq_nil_iff.2 hothers)

theorem sectionMid?_written (hms : ∀ m ∈ ms, IsMedia m)
    (htls : ∃ tls, templateLines? t.kind ms = some tls) :
    sectionMid? (written ms t).2 = some (decimal t.mid.toNat) := by
  obtain ⟨tls, htls⟩ := htls
  have htemplate : tls.filterMap midLine? = [] := List.filterMap_eq_nil_iff.2 fun line hline =>
    midLine?_of_not_isTrackLine ((isMedia_templateLines hms htls).2 line hline).1
  rw [sectionMid?, written, htls, Option.getD_some, List.filterMap_append, htemplate,
    filterMap_ownLines, List.nil_append, List.getLast?_singleton]

/-! ### The rebuilt description -/

/-- The lines of the description that is rebuilt are cut into the front part of the one that was
read and a section for each track. -/
theorem sections_rebuilt (h : compress x = .ok s) :
    ∃ y, s.decompress = .ok y ∧
      sections (contentLines y) = ((sections (contentLines x)).1,
        (s.tracks.map (written (mediaSections (contentLines x)))).map cut) := by
  have hlaid := laidOut_of_compress h
  refine ⟨_, hlaid.decompress_eq, ?_⟩
  rw [contentLines_textOf hlaid.printable_writtenLines, writtenLines,
    sections_media_append hlaid.inner]
  intro m hm
  obtain ⟨t, ht, rfl⟩ := List.mem_map.1 hm
  exact hlaid.isMedia_written ht

/-- Its sections have the numbers of the sections of audio and video, as they are written anew. -/
theorem sectionMids_rebuilt (h : compress x = .ok s) :
    ((s.tracks.map (written (mediaSections (contentLines x)))).map cut).map
        (fun sec => sectionMid? (sectionLines sec)) =
      (mediaSections (contentLines x)).map fun m => rewrittenMid? m.2 := by
  have hlaid := laidOut_of_compress h
  obtain ⟨-, -, -, hdescr⟩ := compress_eq_ok_iff.1 h
  have hread : (mediaSections (contentLines x)).map (fun m => rewrittenMid? m.2) =
      s.tracks.map fun t => some (decimal t.mid.toNat) := by
    rw [← List.forall₂_eq_eq_eq, List.forall₂_map_left_iff, List.forall₂_map_right_iff]
    exact hdescr.imp fun m t hm => mid_of_describes hm
  rw [hread, List.map_map, List.map_map]
  refine List.map_congr_left fun t ht => ?_
  rw [Function.comp_apply, Function.comp_apply, sectionLines_cut (hlaid.isMedia_written ht),
    sectionMid?_written hlaid.media (hlaid.exists_templateLines ht)]

/-- **Which bundled numbers are found again.**  A description that has a compact form is rebuilt
with the same lines in front of the sections, so it bundles the same numbers, and with a section
for each of its sections of audio and video, under the same number written anew.  So every number
that it bundles is that of a section exactly if each is that of a section of audio or video and
written so. -/
theorem bundleResolves_rebuilt_iff (x : String) (s : Sdp) (h : compress x = .ok s) :
    ∃ y, s.decompress = .ok y ∧
      (sections (contentLines y)).1 = (sections (contentLines x)).1 ∧
      (sections (contentLines y)).2.map (fun sec => sectionMid? (sectionLines sec)) =
        (mediaSections (contentLines x)).map (fun m => rewrittenMid? m.2) ∧
      (BundleResolves y ↔ ∀ mid ∈ bundled (contentLines x),
        ∃ m ∈ mediaSections (contentLines x), rewrittenMid? m.2 = some mid) := by
  obtain ⟨y, hy, hsections⟩ := sections_rebuilt h
  have hmids := sectionMids_rebuilt h
  refine ⟨y, hy, by rw [hsections], by rw [hsections, hmids], ?_⟩
  rw [BundleResolves, bundled, bundled, hsections]
  refine forall₂_congr fun mid _ => ?_
  -- a number is that of a section if it is in the list of their numbers
  have hsec : (∃ sec ∈ (s.tracks.map (written (mediaSections (contentLines x)))).map cut,
        sectionMid? (sectionLines sec) = some mid) ↔
      some mid ∈ ((s.tracks.map (written (mediaSections (contentLines x)))).map cut).map
        fun sec => sectionMid? (sectionLines sec) := List.mem_map.symm
  rw [hsec, hmids, List.mem_map]

/-- An offer with the numbers that it bundles, a section of sound under a number, and what stands
behind. -/
def soundOffer (mids mid more : String) : String :=
  "v=0\r\na=group:BUNDLE " ++ mids ++ "\r\nm=audio 9 RTP/AVP 0\r\na=mid:" ++ mid ++ "\r\n" ++ more

/-- A section of another kind. -/
def dataChannel : String := "m=application 9 DTLS/SCTP 5000\r\na=mid:1\r\n"

/-- The compact form of an offer of sound under the number zero. -/
def soundCompact (mids : String) : Sdp where
  common := "v=0\r\na=group:BUNDLE " ++ mids ++ "\r\n"
  audioTemplate := some "m=audio 9 RTP/AVP 0\r\n"
  videoTemplate := none
  tracks := [⟨.audio, 0, .sendRecv, none, none, [], []⟩]

/-- A data channel that is not bundled does no harm. -/
theorem bundleResolves_besideChannel :
    compress (soundOffer "0" "0" dataChannel) = .ok (soundCompact "0") ∧
      ∃ y, (soundCompact "0").decompress = .ok y ∧ BundleResolves y := by
  have h : compress (soundOffer "0" "0" dataChannel) = .ok (soundCompact "0") := by
    decide +kernel
  obtain ⟨y, hy, -, -, hiff⟩ := bundleResolves_rebuilt_iff _ _ h
  exact ⟨h, y, hy, hiff.2 (by decide +kernel)⟩

/-- One that is bundled leaves its number without a section.  So does a number with a leading zero,
for the section is written without it. -/
theorem bundle_dangles :
    (compress (soundOffer "0 1" "0" dataChannel) = .ok (soundCompact "0 1") ∧
      BundleResolves (soundOffer "0 1" "0" dataChannel) ∧
      (soundCompact "0 1").decompress = .ok (soundOffer "0 1" "0" "a=sendrecv\r\n") ∧
      ¬ BundleResolves (soundOffer "0 1" "0" "a=sendrecv\r\n")) ∧
    compress (soundOffer "00" "00" "") = .ok (soundCompact "00") ∧
      BundleResolves (soundOffer "00" "00" "") ∧
      (soundCompact "00").decompress = .ok (soundOffer "00" "0" "a=sendrecv\r\n") ∧
      ¬ BundleResolves (soundOffer "00" "0" "a=sendrecv\r\n") := by
  constructor
  · decide +kernel
  · decide +kernel

end GroupCall.Sdp
