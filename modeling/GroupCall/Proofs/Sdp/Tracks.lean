/-
# Tracks that are written and read again

A track is read from the lines of a section one attribute at a time, and it is written as
lines of its own behind the lines of a template.  Every track that was read is legible: its
identifiers are words and its sources have distinct numbers.  What is read from the lines
that a legible track was written as is the track again, but for two things: a stream whose
track had no name comes back with the name `-`, and a source that has neither a canonical
name nor a stream leaves no line at all.
-/
import GroupCall.Sdp.Compress
import GroupCall.Sdp.Expand
import GroupCall.Proofs.Text

namespace GroupCall

open Text

namespace SdpTrack

/-- What comes back of a track that is written and read again. -/
def reread (t : SdpTrack) : SdpTrack :=
  { t with
    trackId := t.streamId.map fun _ => t.trackId.getD "-"
    ssrcs := t.ssrcs.filter fun s => t.streamId.isSome || s.2 ≠ "" }

/-- A track that comes back as it was: its stream, if it has one, comes with the name of the
track, and each of its sources has a canonical name or a stream. -/
def Lossless (t : SdpTrack) : Prop :=
  (t.streamId.isSome → t.trackId.isSome) ∧ ∀ s ∈ t.ssrcs, t.streamId.isSome ∨ s.2 ≠ ""

/-- What holds of every track that was read from lines. -/
structure Legible (t : SdpTrack) : Prop where
  stream : ∀ s ∈ t.streamId, IsWord s.toList
  name : ∀ s ∈ t.trackId, IsWord s.toList
  nameless : t.streamId = none → t.trackId = none
  groups : ∀ g ∈ t.ssrcGroups, '\n' ∉ g.toList
  cnames : ∀ s ∈ t.ssrcs, '\n' ∉ s.2.toList
  distinct : (t.ssrcs.map Prod.fst).Nodup

variable {t t' : SdpTrack} {o o' : Option Mid} {line name value : List Char}
  {ls more : List (List Char)}

/-- The sources of a track come back if each has a canonical name or a stream. -/
theorem ssrcs_reread_eq_iff :
    t.reread.ssrcs = t.ssrcs ↔ ∀ s ∈ t.ssrcs, t.streamId.isSome ∨ s.2 ≠ "" := by
  simp [reread, List.filter_eq_self]

/-- A legible track comes back as it was exactly if it is lossless. -/
theorem reread_eq_self_iff (ht : t.Legible) : t.reread = t ↔ t.Lossless := by
  have hname : (t.streamId.map fun _ => t.trackId.getD "-") = t.trackId ↔
      (t.streamId.isSome → t.trackId.isSome) := by
    have := ht.nameless
    cases hs : t.streamId <;> cases hn : t.trackId <;> simp_all
  rw [Lossless, ← hname, ← ssrcs_reread_eq_iff]
  obtain ⟨⟩ := t
  simp [reread]

/-! ### Sources -/

section Sources

variable {id : UInt64} {cname : Option String} {known : List (UInt64 × String)}

theorem addSsrc_of_notMem (h : id ∉ known.map Prod.fst) :
    addSsrc id cname known = known ++ [(id, cname.getD "")] := by
  induction known with
  | nil => rfl
  | cons s known ih =>
    obtain ⟨hs, hknown⟩ : id ≠ s.1 ∧ id ∉ known.map Prod.fst := by
      simpa using h
    simp [addSsrc, Ne.symm hs, ih hknown]

/-- A source that is listed stays as it is when it is named again without a canonical
name. -/
theorem addSsrc_none_of_mem (h : id ∈ known.map Prod.fst) : addSsrc id none known = known := by
  induction known with
  | nil => simp at h
  | cons s known ih =>
    by_cases hs : s.1 = id
    · obtain ⟨other, name⟩ := s
      obtain rfl : other = id := hs
      by_cases hname : name = "" <;> simp [addSsrc, hname]
    · have hknown : id ∈ known.map Prod.fst := by
        simpa [Ne.symm hs] using h
      simp [addSsrc, hs, ih hknown]

theorem map_fst_addSsrc (id : UInt64) (cname : Option String) (known : List (UInt64 × String)) :
    (addSsrc id cname known).map Prod.fst =
      if id ∈ known.map Prod.fst then known.map Prod.fst else known.map Prod.fst ++ [id] := by
  induction known with
  | nil => rfl
  | cons s known ih =>
    by_cases hs : s.1 = id
    · simp [addSsrc, hs]
    · by_cases hknown : id ∈ known.map Prod.fst
      · rw [if_pos hknown] at ih
        rw [if_pos (by simpa using Or.inr hknown)]
        simp [addSsrc, hs, ih]
      · rw [if_neg hknown] at ih
        rw [if_neg (by simpa [Ne.symm hs] using hknown)]
        simp [addSsrc, hs, ih]

theorem nodup_addSsrc (h : (known.map Prod.fst).Nodup) :
    ((addSsrc id cname known).map Prod.fst).Nodup := by
  rw [map_fst_addSsrc]
  split
  · exact h
  · next hid => exact List.nodup_append.2 ⟨h, by simp, by rintro a ha b hb rfl; simp_all⟩

theorem mem_addSsrc {s : UInt64 × String} (h : s ∈ addSsrc id cname known) :
    s ∈ known ∨ s.2 = cname.getD "" := by
  induction known with
  | nil => simp_all [addSsrc]
  | cons r known ih =>
    rw [addSsrc] at h
    split at h
    · rcases List.mem_cons.1 h with rfl | h
      · dsimp only
        split
        · exact .inr rfl
        · exact .inl (by simp)
      · exact .inl (List.mem_cons_of_mem _ h)
    · rcases List.mem_cons.1 h with rfl | h
      · exact .inl (by simp)
      · exact (ih h).imp_left (List.mem_cons_of_mem _)

end Sources

/-! ### Reading keeps a track legible -/

theorem legible_blank (kind : TrackKind) : (blank kind).Legible := by
  constructor <;> simp [blank]

/-- The canonical name that a source line gives is a part of the line. -/
theorem notMem_cname (hv : '\n' ∉ value) :
    '\n' ∉ (((dropBeginning "cname:".toList ((splitAtFirst ' ' value).getD (value, [])).2).map
      String.ofList).getD "").toList := by
  have hrest : '\n' ∉ ((splitAtFirst ' ' value).getD (value, [])).2 := by
    cases h : splitAtFirst ' ' value with
    | none => simp
    | some p =>
      rw [eq_of_splitAtFirst (a := p.1) (b := p.2) h] at hv
      simp_all
  cases h : dropBeginning "cname:".toList ((splitAtFirst ' ' value).getD (value, [])).2 with
  | none => simp
  | some cname =>
    rw [eq_of_dropBeginning h] at hrest
    simp_all

theorem Legible.readAttribute (ht : t.Legible) (hv : '\n' ∉ value)
    (h : readAttribute line name value t o = .ok (t', o')) : t'.Legible ∧ t'.kind = t.kind := by
  rw [SdpTrack.readAttribute] at h
  split at h
  · -- a number
    split at h <;> simp only [Except.ok.injEq, Prod.mk.injEq, reduceCtorEq] at h
    obtain ⟨rfl, -⟩ := h
    exact ⟨ht, rfl⟩
  split at h
  · -- a stream
    simp only [Except.ok.injEq, Prod.mk.injEq] at h
    obtain ⟨rfl, -⟩ := h
    have hword (i : Nat) : ∀ s ∈ ((words value).map String.ofList)[i]?, IsWord s.toList := by
      intro s hs
      obtain ⟨w, hw, rfl⟩ := List.mem_map.1 (List.mem_of_getElem? hs)
      simpa using isWord_of_mem_words hw
    refine ⟨{ ht with stream := hword 0, name := hword 1, nameless := ?_ }, rfl⟩
    intro hnone
    exact List.getElem?_eq_none (Nat.le_succ_of_le (List.getElem?_eq_none_iff.1 hnone))
  split at h
  · -- a group
    simp only [Except.ok.injEq, Prod.mk.injEq] at h
    obtain ⟨rfl, -⟩ := h
    refine ⟨{ ht with groups := ?_ }, rfl⟩
    intro g hg
    rcases List.mem_append.1 hg with hg | hg
    · exact ht.groups g hg
    · obtain rfl : g = String.ofList value := by simpa using hg
      simpa using hv
  split at h
  · -- a source
    dsimp only at h
    split at h <;> simp only [Except.ok.injEq, Prod.mk.injEq, reduceCtorEq] at h
    obtain ⟨rfl, -⟩ := h
    refine ⟨{ ht with cnames := ?_, distinct := nodup_addSsrc ht.distinct }, rfl⟩
    intro s hs
    rcases mem_addSsrc hs with hs | hs
    · exact ht.cnames s hs
    · exact hs ▸ notMem_cname hv
  · -- a direction, or an attribute that is no track's
    split at h <;> simp only [Except.ok.injEq, Prod.mk.injEq] at h <;> obtain ⟨rfl, -⟩ := h
    · exact ⟨{ ht with }, rfl⟩
    · exact ⟨ht, rfl⟩

theorem notMem_of_attribute? (h : Sdp.attribute? line = some (name, value)) (hl : '\n' ∉ line) :
    '\n' ∉ value := by
  obtain ⟨rest, hrest, hcut⟩ := Option.map_eq_some_iff.1 h
  have hrest' : '\n' ∉ rest := by
    rw [eq_of_dropBeginning hrest] at hl
    simp_all
  cases hs : splitAtFirst ':' rest with
  | none =>
    obtain ⟨-, rfl⟩ : rest = name ∧ [] = value := by simpa [hs] using hcut
    simp
  | some p =>
    obtain rfl : p = (name, value) := by simpa [hs] using hcut
    rw [eq_of_splitAtFirst hs] at hrest'
    simp_all

theorem Legible.readLines (ht : t.Legible) (hls : ∀ l ∈ ls, '\n' ∉ l)
    (h : readLines t o ls = .ok (t', o')) : t'.Legible ∧ t'.kind = t.kind := by
  induction ls generalizing t o with
  | nil =>
    simp only [SdpTrack.readLines, Except.ok.injEq, Prod.mk.injEq] at h
    obtain ⟨rfl, -⟩ := h
    exact ⟨ht, rfl⟩
  | cons l ls ih =>
    have hrest : ∀ l ∈ ls, '\n' ∉ l := fun l hl => hls l (List.mem_cons_of_mem _ hl)
    rw [SdpTrack.readLines] at h
    split at h
    · exact ih ht hrest h
    · next name value hattr =>
      split at h
      · next t₁ o₁ hread =>
        have hvalue := notMem_of_attribute? hattr (hls l (by simp))
        obtain ⟨ht₁, hkind⟩ := ht.readAttribute hvalue hread
        obtain ⟨ht', hkind'⟩ := ih ht₁ hrest h
        exact ⟨ht', hkind'.trans hkind⟩
      · simp at h

/-- The track of a section is legible and of the kind of the section. -/
theorem legible_of_ofSection {kind : TrackKind} (hls : ∀ l ∈ ls, '\n' ∉ l)
    (h : ofSection kind ls = .ok t) : t.Legible ∧ t.kind = kind := by
  rw [ofSection] at h
  split at h <;> simp only [Except.ok.injEq, reduceCtorEq] at h
  next t₁ mid hread =>
    obtain ⟨ht₁, hkind⟩ := (legible_blank kind).readLines hls hread
    subst h
    exact ⟨{ ht₁ with }, hkind⟩

/-! ### Reading the lines of a track -/

theorem attribute?_append (rest : List Char) :
    Sdp.attribute? ("a=".toList ++ rest) = some ((splitAtFirst ':' rest).getD (rest, [])) := by
  rw [Sdp.attribute?]
  exact congrArg _ (dropBeginning_append "a=".toList rest)

theorem attribute?_colon (name value : List Char) (h : ':' ∉ name) :
    Sdp.attribute? ("a=".toList ++ (name ++ ':' :: value)) = some (name, value) := by
  rw [attribute?_append, splitAtFirst_append h, Option.getD_some]

theorem attribute?_flag (name : List Char) (h : ':' ∉ name) :
    Sdp.attribute? ("a=".toList ++ name) = some (name, []) := by
  rw [attribute?_append, splitAtFirst_eq_none h, Option.getD_none]

theorem readLines_cons (h : Sdp.attribute? line = some (name, value))
    (hread : readAttribute line name value t o = .ok (t', o')) (ls : List (List Char)) :
    readLines t o (line :: ls) = readLines t' o' ls := by
  simp [readLines, h, hread]

theorem name_of_ofName? {s : String} {d : Direction} (h : Direction.ofName? s = some d) :
    s = d.name := by
  rw [Direction.ofName?] at h
  split_ifs at h with h₁ h₂ h₃ h₄ <;> cases h <;> assumption

theorem ofName?_of_notMem (h : name ∉ Sdp.trackAttributes) :
    Direction.ofName? (String.ofList name) = none := by
  cases hd : Direction.ofName? (String.ofList name) with
  | none => rfl
  | some d =>
    obtain rfl : name = d.name.toList := by
      rw [← name_of_ofName? hd, String.toList_ofList]
    exact absurd (by cases d <;> decide) h

/-- The lines of a template tell a track nothing. -/
theorem readLines_template (hls : ∀ l ∈ ls, Sdp.isTrackLine l = false) (more : List (List Char)) :
    readLines t o (ls ++ more) = readLines t o more := by
  induction ls with
  | nil => rfl
  | cons l ls ih =>
    have hl : Sdp.isTrackLine l = false := hls l (by simp)
    rw [List.cons_append, ← ih fun l hl => hls l (List.mem_cons_of_mem _ hl)]
    cases hattr : Sdp.attribute? l with
    | none => simp [readLines, hattr]
    | some p =>
      obtain ⟨name, value⟩ := p
      -- a name that belongs to no track is not even that of a direction
      have hname : name ∉ Sdp.trackAttributes := by
        simpa [Sdp.isTrackLine, hattr] using hl
      have hdir := ofName?_of_notMem hname
      have hread : readAttribute l name value t o = .ok (t, o) := by
        simp only [Sdp.trackAttributes, List.map_cons, List.map_nil, List.mem_cons, not_or] at hname
        simp only [readAttribute, hname, if_false, hdir]
      exact readLines_cons hattr hread _

theorem readLines_mid (m : Mid) (more : List (List Char)) :
    readLines t o (("a=mid:".toList ++ decimal m.toNat) :: more) = readLines t (some m) more := by
  refine readLines_cons (attribute?_colon "mid".toList _ (by decide)) ?_ more
  simp [readAttribute, trim_of_isWord (isWord_decimal _)]

theorem readLines_direction (d : Direction) (more : List (List Char)) :
    readLines t o (("a=".toList ++ d.name.toList) :: more) =
      readLines { t with direction := d } o more := by
  refine readLines_cons (attribute?_flag d.name.toList (by cases d <;> decide)) ?_ more
  cases d <;> rfl

theorem readLines_msid {sid tid : List Char} (hsid : IsWord sid) (htid : IsWord tid)
    (more : List (List Char)) :
    readLines t o (("a=msid:".toList ++ (sid ++ ' ' :: tid)) :: more) =
      readLines { t with streamId := some (String.ofList sid), trackId := some (String.ofList tid) }
        o more := by
  refine readLines_cons (attribute?_colon "msid".toList _ (by decide)) ?_ more
  have hwords : words (sid ++ ' ' :: tid) = [sid, tid] := by
    rw [words_append_blank hsid (by decide), words_of_isWord htid]
  simp [readAttribute, hwords]

theorem readLines_groups (groups : List String) (more : List (List Char)) :
    readLines t o (groups.map (fun g => "a=ssrc-group:".toList ++ g.toList) ++ more) =
      readLines { t with ssrcGroups := t.ssrcGroups ++ groups } o more := by
  induction groups generalizing t with
  | nil => simp
  | cons g groups ih =>
    have hread :
        readAttribute ("a=ssrc-group:".toList ++ g.toList) "ssrc-group".toList g.toList t o =
          .ok ({ t with ssrcGroups := t.ssrcGroups ++ [g] }, o) := by
      simp [readAttribute]
    have hattr : Sdp.attribute? ("a=ssrc-group:".toList ++ g.toList) =
        some ("ssrc-group".toList, g.toList) :=
      attribute?_colon "ssrc-group".toList g.toList (by decide)
    rw [List.map_cons, List.cons_append, readLines_cons hattr hread, ih]
    simp

/-- A source line names its source; what follows may be its canonical name. -/
theorem readLines_ssrc (id : UInt64) (rest : List Char) (more : List (List Char)) :
    readLines t o (("a=ssrc:".toList ++ decimal id.toNat ++ ' ' :: rest) :: more) =
      readLines { t with
        ssrcs := addSsrc id ((dropBeginning "cname:".toList rest).map String.ofList) t.ssrcs }
        o more := by
  have hcut : splitAtFirst ' ' (decimal id.toNat ++ ' ' :: rest) = some (decimal id.toNat, rest) :=
    splitAtFirst_append ((isWord_decimal _).not_mem (by decide)) rest
  refine readLines_cons (attribute?_colon "ssrc".toList _ (by decide)) ?_ more
  simp [readAttribute, hcut]

theorem readLines_ssrc_cname (id : UInt64) (cname : String) (more : List (List Char)) :
    readLines t o
        (("a=ssrc:".toList ++ decimal id.toNat ++ " cname:".toList ++ cname.toList) :: more) =
      readLines { t with ssrcs := addSsrc id (some cname) t.ssrcs } o more := by
  have hcname : dropBeginning "cname:".toList ("cname:".toList ++ cname.toList) =
      some cname.toList := dropBeginning_append _ _
  have hread := readLines_ssrc (t := t) (o := o) id ("cname:".toList ++ cname.toList) more
  rw [hcname] at hread
  simpa using hread

theorem readLines_ssrc_msid (id : UInt64) (msid : List Char) (more : List (List Char)) :
    readLines t o (("a=ssrc:".toList ++ decimal id.toNat ++ " msid:".toList ++ msid) :: more) =
      readLines { t with ssrcs := addSsrc id none t.ssrcs } o more := by
  have hmsid : dropBeginning "cname:".toList ("msid:".toList ++ msid) = none := rfl
  have hread := readLines_ssrc (t := t) (o := o) id ("msid:".toList ++ msid) more
  rw [hmsid] at hread
  simpa using hread

/-- A source that is not listed yet comes back if a line was written for it. -/
theorem readLines_ssrcLines {id : UInt64} (hid : id ∉ t.ssrcs.map Prod.fst) (cname : String)
    (msid : Option (List Char)) (more : List (List Char)) :
    readLines t o (ssrcLines msid id cname ++ more) =
      readLines { t with
        ssrcs := t.ssrcs ++ [(id, cname)].filter fun s => msid.isSome || s.2 ≠ "" } o more := by
  -- the line with the stream names a source that its other line has listed
  have hlisted : addSsrc id none (t.ssrcs ++ [(id, cname)]) = t.ssrcs ++ [(id, cname)] :=
    addSsrc_none_of_mem (by simp)
  by_cases hcname : cname = ""
  · cases msid with
    | none => simp [ssrcLines, hcname]
    | some m =>
      simp only [ssrcLines, hcname, if_true, List.nil_append, List.singleton_append]
      rw [readLines_ssrc_msid, addSsrc_of_notMem hid]
      simp
  · cases msid with
    | none =>
      simp only [ssrcLines, hcname, if_false, List.append_nil, List.singleton_append]
      rw [readLines_ssrc_cname, addSsrc_of_notMem hid]
      simp [hcname]
    | some m =>
      simp only [ssrcLines, hcname, if_false, List.cons_append, List.nil_append]
      rw [readLines_ssrc_cname, readLines_ssrc_msid, addSsrc_of_notMem hid]
      simp [hlisted]

theorem readLines_ssrcs (ssrcs : List (UInt64 × String))
    (h : ((t.ssrcs ++ ssrcs).map Prod.fst).Nodup) (msid : Option (List Char))
    (more : List (List Char)) :
    readLines t o (ssrcs.flatMap (fun s => ssrcLines msid s.1 s.2) ++ more) =
      readLines { t with
        ssrcs := t.ssrcs ++ ssrcs.filter fun s => msid.isSome || s.2 ≠ "" } o more := by
  induction ssrcs generalizing t with
  | nil => simp
  | cons s ssrcs ih =>
    obtain ⟨id, cname⟩ := s
    have hid : id ∉ t.ssrcs.map Prod.fst := by
      rw [List.map_append, List.nodup_append] at h
      exact fun hmem => h.2.2 id hmem id (by simp) rfl
    have hrest : (((t.ssrcs ++ [(id, cname)].filter fun s => msid.isSome || s.2 ≠ "") ++
        ssrcs).map Prod.fst).Nodup := by
      refine h.sublist (List.Sublist.map _ ?_)
      rw [List.append_assoc]
      exact ((List.filter_sublist).append_right ssrcs).append_left t.ssrcs
    rw [List.flatMap_cons, List.append_assoc, readLines_ssrcLines hid, ih hrest,
      List.append_assoc, ← List.filter_append, List.singleton_append]

theorem ownLines_eq (t : SdpTrack) :
    t.ownLines =
      ("a=mid:".toList ++ decimal t.mid.toNat) :: ("a=".toList ++ t.direction.name.toList) ::
        ((t.msid?.map fun m => "a=msid:".toList ++ m).toList ++
          (t.ssrcGroups.map (fun g => "a=ssrc-group:".toList ++ g.toList) ++
            t.ssrcs.flatMap fun s => ssrcLines t.msid? s.1 s.2)) := by
  cases h : t.msid? <;> simp [ownLines, h]

/-- The name that is written for a track is a word, even if it stands for none. -/
theorem Legible.isWord_name (ht : t.Legible) : IsWord (t.trackId.getD "-").toList := by
  cases hn : t.trackId with
  | none =>
    refine ⟨by simp, fun c hc => ?_⟩
    obtain rfl : c = '-' := by simpa using hc
    decide
  | some tid => exact ht.name tid hn

/-- The stream of a legible track is read from the line that was written for it. -/
theorem readLines_msid? (ht : t.Legible) {t₀ : SdpTrack} (hstream : t₀.streamId = none)
    (hname : t₀.trackId = none) (more : List (List Char)) :
    readLines t₀ o ((t.msid?.map fun m => "a=msid:".toList ++ m).toList ++ more) =
      readLines { t₀ with
        streamId := t.streamId, trackId := t.streamId.map fun _ => t.trackId.getD "-" } o more := by
  cases hs : t.streamId with
  | none =>
    obtain ⟨⟩ := t₀
    subst hstream hname
    simp [msid?, hs]
  | some sid =>
    simp only [msid?, hs, Option.map_some, Option.toList_some, List.singleton_append]
    rw [readLines_msid (ht.stream sid hs) ht.isWord_name]
    simp

/-- Behind the lines of a template, a legible track is read from its own lines. -/
theorem ofSection_ownLines (ht : t.Legible) (hls : ∀ l ∈ ls, Sdp.isTrackLine l = false) :
    ofSection t.kind (ls ++ t.ownLines) = .ok t.reread := by
  have hmsid : t.msid?.isSome = t.streamId.isSome := by
    simp [msid?]
  have hread : readLines (blank t.kind) none (ls ++ t.ownLines) =
      .ok ({ t.reread with mid := 0 }, some t.mid) := by
    -- the lines are read in the order in which they are written
    rw [readLines_template hls, ownLines_eq, readLines_mid, readLines_direction]
    rw [readLines_msid? ht (by rfl) (by rfl), readLines_groups]
    have hssrcs := readLines_ssrcs (t := { t.reread with mid := 0, ssrcs := [] })
      (o := some t.mid) t.ssrcs ht.distinct t.msid? []
    rw [List.append_nil] at hssrcs
    refine hssrcs.trans ?_
    simp [reread, readLines, hmsid]
  simp [ofSection, hread, reread]

/-! ### The lines of a track in a description -/

theorem isTrackLine_colon (name value : List Char) (h : ':' ∉ name)
    (hname : name ∈ Sdp.trackAttributes) :
    Sdp.isTrackLine ("a=".toList ++ (name ++ ':' :: value)) = true := by
  simp only [Sdp.isTrackLine, attribute?_colon name value h]
  simpa using hname

theorem isTrackLine_of_mem_ssrcLines {msid : Option (List Char)} {id : UInt64} {cname : String}
    (h : line ∈ ssrcLines msid id cname) : Sdp.isTrackLine line = true := by
  have hssrc (rest : List Char) : Sdp.isTrackLine ("a=ssrc:".toList ++ rest) = true :=
    isTrackLine_colon "ssrc".toList rest (by decide) (by decide)
  rcases List.mem_append.1 h with h | h
  · split at h
    · simp at h
    · obtain rfl := List.mem_singleton.1 h
      simpa using hssrc _
  · split at h
    · obtain rfl := List.mem_singleton.1 h
      simpa using hssrc _
    · simp at h

theorem isTrackLine_of_mem_ownLines (h : line ∈ t.ownLines) : Sdp.isTrackLine line = true := by
  rw [ownLines_eq] at h
  simp only [List.mem_cons, List.mem_append, Option.mem_toList, List.mem_map, List.mem_flatMap]
    at h
  rcases h with rfl | rfl | hmsid | ⟨g, -, rfl⟩ | ⟨s, -, h⟩
  · exact isTrackLine_colon "mid".toList _ (by decide) (by decide)
  · cases t.direction <;> rfl
  · obtain ⟨m, -, rfl⟩ := Option.map_eq_some_iff.1 hmsid
    exact isTrackLine_colon "msid".toList _ (by decide) (by decide)
  · exact isTrackLine_colon "ssrc-group".toList _ (by decide) (by decide)
  · exact isTrackLine_of_mem_ssrcLines h

theorem Legible.notMem_msid? (ht : t.Legible) : ∀ m ∈ t.msid?, '\n' ∉ m := by
  intro m hm
  obtain ⟨sid, hsid, rfl⟩ := Option.map_eq_some_iff.1 hm
  have htid : '\n' ∉ (t.trackId.getD "-").toList := ht.isWord_name.not_mem (by decide)
  simpa [htid] using (ht.stream sid hsid).not_mem (by decide)

/-- No line of a legible track holds a line feed. -/
theorem Legible.notMem_ownLines (ht : t.Legible) (h : line ∈ t.ownLines) : '\n' ∉ line := by
  have hdecimal (n : Nat) : '\n' ∉ decimal n := (isWord_decimal n).not_mem (by decide)
  rw [ownLines_eq] at h
  simp only [List.mem_cons, List.mem_append, Option.mem_toList, List.mem_map, List.mem_flatMap]
    at h
  rcases h with rfl | rfl | hmsid | ⟨g, hg, rfl⟩ | ⟨s, hs, h⟩
  · simpa using hdecimal _
  · cases t.direction <;> decide
  · obtain ⟨m, hm, rfl⟩ := Option.map_eq_some_iff.1 hmsid
    simpa using ht.notMem_msid? m hm
  · simpa using ht.groups g hg
  · rcases List.mem_append.1 h with h | h
    · split at h
      · simp at h
      · obtain rfl := List.mem_singleton.1 h
        simpa [hdecimal] using ht.cnames s hs
    · split at h
      · next m hm =>
        obtain rfl := List.mem_singleton.1 h
        simpa [hdecimal] using ht.notMem_msid? m hm
      · simp at h

end SdpTrack
end GroupCall
