/-
# A track in three layers

A track can be sent in layers if it is a video track with one source and one source of its
retransmissions, which its only group ties together.  How the group is written does not matter, as
long as its words are the tag and the two numbers.  The layers take the place of the sources and
the groups, and nothing else changes.  What a group names is told by reading its text, so the
groups that were written and the sources that are listed can be compared.
-/
import GroupCall.Sdp.Simulcast
import GroupCall.Proofs.Reading
import Mathlib.Data.List.Forall2

namespace GroupCall

open Text

namespace SdpTrack

variable {t t' : SdpTrack} {v r id : UInt64} {group tag : String} {ids : List Nat}

/-! ### Groups -/

/-- A group names sources: its words are a tag and the numbers of the sources. -/
def Names (group tag : String) (ids : List Nat) : Prop :=
  ∃ numerals, Holds group.toList (tag.toList :: numerals) ∧ List.Forall₂ Writes numerals ids

/-- A group names what it names, and nothing else. -/
theorem Names.unique {tag' : String} {ids' : List Nat} (h : Names group tag ids)
    (h' : Names group tag' ids') : tag = tag' ∧ ids = ids' := by
  obtain ⟨numerals, hholds, hwrites⟩ := h
  obtain ⟨numerals', hholds', hwrites'⟩ := h'
  have hwords := (words_eq_iff.2 hholds).symm.trans (words_eq_iff.2 hholds')
  obtain ⟨htag, rfl⟩ := List.cons.inj hwords
  have hunique : Relator.RightUnique Writes := fun _ _ _ => Writes.unique
  exact ⟨String.toList_inj.1 htag, List.right_unique_forall₂' hunique hwrites hwrites'⟩

/-- The text of a group: its tag and its numbers, with single blanks between them. -/
def groupText (tag : String) (ids : List Nat) : String :=
  " ".intercalate (tag :: ids.map toString)

theorem toList_groupText (tag : String) (ids : List Nat) :
    (groupText tag ids).toList = [' '].intercalate (tag.toList :: ids.map decimal) := by
  have hnumerals : (ids.map toString).map String.toList = ids.map decimal := by
    rw [List.map_map]
    exact List.map_congr_left fun n _ => String.toList_ofList
  rw [groupText, String.toList_intercalate, List.map_cons, hnumerals]
  rfl

theorem names_groupText (tag : String) (htag : IsWord tag.toList) (ids : List Nat) :
    Names (groupText tag ids) tag ids := by
  refine ⟨ids.map decimal, words_eq_iff.1 ?_, ?_⟩
  · rw [toList_groupText]
    refine words_intercalate (List.forall_mem_cons.2 ⟨htag, fun w hw => ?_⟩)
    obtain ⟨n, -, rfl⟩ := List.mem_map.1 hw
    exact isWord_decimal n
  · rw [List.forall₂_map_left_iff, List.forall₂_same]
    exact fun n _ => writes_decimal n

theorem toList_simGroup (a b c : UInt64) :
    (simGroup a b c).toList =
      "SIM ".toList ++ decimal a.toNat ++ ' ' :: decimal b.toNat ++ ' ' :: decimal c.toNat :=
  String.toList_ofList

theorem toList_fidGroup (a b : UInt64) :
    (fidGroup a b).toList = "FID ".toList ++ decimal a.toNat ++ ' ' :: decimal b.toNat :=
  String.toList_ofList

theorem simGroup_eq (a b c : UInt64) :
    simGroup a b c = groupText "SIM" [a.toNat, b.toNat, c.toNat] := by
  apply String.toList_inj.1
  simp only [toList_simGroup, toList_groupText, List.map_cons, List.map_nil]
  simp [List.intercalate]

theorem fidGroup_eq (a b : UInt64) : fidGroup a b = groupText "FID" [a.toNat, b.toNat] := by
  apply String.toList_inj.1
  simp only [toList_fidGroup, toList_groupText, List.map_cons, List.map_nil]
  simp [List.intercalate]

/-- A pair is read from a group exactly if the group names it. -/
theorem readFid_eq_ok_iff : readFid group = .ok (v, r) ↔ Names group "FID" [v.toNat, r.toNat] := by
  constructor
  · intro h
    rw [readFid] at h
    split at h
    · next tag a b hwords =>
      split at h
      · next htag =>
        split at h
        · cases h
        · next video hvideo =>
          split at h
          · cases h
          · next rtx hrtx =>
            cases h
            rw [htag] at hwords
            exact ⟨[a, b], words_eq_iff.1 hwords, .cons (readUInt64?_eq_some_iff.1 hvideo)
              (.cons (readUInt64?_eq_some_iff.1 hrtx) .nil)⟩
      · cases h
    · cases h
  · rintro ⟨numerals, hholds, hwrites⟩
    obtain ⟨a, _, hv, hrest, rfl⟩ := List.forall₂_cons_right_iff.1 hwrites
    obtain ⟨b, _, hr, hnone, rfl⟩ := List.forall₂_cons_right_iff.1 hrest
    obtain rfl := List.forall₂_nil_right_iff.1 hnone
    rw [readFid, words_eq_iff.2 hholds]
    simp [readUInt64?_eq_some_iff.2 hv, readUInt64?_eq_some_iff.2 hr]

/-! ### Sources -/

theorem cnameOf_eq_lookup (id : UInt64) (known : List (UInt64 × String)) :
    cnameOf id known = known.lookup id := by
  induction known with
  | nil => rfl
  | cons s known ih =>
    obtain ⟨other, name⟩ := s
    rw [cnameOf, List.lookup_cons, ih]
    by_cases h : other = id
    · simp [h]
    · simp [h, beq_false_of_ne (Ne.symm h)]

/-- A source has a canonical name, maybe an empty one, exactly if it is listed. -/
theorem exists_lookup_iff {known : List (UInt64 × String)} :
    (∃ name, known.lookup id = some name) ↔ id ∈ known.map Prod.fst := by
  induction known with
  | nil => simp
  | cons s known ih =>
    obtain ⟨other, name⟩ := s
    rw [List.lookup_cons, List.map_cons, List.mem_cons, ← ih]
    by_cases h : id = other
    · simp [h]
    · simp [h, beq_false_of_ne h]

/-- A track has one pair of sources: it is a video track with two sources, and its only group names
two of its sources as a source and its retransmissions. -/
structure Paired (t : SdpTrack) (v r : UInt64) : Prop where
  /-- It is a video track. -/
  kind : t.kind = .video
  /-- It has two sources. -/
  two : t.ssrcs.length = 2
  /-- It has one group, which names the pair. -/
  group : ∃ group, t.ssrcGroups = [group] ∧ Names group "FID" [v.toNat, r.toNat]
  /-- The first of the pair is a source of the track. -/
  source : v ∈ t.ssrcs.map Prod.fst
  /-- So is the second. -/
  rtx : r ∈ t.ssrcs.map Prod.fst

/-- A track has at most one pair. -/
theorem Paired.unique {v' r' : UInt64} (h : t.Paired v r) (h' : t.Paired v' r') :
    v = v' ∧ r = r' := by
  obtain ⟨group, hgroup, hnames⟩ := h.group
  obtain ⟨group', hgroup', hnames'⟩ := h'.group
  obtain rfl : group = group' := by simpa [hgroup] using hgroup'
  have hids := (hnames.unique hnames').2
  simp only [List.cons.injEq, and_true, UInt64.toNat_inj] at hids
  exact hids

/-! ### Layers -/

/-- A track with a pair is put into its layers. -/
theorem Paired.munge_eq (h : t.Paired v r) :
    ∃ videoName rtxName, t.ssrcs.lookup v = some videoName ∧ t.ssrcs.lookup r = some rtxName ∧
      t.munge = (t.layers v r videoName rtxName, .ok ()) := by
  obtain ⟨videoName, hvideo⟩ := exists_lookup_iff.2 h.source
  obtain ⟨rtxName, hrtx⟩ := exists_lookup_iff.2 h.rtx
  refine ⟨videoName, rtxName, hvideo, hrtx, ?_⟩
  obtain ⟨p, q, hssrcs⟩ := List.length_eq_two.1 h.two
  obtain ⟨group, hgroup, hnames⟩ := h.group
  rw [← cnameOf_eq_lookup] at hvideo hrtx
  simp only [hssrcs] at hvideo hrtx
  simp [munge, h.kind, hssrcs, hgroup, readFid_eq_ok_iff.2 hnames, hvideo, hrtx]

/-- A track is refused, and is as it was, or it has a pair. -/
theorem munge_cases (t : SdpTrack) :
    (∃ e, t.munge = (t, .error e)) ∨ ∃ v r, t.Paired v r := by
  rw [munge]
  split
  · exact .inl ⟨_, rfl⟩
  next hkind =>
  split
  · next group hssrcs hgroups =>
    split
    · exact .inl ⟨_, rfl⟩
    · next video rtx hfid =>
      split
      · next videoName rtxName hvideo hrtx =>
        rw [cnameOf_eq_lookup] at hvideo hrtx
        exact .inr ⟨video, rtx, not_not.1 hkind, by rw [hssrcs]; rfl,
          ⟨group, hgroups, readFid_eq_ok_iff.1 hfid⟩, exists_lookup_iff.1 ⟨_, hvideo⟩,
          exists_lookup_iff.1 ⟨_, hrtx⟩⟩
      · exact .inl ⟨_, rfl⟩
  · exact .inl ⟨_, rfl⟩

/-- A track is put into layers exactly if it has a pair. -/
theorem munge_eq_ok_iff :
    t.munge = (t', .ok ()) ↔
      ∃ v r videoName rtxName, t.Paired v r ∧ t.ssrcs.lookup v = some videoName ∧
        t.ssrcs.lookup r = some rtxName ∧ t' = t.layers v r videoName rtxName := by
  constructor
  · intro h
    obtain ⟨e, heq⟩ | ⟨v, r, hpair⟩ := t.munge_cases
    · cases heq.symm.trans h
    · obtain ⟨videoName, rtxName, hvideo, hrtx, heq⟩ := hpair.munge_eq
      cases heq.symm.trans h
      exact ⟨v, r, videoName, rtxName, hpair, hvideo, hrtx, rfl⟩
  · rintro ⟨v, r, videoName, rtxName, hpair, hvideo, hrtx, rfl⟩
    obtain ⟨videoName', rtxName', hvideo', hrtx', heq⟩ := hpair.munge_eq
    cases hvideo.symm.trans hvideo'
    cases hrtx.symm.trans hrtx'
    exact heq

/-- A track in layers has six sources, so it is not put into layers again. -/
theorem munge_layers (t : SdpTrack) (v r : UInt64) (videoName rtxName : String) :
    ∃ e, (t.layers v r videoName rtxName).munge = (t.layers v r videoName rtxName, .error e) := by
  obtain hrefused | ⟨v', r', hpair⟩ := (t.layers v r videoName rtxName).munge_cases
  · exact hrefused
  · cases hpair.two

section Numbers

variable {videoName rtxName : String} (hv : v.toNat + 2 < UInt64.size)
  (hr : r.toNat + 2 < UInt64.size)

/-- The numbers behind one that is not among the last do not run over. -/
theorem toNat_ofNat_add {n : UInt64} {i : Nat} (hn : n.toNat + 2 < UInt64.size) (hi : i < 3) :
    (UInt64.ofNat (n.toNat + i)).toNat = n.toNat + i :=
  UInt64.toNat_ofNat_of_lt' (by omega)

theorem add_eq_ofNat {n : UInt64} (hn : n.toNat + 2 < UInt64.size) :
    n + 1 = UInt64.ofNat (n.toNat + 1) ∧ n + 2 = UInt64.ofNat (n.toNat + 2) := by
  have h (m : UInt64) (hm : m.toNat < 3) : n + m = UInt64.ofNat (n.toNat + m.toNat) := by
    have hlt : n.toNat + m.toNat < UInt64.size := by omega
    rw [← UInt64.toNat_inj, UInt64.toNat_add, toNat_ofNat_add hn hm]
    exact Nat.mod_eq_of_lt hlt
  exact ⟨h 1 (by decide), h 2 (by decide)⟩

include hv hr

theorem ssrcs_layers :
    (t.layers v r videoName rtxName).ssrcs = (List.range 3).flatMap fun i =>
      [(UInt64.ofNat (v.toNat + i), videoName), (UInt64.ofNat (r.toNat + i), rtxName)] := by
  obtain ⟨hv1, hv2⟩ := add_eq_ofNat hv
  obtain ⟨hr1, hr2⟩ := add_eq_ofNat hr
  rw [layers, hv1, hv2, hr1, hr2]
  simp [List.range_succ]

theorem ssrcGroups_layers :
    (t.layers v r videoName rtxName).ssrcGroups =
      groupText "SIM" [v.toNat, v.toNat + 1, v.toNat + 2] ::
        (List.range 3).map fun i => groupText "FID" [v.toNat + i, r.toNat + i] := by
  have htoNat {n : UInt64} (hn : n.toNat + 2 < UInt64.size) :
      (n + 1).toNat = n.toNat + 1 ∧ (n + 2).toNat = n.toNat + 2 := by
    obtain ⟨h1, h2⟩ := add_eq_ofNat hn
    rw [h1, h2]
    exact ⟨toNat_ofNat_add hn (by decide), toNat_ofNat_add hn (by decide)⟩
  obtain ⟨hv1, hv2⟩ := htoNat hv
  obtain ⟨hr1, hr2⟩ := htoNat hr
  simp only [layers, simGroup_eq, fidGroup_eq, hv1, hv2, hr1, hr2]
  simp [List.range_succ]

/-- The sources of the layers are those from each of the pair on, three in a row. -/
theorem mem_layers_iff :
    id ∈ (t.layers v r videoName rtxName).ssrcs.map Prod.fst ↔
      ∃ i < 3, id.toNat = v.toNat + i ∨ id.toNat = r.toNat + i := by
  have hsame {n : UInt64} (hn : n.toNat + 2 < UInt64.size) {i : Nat} (hi : i < 3) :
      id = UInt64.ofNat (n.toNat + i) ↔ id.toNat = n.toNat + i := by
    rw [← UInt64.toNat_inj, toNat_ofNat_add hn hi]
  simp only [ssrcs_layers hv hr, List.mem_map, List.mem_flatMap, List.mem_range]
  constructor
  · rintro ⟨s, ⟨i, hi, hs⟩, rfl⟩
    refine ⟨i, hi, ?_⟩
    rw [← hsame hv hi, ← hsame hr hi]
    rcases List.mem_pair.1 hs with rfl | rfl
    · exact Or.inl rfl
    · exact Or.inr rfl
  · rintro ⟨i, hi, h⟩
    rw [← hsame hv hi, ← hsame hr hi] at h
    rcases h with rfl | rfl
    · exact ⟨_, ⟨i, hi, List.mem_cons_self⟩, rfl⟩
    · exact ⟨_, ⟨i, hi, List.mem_cons_of_mem _ List.mem_cons_self⟩, rfl⟩

/-- The sources of the layers are those that the groups name. -/
theorem mem_layers_iff_names :
    id ∈ (t.layers v r videoName rtxName).ssrcs.map Prod.fst ↔
      ∃ group ∈ (t.layers v r videoName rtxName).ssrcGroups, ∃ tag ids, Names group tag ids ∧
        id.toNat ∈ ids := by
  have hsim := names_groupText "SIM" (isWord_of_all (by decide) (by decide))
    [v.toNat, v.toNat + 1, v.toNat + 2]
  have hfid (i : Nat) := names_groupText "FID" (isWord_of_all (by decide) (by decide))
    [v.toNat + i, r.toNat + i]
  rw [mem_layers_iff hv hr, ssrcGroups_layers hv hr]
  simp only [List.mem_cons, List.mem_map, List.mem_range]
  constructor
  · rintro ⟨i, hi, h⟩
    exact ⟨_, Or.inr ⟨i, hi, rfl⟩, _, _, hfid i, by simpa using h⟩
  · rintro ⟨group, rfl | ⟨i, hi, rfl⟩, tag, ids, hnames, hid⟩
    · obtain ⟨-, rfl⟩ := hsim.unique hnames
      simp only [List.mem_cons, List.not_mem_nil, or_false] at hid
      rcases hid with h | h | h
      · exact ⟨0, by decide, Or.inl h⟩
      · exact ⟨1, by decide, Or.inl h⟩
      · exact ⟨2, by decide, Or.inl h⟩
    · obtain ⟨-, rfl⟩ := (hfid i).unique hnames
      exact ⟨i, hi, by simpa using hid⟩

end Numbers

end SdpTrack

namespace Sdp

open SdpTrack

variable {s s' : Sdp} {index : Nat} {t : SdpTrack} {v r : UInt64}

/-- A description that is refused is as it was. -/
theorem munge_of_error {e : SdpError} (h : (s.munge index).2 = .error e) :
    (s.munge index).1 = s := by
  rw [munge] at h ⊢
  split at h
  · rfl
  · next t ht =>
    obtain ⟨e', heq⟩ | ⟨v, r, hpair⟩ := t.munge_cases
    · -- the track is written back as it was
      obtain ⟨hlt, rfl⟩ := List.getElem?_eq_some_iff.1 ht
      rw [heq, List.set_getElem_self]
    · obtain ⟨videoName, rtxName, -, -, heq⟩ := hpair.munge_eq
      rw [heq] at h
      cases h

theorem munge_of_simulcast (h : s.simulcast index = .ok s') : s.munge index = (s', .ok ()) := by
  rw [simulcast, layered] at h
  cases houtcome : (s.munge index).2 with
  | error e =>
    rw [houtcome] at h
    cases h
  | ok _ =>
    rw [houtcome] at h
    cases h
    exact Prod.ext rfl houtcome

theorem layered_of_error {e : SdpError} (h : s.simulcast index = .error e) :
    s.layered index = s := by
  cases houtcome : (s.munge index).2 with
  | error e' => exact munge_of_error houtcome
  | ok _ =>
    rw [simulcast, houtcome] at h
    cases h

theorem layered_of_ok (h : s.simulcast index = .ok s') : s.layered index = s' := by
  rw [layered, munge_of_simulcast h]

theorem simulcast_eq_ok_iff :
    s.simulcast index = .ok s' ↔
      ∃ t t', s.tracks[index]? = some t ∧ t.munge = (t', .ok ()) ∧
        s' = { s with tracks := s.tracks.set index t' } := by
  rw [simulcast, layered, munge]
  cases ht : s.tracks[index]? with
  | none => simp [Except.map]
  | some t =>
    cases hmunged : t.munge with
    | mk t' outcome => cases outcome <;> simp [hmunged, Except.map, eq_comm]

/-- A track that has a pair is put into layers. -/
theorem simulcast_of_paired (ht : s.tracks[index]? = some t) (hpair : t.Paired v r) :
    ∃ videoName rtxName, t.ssrcs.lookup v = some videoName ∧ t.ssrcs.lookup r = some rtxName ∧
      s.simulcast index = .ok { s with
        tracks := s.tracks.set index (t.layers v r videoName rtxName) } := by
  obtain ⟨videoName, rtxName, hvideo, hrtx, hlayers⟩ := hpair.munge_eq
  exact ⟨videoName, rtxName, hvideo, hrtx, simulcast_eq_ok_iff.2 ⟨t, _, ht, hlayers, rfl⟩⟩

/-- A description is put into layers at an index exactly if the track there has a pair. -/
theorem exists_simulcast_iff :
    (∃ s', s.simulcast index = .ok s') ↔
      ∃ t v r, s.tracks[index]? = some t ∧ t.Paired v r := by
  constructor
  · rintro ⟨s', h⟩
    obtain ⟨t, t', ht, hlayers, -⟩ := simulcast_eq_ok_iff.1 h
    obtain ⟨v, r, -, -, hpair, -⟩ := SdpTrack.munge_eq_ok_iff.1 hlayers
    exact ⟨t, v, r, ht, hpair⟩
  · rintro ⟨t, v, r, ht, hpair⟩
    obtain ⟨videoName, rtxName, -, -, h⟩ := simulcast_of_paired ht hpair
    exact ⟨_, h⟩

/-- What was put into layers is not put into layers again. -/
theorem simulcast_layered (h : s.simulcast index = .ok s') :
    ∃ e, s'.simulcast index = .error e := by
  obtain ⟨t, t', ht, hlayers, rfl⟩ := simulcast_eq_ok_iff.1 h
  obtain ⟨v, r, videoName, rtxName, -, -, -, rfl⟩ := SdpTrack.munge_eq_ok_iff.1 hlayers
  obtain ⟨e, he⟩ := munge_layers t v r videoName rtxName
  have hlt := (List.getElem?_eq_some_iff.1 ht).1
  refine ⟨e, ?_⟩
  simp only [simulcast, munge, List.getElem?_set_self hlt, he]
  rfl

/-- **All or nothing, and once.**  A description is put into layers exactly if the track at the
index is a video track with two sources and one group, and the group names these two as a pair.
Otherwise it stays as it was.  If it is put into layers, then only the sources and the groups of
that track change: there is one group of the three layers and one of each layer with its
retransmissions, with consecutive numbers from those of the pair on; and the sources are exactly
those that these groups name, each with the canonical name of the one that it was derived from.
A second time is refused. -/
theorem simulcast_all_or_nothing (s : Sdp) (index : Nat) :
    ((∃ s', s.simulcast index = .ok s') ↔
      ∃ t v r, s.tracks[index]? = some t ∧ t.Paired v r) ∧
    (∀ e, s.simulcast index = .error e → s.layered index = s) ∧
    ∀ t v r, s.tracks[index]? = some t → t.Paired v r →
      v.toNat + 2 < UInt64.size → r.toNat + 2 < UInt64.size →
      ∃ t' videoName rtxName,
        t.ssrcs.lookup v = some videoName ∧ t.ssrcs.lookup r = some rtxName ∧
        s.simulcast index = .ok (s.layered index) ∧
        s.layered index = { s with tracks := s.tracks.set index t' } ∧
        t' = { t with ssrcs := t'.ssrcs, ssrcGroups := t'.ssrcGroups } ∧
        t'.ssrcGroups = groupText "SIM" [v.toNat, v.toNat + 1, v.toNat + 2] ::
          ((List.range 3).map fun i => groupText "FID" [v.toNat + i, r.toNat + i]) ∧
        t'.ssrcs = ((List.range 3).flatMap fun i =>
          [(UInt64.ofNat (v.toNat + i), videoName), (UInt64.ofNat (r.toNat + i), rtxName)]) ∧
        (∀ id, id ∈ t'.ssrcs.map Prod.fst ↔
          ∃ group ∈ t'.ssrcGroups, ∃ tag ids, Names group tag ids ∧ id.toNat ∈ ids) ∧
        ∃ e, (s.layered index).simulcast index = .error e := by
  refine ⟨exists_simulcast_iff, fun e he => layered_of_error he, ?_⟩
  intro t v r ht hpair hv hr
  obtain ⟨videoName, rtxName, hvideo, hrtx, h⟩ := simulcast_of_paired ht hpair
  rw [layered_of_ok h]
  exact ⟨t.layers v r videoName rtxName, videoName, rtxName, hvideo, hrtx, h, rfl, rfl,
    ssrcGroups_layers hv hr, ssrcs_layers hv hr, fun id => mem_layers_iff_names hv hr,
    simulcast_layered h⟩

end Sdp
end GroupCall
