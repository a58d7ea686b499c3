/-
# Commands are read by the grammar

Each reader of a part of a command accepts exactly the members that the grammar describes,
and so does the reader of whole commands: a name and members are read as a command if the
name is that of the command and the members describe it.
-/
import GroupCall.Proofs.Frames.Grammar

namespace GroupCall

open Grammar Refusal

variable {α β ε : Type}

namespace Refusal

theorem do_eq_ok {x : Except ε α} {g : α → Except ε β} {b : β} :
    (x >>= g) = .ok b ↔ ∃ a, x = .ok a ∧ g a = .ok b := bind_eq_ok

theorem pure_eq_ok {a b : α} : (pure a : Except ε α) = .ok b ↔ a = b := by
  simp [pure, Except.pure]

end Refusal

namespace Fields

variable {f : Fields} {key : String}

/-! ### Parts of commands -/

theorem peer_eq_ok {peer : PeerInfo} : f.peer = .ok peer ↔ Peer f.members peer := by
  simp only [Fields.peer, do_eq_ok, pure_eq_ok, uint32_eq_ok, av_eq_ok, Peer]
  constructor
  · rintro ⟨cid, hcid, user, huser, flags, hflags, rfl⟩
    exact ⟨hcid, user_eq_ok.1 huser, hflags⟩
  · rintro ⟨hcid, huser, hflags⟩
    exact ⟨_, hcid, _, user_eq_ok.2 huser, _, hflags, rfl⟩

theorem descriptor_false_eq_ok {track : TrackDescriptor} :
    f.descriptor false = .ok track ↔ FreshTrack f.members track := by
  simp only [descriptor, do_eq_ok, pure_eq_ok, uint32_eq_ok, iv_eq_ok, FreshTrack,
    Bool.false_eq_true, if_false]
  constructor
  · rintro ⟨iv, hiv, mark, hmark, mid, hmid, rfl⟩
    obtain rfl := Except.ok.inj hmark
    exact ⟨hmid, hiv, rfl⟩
  · rintro ⟨hmid, hiv, hreuse⟩
    exact ⟨_, hiv, none, rfl, _, hmid, by simp [← hreuse]⟩

theorem descriptor_true_eq_ok {track : TrackDescriptor} :
    f.descriptor true = .ok track ↔ MarkedTrack f.members track := by
  simp only [descriptor, do_eq_ok, pure_eq_ok, uint32_eq_ok, iv_eq_ok, optional_uint32_eq_ok,
    MarkedTrack, if_true]
  constructor
  · rintro ⟨iv, hiv, mark, hmark, mid, hmid, rfl⟩
    exact ⟨hmid, hiv, mark, hmark, rfl⟩
  · rintro ⟨hmid, hiv, mark, hmark, hreuse⟩
    exact ⟨_, hiv, mark, hmark, _, hmid, by simp [← hreuse]⟩

/-- An item or value that is an object is read by its members. -/
theorem as_object_eq_ok {shape : Shape} {describes : Members → α → Prop}
    {reader : Members → Except ProtocolError α} {value : Json} {a : α}
    (hreader : ∀ members, reader members = .ok a ↔ describes members a) :
    (f.as key shape Json.object? value).bind reader = .ok a ↔ IsObject describes value a := by
  simp only [bind_eq_ok, as_eq_ok, object?_eq_some_iff, hreader, IsObject]

theorem listedPeer_eq_ok {value : Json} {peer : PeerInfo} :
    f.listedPeer value = .ok peer ↔ IsObject Peer value peer :=
  as_object_eq_ok fun _ => peer_eq_ok

theorem listedTrack_eq_ok {value : Json} {assigned : CidTrack} :
    f.listedTrack value = .ok assigned ↔ IsObject AssignedTrack value assigned := by
  refine as_object_eq_ok fun members => ?_
  simp only [do_eq_ok, pure_eq_ok, uint32_eq_ok, descriptor_true_eq_ok, AssignedTrack]
  constructor
  · rintro ⟨cid, hcid, track, htrack, rfl⟩
    exact ⟨hcid, htrack⟩
  · rintro ⟨hcid, htrack⟩
    exact ⟨_, hcid, _, htrack, rfl⟩

theorem thumbnailTrack_eq_ok {value : Json} {track : TrackDescriptor} :
    f.thumbnailTrack value = .ok track ↔ IsObject FreshTrack value track :=
  as_object_eq_ok fun _ => descriptor_false_eq_ok

theorem speakerTrack_eq_ok {value : Json} {track : TrackDescriptor} :
    f.speakerTrack value = .ok track ↔ IsObject Speaker value track := by
  simp only [speakerTrack, do_eq_ok, as_eq_ok, Option.bind_eq_some_iff, object?_eq_some_iff,
    descriptor_false_eq_ok, IsObject, Speaker, Holds]
  constructor
  · rintro ⟨audio, ⟨entry, ⟨members, rfl, hentry⟩, rfl⟩, htrack⟩
    exact ⟨members, rfl, _, hentry, audio, rfl, htrack⟩
  · rintro ⟨members, rfl, _, hentry, audio, rfl, htrack⟩
    exact ⟨audio, ⟨_, ⟨members, rfl, hentry⟩, rfl⟩, htrack⟩

theorem cidKey_eq_ok {name : String} {cid : Cid} :
    f.cidKey key name = .ok cid ↔ Text.Writes name.toList cid.toNat := by
  rw [cidKey, ← Text.readUInt32?_eq_some_iff]
  split <;> simp_all

/-! ### Lists and maps -/

/-- A member that is an array is read item by item. -/
theorem items_eq_ok {form : Form α} {reader : Json → Except ProtocolError α} {list : List α}
    (hreader : ∀ value a, reader value = .ok a ↔ form value a) :
    (f.array key).bind (List.mapM reader) = .ok list ↔ Holds f.members key (IsList form) list := by
  simp only [bind_eq_ok, array_eq_ok, mapM_eq_ok, hreader, Holds, IsList]
  constructor
  · rintro ⟨items, hm, hitems⟩
    exact ⟨_, hm, items, rfl, hitems⟩
  · rintro ⟨_, hm, items, rfl, hitems⟩
    exact ⟨items, hm, hitems⟩

theorem trackList_eq_ok {tracks : List CidTrack} :
    f.trackList = .ok tracks ↔ Holds f.members "tracks" (IsList (IsObject AssignedTrack)) tracks :=
  items_eq_ok fun _ _ => listedTrack_eq_ok

theorem cidOf?_eq_some_iff {value : Json} {cid : Cid} :
    cidOf? value = some cid ↔ IsWord32 value cid := by
  simp only [cidOf?, Option.bind_eq_some_iff, natural?_eq_some_iff, IsWord32]
  constructor
  · rintro ⟨n, rfl, h⟩
    split at h
    · next hlt =>
      obtain rfl := Option.some.inj h
      rw [UInt32.toNat_ofNat_of_lt' hlt]
    · simp at h
  · rintro rfl
    exact ⟨_, rfl, by simp [UInt32.toNat_lt_size]⟩

theorem cids_eq_ok {cids : List Cid} :
    f.cids key = .ok cids ↔ Holds f.members key (IsList IsWord32) cids :=
  items_eq_ok fun _ _ => as_eq_ok.trans cidOf?_eq_some_iff

/-- How an entry of a map from participants to tracks is read. -/
def entry (f : Fields) (key : String) (reader : Json → Except ProtocolError TrackDescriptor)
    (m : String × Json) : Except ProtocolError (Cid × TrackDescriptor) := do
  let cid ← f.cidKey key m.1
  let descriptor ← reader m.2
  return (cid, descriptor)

theorem tracksByCid_eq (reader : Json → Except ProtocolError TrackDescriptor) :
    f.tracksByCid key reader = (f.optional key (f.object key)).bind fun members =>
      ((members.getD []).mapM (f.entry key reader)).map Table.ofList := rfl

section

variable {form : Form TrackDescriptor} {reader : Json → Except ProtocolError TrackDescriptor}

theorem entry_eq_ok (hreader : ∀ value a, reader value = .ok a ↔ form value a)
    {m : String × Json} {e : Cid × TrackDescriptor} :
    f.entry key reader m = .ok e ↔ Text.Writes m.1.toList e.1.toNat ∧ form m.2 e.2 := by
  simp only [entry, do_eq_ok, pure_eq_ok, cidKey_eq_ok, hreader]
  constructor
  · rintro ⟨cid, hcid, track, htrack, rfl⟩
    exact ⟨hcid, htrack⟩
  · rintro ⟨hcid, htrack⟩
    exact ⟨_, hcid, _, htrack, rfl⟩

theorem tracksByCid_eq_ok (hreader : ∀ value a, reader value = .ok a ↔ form value a)
    {table : Table Cid TrackDescriptor} :
    f.tracksByCid key reader = .ok table ↔
      ∃ o, MayHold f.members key (IsByCid form) o ∧ table = o.getD .empty := by
  have hmake : ∀ value table, IsByCid form value table ↔ ∃ members : Members,
      value = .object members ∧
        (members.mapM (f.entry key reader)).map Table.ofList = .ok table := by
    intro value table
    simp only [IsByCid, map_eq_ok, mapM_eq_ok, entry_eq_ok hreader]
    constructor
    · rintro ⟨members, entries, hvalue, hentries, rfl⟩
      exact ⟨members, hvalue, entries, hentries, rfl⟩
    · rintro ⟨members, hvalue, entries, hentries, rfl⟩
      exact ⟨members, entries, hvalue, hentries, rfl⟩
  rw [← mayHold_getD [] .empty hmake rfl, tracksByCid_eq]
  simp only [bind_eq_ok, optional_object_eq_ok]

end

theorem moderators_eq_ok {list : List UserId} :
    f.moderators = .ok list ↔
      ∃ o, MayHold f.members "mods" (IsList IsUser) o ∧ list = o.getD [] := by
  have huser : ∀ value user,
      (f.as "mods" .texts Json.text? value).map UserId.mk = .ok user ↔ IsUser value user := by
    rintro value ⟨name⟩
    simp [map_eq_ok, as_eq_ok, text?_eq_some_iff, IsUser]
  have hmake : ∀ value list, IsList IsUser value list ↔ ∃ items, value = .array items ∧
      (items.mapM fun item => (f.as "mods" .texts Json.text? item).map UserId.mk) = .ok list := by
    intro value list
    simp only [IsList, mapM_eq_ok, huser]
  rw [← mayHold_getD [] [] hmake rfl]
  simp only [moderators, do_eq_ok, optional_array_eq_ok]

/-! ### Commands with several members -/

theorem answer_eq_ok {answer : Answer} : f.answer = .ok answer ↔ Answers f.members answer := by
  simp only [Fields.answer, do_eq_ok, pure_eq_ok, sdp_eq_ok, uint32_eq_ok, uint64_eq_ok,
    tracksByCid_eq_ok (fun _ _ => speakerTrack_eq_ok),
    tracksByCid_eq_ok (fun _ _ => thumbnailTrack_eq_ok), moderators_eq_ok]
  constructor
  · rintro ⟨sdp, hsdp, items, hitems, peers, hpeers, speakers, hspeakers, vthumbs, hvthumbs, list,
      hlist, cid, hcid, t, ht, rfl⟩
    exact {
      cid := hcid
      sdp := hsdp
      startedAt := ht
      peers := (items_eq_ok fun _ _ => listedPeer_eq_ok).1 (bind_eq_ok.2 ⟨items, hitems, hpeers⟩)
      speakers := hspeakers
      vthumbs := hvthumbs
      moderators := hlist }
  · intro h
    obtain ⟨items, hitems, hpeers⟩ :=
      bind_eq_ok.1 ((items_eq_ok (f := f) fun _ _ => listedPeer_eq_ok (f := f)).2 h.peers)
    exact ⟨_, h.sdp, items, hitems, _, hpeers, _, h.speakers, _, h.vthumbs, _, h.moderators,
      _, h.cid, _, h.startedAt, rfl⟩

theorem avChange_eq_ok {c : Command} :
    f.avChange = .ok c ↔ ∃ cid flags, c = .av cid flags ∧ Describes f.members c := by
  simp only [avChange, do_eq_ok, pure_eq_ok, uint32_eq_ok, av_eq_ok]
  constructor
  · rintro ⟨cid, hcid, flags, hflags, rfl⟩
    exact ⟨cid, flags, rfl, hcid, hflags⟩
  · rintro ⟨cid, flags, rfl, hcid, hflags⟩
    exact ⟨cid, hcid, flags, hflags, rfl⟩

theorem mediaKey_eq_ok {c : Command} :
    f.mediaKey = .ok c ↔ ∃ id sender bytes, c = .key id sender bytes ∧ Describes f.members c := by
  simp only [mediaKey, do_eq_ok, pure_eq_ok, uint32_eq_ok, key_eq_ok]
  constructor
  · rintro ⟨bytes, hbytes, id, hid, sender, hsender, rfl⟩
    exact ⟨id, sender, bytes, rfl, hid, hsender, hbytes⟩
  · rintro ⟨id, sender, bytes, rfl, hid, hsender, hbytes⟩
    exact ⟨bytes, hbytes, id, hid, sender, hsender, rfl⟩

theorem speakOn_eq_ok {c : Command} :
    f.speakOn = .ok c ↔ ∃ cid audio, c = .speakOn cid audio ∧ Describes f.members c := by
  -- what is done behind the track is the same with and without one
  have hnamed : ∀ audio cid, (if (cid.isSome && audio.isNone) = true
        then .error (f.missing "audio") else .ok (.speakOn cid audio)) = Except.ok c ↔
      c = .speakOn cid audio ∧ (cid.isSome → audio.isSome) := by
    intro audio cid
    cases audio <;> cases cid <;> simp [eq_comm]
  simp only [speakOn, do_eq_ok, optional_object_eq_ok]
  constructor
  · rintro ⟨members, hmembers, h⟩
    cases members with
    | none =>
      simp only [do_eq_ok, optional_uint32_eq_ok, hnamed] at h
      obtain ⟨audio, haudio, cid, hcid, rfl, hsome⟩ := h
      obtain rfl := Except.ok.inj haudio
      exact ⟨cid, none, rfl, hcid, hmembers, hsome⟩
    | some members =>
      simp only [do_eq_ok, optional_uint32_eq_ok, hnamed, map_eq_ok, descriptor_false_eq_ok] at h
      obtain ⟨audio, ⟨track, htrack, rfl⟩, cid, hcid, rfl, hsome⟩ := h
      obtain ⟨_, hm, rfl⟩ := hmembers
      exact ⟨cid, some track, rfl, hcid, ⟨_, hm, members, rfl, htrack⟩, hsome⟩
  · rintro ⟨cid, audio, rfl, hcid, haudio, hsome⟩
    cases audio with
    | none =>
      refine ⟨none, haudio, ?_⟩
      simp only [do_eq_ok, optional_uint32_eq_ok, hnamed]
      exact ⟨none, rfl, cid, hcid, rfl, hsome⟩
    | some track =>
      obtain ⟨_, hm, members, rfl, htrack⟩ := haudio
      refine ⟨some members, ⟨_, hm, rfl⟩, ?_⟩
      simp only [do_eq_ok, optional_uint32_eq_ok, hnamed, map_eq_ok, descriptor_false_eq_ok]
      exact ⟨some track, ⟨track, htrack, rfl⟩, cid, hcid, rfl, hsome⟩

end Fields

/-! ### Whole commands -/

open Fields

/-- A command is read from its name and exactly the members that describe it. -/
theorem Command.read_eq_ok_iff {name : String} {members : Members} {c : Command} :
    Command.read name members = .ok c ↔ name = c.name ∧ Describes members c := by
  constructor
  · intro h
    unfold Command.read at h
    split at h
    case h_1 =>
      obtain ⟨cid, flags, rfl, hc⟩ := avChange_eq_ok.1 h
      exact ⟨rfl, hc⟩
    case h_2 =>
      obtain ⟨answer, hanswer, rfl⟩ := map_eq_ok.1 h
      exact ⟨rfl, answer_eq_ok.1 hanswer⟩
    case h_3 =>
      obtain ⟨id, sender, bytes, rfl, hc⟩ := mediaKey_eq_ok.1 h
      exact ⟨rfl, hc⟩
    case h_4 | h_5 =>
      obtain ⟨tracks, htracks, rfl⟩ := map_eq_ok.1 h
      exact ⟨rfl, trackList_eq_ok.1 htracks⟩
    case h_6 | h_7 | h_8 | h_9 =>
      obtain rfl := Except.ok.inj h
      exact ⟨rfl, trivial⟩
    case h_10 =>
      obtain ⟨cids, hcids, rfl⟩ := map_eq_ok.1 h
      exact ⟨rfl, cids_eq_ok.1 hcids⟩
    case h_11 | h_15 | h_16 =>
      obtain ⟨n, hn, rfl⟩ := map_eq_ok.1 h
      exact ⟨rfl, uint32_eq_ok.1 hn⟩
    case h_12 =>
      obtain ⟨cid, audio, rfl, hc⟩ := speakOn_eq_ok.1 h
      exact ⟨rfl, hc⟩
    case h_13 =>
      obtain ⟨cid, hcid, rfl⟩ := map_eq_ok.1 h
      exact ⟨rfl, optional_uint32_eq_ok.1 hcid⟩
    case h_14 =>
      obtain ⟨peer, hpeer, rfl⟩ := map_eq_ok.1 h
      exact ⟨rfl, peer_eq_ok.1 hpeer⟩
    case h_17 | h_18 =>
      obtain ⟨name, hname, rfl⟩ := map_eq_ok.1 h
      exact ⟨rfl, user_eq_ok.1 hname⟩
    case h_19 => simp at h
  · rintro ⟨rfl, h⟩
    cases c with
    | av cid flags => exact avChange_eq_ok.2 ⟨cid, flags, rfl, h⟩
    | answer answer => exact map_eq_ok.2 ⟨answer, answer_eq_ok.2 h, rfl⟩
    | key id sender bytes => exact mediaKey_eq_ok.2 ⟨id, sender, bytes, rfl, h⟩
    | vthumbs tracks => exact map_eq_ok.2 ⟨tracks, trackList_eq_ok.2 h, rfl⟩
    | vthumbStart => rfl
    | vthumbStop => rfl
    | hires tracks => exact map_eq_ok.2 ⟨tracks, trackList_eq_ok.2 h, rfl⟩
    | hiresStart => rfl
    | hiresStop => rfl
    | speakReqs cids => exact map_eq_ok.2 ⟨cids, cids_eq_ok.2 h, rfl⟩
    | speakReqDel cid => exact map_eq_ok.2 ⟨cid, uint32_eq_ok.2 h, rfl⟩
    | speakOn cid audio => exact speakOn_eq_ok.2 ⟨cid, audio, rfl, h⟩
    | speakOff cid => exact map_eq_ok.2 ⟨cid, optional_uint32_eq_ok.2 h, rfl⟩
    | peerJoin peer => exact map_eq_ok.2 ⟨peer, peer_eq_ok.2 h, rfl⟩
    | peerLeft cid => exact map_eq_ok.2 ⟨cid, uint32_eq_ok.2 h, rfl⟩
    | bye reason => exact map_eq_ok.2 ⟨reason, uint32_eq_ok.2 h, rfl⟩
    | modAdd user => exact map_eq_ok.2 ⟨user.name, user_eq_ok.2 h, rfl⟩
    | modDel user => exact map_eq_ok.2 ⟨user.name, user_eq_ok.2 h, rfl⟩

end GroupCall
