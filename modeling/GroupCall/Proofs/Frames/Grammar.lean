/-
# The grammar of frames

What a member of a frame has to be is a relation between JSON values and what they stand
for, and what a frame has to hold is a relation between its members and the frame.  The
relations say nothing about an order in which members are read, nor about members that a
command does not have.  The readers of single members are shown to accept exactly what the
relations describe.
-/
import GroupCall.Proofs.Frames.Hexadecimal
import GroupCall.Protocol.Inbound
import Mathlib.Data.List.Forall2

namespace GroupCall

variable {α β ε : Type}

/-! ### Computations that may fail -/

namespace Refusal

variable {x : Except ε α} {g : α → Except ε β} {b : β}

theorem bind_eq_ok : x.bind g = .ok b ↔ ∃ a, x = .ok a ∧ g a = .ok b := by
  cases x <;> simp [Except.bind]

theorem map_eq_ok {h : α → β} : x.map h = .ok b ↔ ∃ a, x = .ok a ∧ h a = b := by
  cases x <;> simp [Except.map]

/-- A list is gone through without a refusal if each of its items is. -/
theorem mapM_eq_ok {items : List α} {bs : List β} :
    items.mapM g = .ok bs ↔ List.Forall₂ (fun a b => g a = .ok b) items bs := by
  induction items generalizing bs with
  | nil => cases bs <;> simp [pure, Except.pure]
  | cons a items ih =>
    rw [List.mapM_cons, List.forall₂_cons_left_iff]
    show ((g a).bind fun b => (items.mapM g).bind fun rest => .ok (b :: rest)) = _ ↔ _
    simp only [bind_eq_ok, ih, Except.ok.injEq]
    constructor
    · rintro ⟨b, hb, rest, hrest, rfl⟩
      exact ⟨b, rest, hb, hrest, rfl⟩
    · rintro ⟨b, rest, hb, hrest, rfl⟩
      exact ⟨b, hb, rest, hrest, rfl⟩

end Refusal

/-! ### What members have to be -/

namespace Grammar

/-- What a value has to be to stand for an `α`. -/
abbrev Form (α : Type) := Json → α → Prop

/-- The members of an object. -/
abbrev Members := List (String × Json)

/-- A member is there, and its value stands for `a`. -/
def Holds (members : Members) (key : String) (form : Form α) (a : α) : Prop :=
  ∃ value, Json.member? key members = some value ∧ form value a

/-- A member is absent or null, or its value stands for what is there. -/
def MayHold (members : Members) (key : String) (form : Form α) : Option α → Prop
  | none => Json.member? key members = none ∨ Json.member? key members = some .null
  | some a => Holds members key form a

/-- An integer below `2 ^ 32`. -/
def IsWord32 : Form UInt32 := fun value n => value = .nat n.toNat

/-- An integer below `2 ^ 64`. -/
def IsWord64 : Form UInt64 := fun value n => value = .nat n.toNat

/-- An integer below `2 ^ 8` that is a mask. -/
def IsFlags : Form AvFlags := fun value flags => value = .nat flags.bits.toNat

/-- A text that is the name of a user. -/
def IsUser : Form UserId := fun value user => value = .text user.name

/-- Sixteen hexadecimal digits of either case. -/
def IsIv : Form InitVector := fun value iv =>
  ∃ digits : String, value = .text digits ∧ digits.toList.map Char.toLower = iv.hex.toList

/-- Bytes in base64 without padding. -/
def IsKey : Form (List UInt8) := fun value bytes => value = .text (Text.base64Url bytes)

/-- An object that describes a session. -/
def IsSdp : Form Sdp := fun value sdp =>
  ∃ members, value = .object members ∧ Sdp.ofJson? value = some sdp

/-- An array, item by item. -/
def IsList (form : Form α) : Form (List α) := fun value list =>
  ∃ items, value = .array items ∧ List.Forall₂ form items list

/-- An object with certain members. -/
def IsObject (describes : Members → α → Prop) : Form α := fun value a =>
  ∃ members, value = .object members ∧ describes members a

/-- An object whose keys are participants, member by member.  Of two keys that write the
same participant the later one counts. -/
def IsByCid (form : Form α) : Form (Table Cid α) := fun value table =>
  ∃ members entries, value = .object members ∧
    List.Forall₂ (fun m (e : Cid × α) => Text.Writes m.1.toList e.1.toNat ∧ form m.2 e.2)
      members entries ∧
    table = Table.ofList entries

/-- The members of a participant. -/
def Peer (members : Members) (peer : PeerInfo) : Prop :=
  Holds members "cid" IsWord32 peer.cid ∧ Holds members "userId" IsUser peer.userId ∧
    Holds members "av" IsFlags peer.av

/-- The members of a track that is not marked as reused. -/
def FreshTrack (members : Members) (track : TrackDescriptor) : Prop :=
  Holds members "mid" IsWord32 track.mid ∧ Holds members "iv" IsIv track.iv ∧
    track.reuse = false

/-- The members of a track that may be marked as reused, by any number but zero. -/
def MarkedTrack (members : Members) (track : TrackDescriptor) : Prop :=
  Holds members "mid" IsWord32 track.mid ∧ Holds members "iv" IsIv track.iv ∧
    ∃ mark, MayHold members "r" IsWord32 mark ∧ track.reuse = (mark.getD 0 != 0)

/-- The members of an assigned track. -/
def AssignedTrack (members : Members) (assigned : CidTrack) : Prop :=
  Holds members "cid" IsWord32 assigned.cid ∧ MarkedTrack members assigned.track

/-- The members of a speaker. -/
def Speaker (members : Members) (track : TrackDescriptor) : Prop :=
  Holds members "audio" (IsObject FreshTrack) track

/-- The members of the answer to a request to join. -/
structure Answers (members : Members) (answer : Answer) : Prop where
  cid : Holds members "cid" IsWord32 answer.cid
  sdp : Holds members "sdp" IsSdp answer.sdp
  startedAt : Holds members "t" IsWord64 answer.startedAt
  peers : Holds members "peers" (IsList (IsObject Peer)) answer.peers
  speakers : ∃ table, MayHold members "speakers" (IsByCid (IsObject Speaker)) table ∧
    answer.speakers = table.getD .empty
  vthumbs : ∃ table, MayHold members "vthumbs" (IsByCid (IsObject FreshTrack)) table ∧
    answer.vthumbs = table.getD .empty
  moderators : ∃ list, MayHold members "mods" (IsList IsUser) list ∧
    answer.moderators = list.getD []

/-- The members of a command beside its name. -/
def Describes (members : Members) : Command → Prop
  | .av cid flags => Holds members "cid" IsWord32 cid ∧ Holds members "av" IsFlags flags
  | .answer answer => Answers members answer
  | .key id sender bytes =>
    Holds members "id" IsWord32 id ∧ Holds members "from" IsWord32 sender ∧
      Holds members "key" IsKey bytes
  | .vthumbs tracks => Holds members "tracks" (IsList (IsObject AssignedTrack)) tracks
  | .vthumbStart => True
  | .vthumbStop => True
  | .hires tracks => Holds members "tracks" (IsList (IsObject AssignedTrack)) tracks
  | .hiresStart => True
  | .hiresStop => True
  | .speakReqs cids => Holds members "cids" (IsList IsWord32) cids
  | .speakReqDel cid => Holds members "cid" IsWord32 cid
  | .speakOn cid audio =>
    MayHold members "cid" IsWord32 cid ∧ MayHold members "audio" (IsObject FreshTrack) audio ∧
      (cid.isSome → audio.isSome)
  | .speakOff cid => MayHold members "cid" IsWord32 cid
  | .peerJoin peer => Peer members peer
  | .peerLeft cid => Holds members "cid" IsWord32 cid
  | .bye reason => Holds members "rsn" IsWord32 reason
  | .modAdd user => Holds members "userId" IsUser user
  | .modDel user => Holds members "userId" IsUser user

/-- The members of a frame.  An error code comes before everything else. -/
inductive Reads (members : Members) : InboundFrame → Prop
  /-- An error code is a signed integer of 32 bits; a text that is none does not count. -/
  | error {code : Int} {text : Option String}
      (hcode : Json.member? "err" members = some (.integer code))
      (hrange : -0x80000000 ≤ code ∧ code < 0x80000000)
      (htext : text = (Json.member? "msg" members).bind Json.text?) :
      Reads members (.error code text)
  /-- A command has its name and its members. -/
  | command {command : Command} (herr : Json.member? "err" members = none)
      (hname : Json.member? "a" members = some (.text command.name))
      (hdescribes : Describes members command) :
      Reads members (.command command)

end Grammar

/-! ### Readers of single members -/

namespace Fields

open Grammar Refusal

variable {f : Fields} {key : String}

theorem get_eq_ok {value : Json} :
    f.get key = .ok value ↔ Json.member? key f.members = some value := by
  rw [get, find?]
  split <;> simp_all

theorem as_eq_ok {shape : Shape} {reader : Json → Option α} {value : Json} {a : α} :
    f.as key shape reader value = .ok a ↔ reader value = some a := by
  rw [as]
  split <;> simp_all

/-- A member is read if it is there and its reader takes it. -/
theorem read_eq_ok {shape : Shape} {reader : Json → Option α} {a : α} :
    f.read key shape reader = .ok a ↔ Holds f.members key (fun v a => reader v = some a) a := by
  simp only [read, bind_eq_ok, get_eq_ok, as_eq_ok, Holds]

theorem text?_eq_some_iff {value : Json} {s : String} :
    value.text? = some s ↔ value = .text s := by
  cases value <;> simp [Json.text?]

theorem array?_eq_some_iff {value : Json} {items : List Json} :
    value.array? = some items ↔ value = .array items := by
  cases value <;> simp [Json.array?]

theorem object?_eq_some_iff {value : Json} {members : List (String × Json)} :
    value.object? = some members ↔ value = .object members := by
  cases value <;> simp [Json.object?]

theorem natural?_eq_some_iff {value : Json} {n : Nat} :
    value.natural? = some n ↔ value = .nat n := by
  cases value with
  | integer i =>
    simp only [Json.natural?, Json.nat, Json.integer.injEq]
    constructor
    · intro h
      split at h
      · obtain rfl := Option.some.inj h
        omega
      · simp at h
    · rintro rfl
      simp
  | _ => simp [Json.natural?, Json.nat]

theorem boundedNat_eq_ok {bound n : Nat} {shape : Shape} :
    f.boundedNat key bound shape = .ok n ↔
      Json.member? key f.members = some (.nat n) ∧ n ≤ bound := by
  simp only [boundedNat, bind_eq_ok, read_eq_ok, Holds, natural?_eq_some_iff, exists_eq_right]
  constructor
  · rintro ⟨m, hm, h⟩
    split at h
    · next hle =>
      obtain rfl := Except.ok.inj h
      exact ⟨hm, hle⟩
    · simp at h
  · rintro ⟨hm, hle⟩
    exact ⟨n, hm, if_pos hle⟩

theorem uint32_eq_ok {n : UInt32} :
    f.uint32 key = .ok n ↔ Holds f.members key IsWord32 n := by
  simp only [uint32, map_eq_ok, boundedNat_eq_ok, Holds, IsWord32, exists_eq_right]
  constructor
  · rintro ⟨m, ⟨hm, hle⟩, rfl⟩
    rwa [UInt32.toNat_ofNat_of_lt' (Nat.lt_of_le_pred (by decide) hle)]
  · intro h
    exact ⟨n.toNat, ⟨h, Nat.le_pred_of_lt n.toNat_lt_size⟩, UInt32.ofNat_toNat⟩

theorem uint64_eq_ok {n : UInt64} :
    f.uint64 key = .ok n ↔ Holds f.members key IsWord64 n := by
  simp only [uint64, map_eq_ok, boundedNat_eq_ok, Holds, IsWord64, exists_eq_right]
  constructor
  · rintro ⟨m, ⟨hm, hle⟩, rfl⟩
    rwa [UInt64.toNat_ofNat_of_lt' (Nat.lt_of_le_pred (by decide) hle)]
  · intro h
    exact ⟨n.toNat, ⟨h, Nat.le_pred_of_lt n.toNat_lt_size⟩, UInt64.ofNat_toNat⟩

theorem av_eq_ok {flags : AvFlags} :
    f.av key = .ok flags ↔ Holds f.members key IsFlags flags := by
  simp only [av, map_eq_ok, boundedNat_eq_ok, Holds, IsFlags, exists_eq_right]
  constructor
  · rintro ⟨m, ⟨hm, hle⟩, rfl⟩
    rwa [UInt8.toNat_ofNat_of_lt' (show m < 256 by omega)]
  · intro h
    exact ⟨flags.bits.toNat, ⟨h, Nat.le_of_lt_succ flags.bits.toNat_lt⟩, by simp⟩

theorem text_eq_ok {s : String} :
    f.text key = .ok s ↔ Json.member? key f.members = some (.text s) := by
  simp only [text, read_eq_ok, Holds, text?_eq_some_iff, exists_eq_right]

theorem array_eq_ok {items : List Json} :
    f.array key = .ok items ↔ Json.member? key f.members = some (.array items) := by
  simp only [array, read_eq_ok, Holds, array?_eq_some_iff, exists_eq_right]

theorem object_eq_ok {members : List (String × Json)} :
    f.object key = .ok members ↔ Json.member? key f.members = some (.object members) := by
  simp only [object, read_eq_ok, Holds, object?_eq_some_iff, exists_eq_right]

theorem user_eq_ok {user : UserId} :
    f.text key = .ok user.name ↔ Holds f.members key IsUser user := by
  simp only [text_eq_ok, Holds, IsUser, exists_eq_right]

theorem key_eq_ok {bytes : List UInt8} :
    f.key key = .ok bytes ↔ Holds f.members key IsKey bytes := by
  simp only [Fields.key, bind_eq_ok, text_eq_ok, Holds, IsKey, exists_eq_right]
  constructor
  · rintro ⟨s, hs, h⟩
    split at h
    · next bytes' hbytes =>
      obtain rfl := Except.ok.inj h
      rw [← Text.readBase64Url?_eq_some_iff.1 hbytes]
      exact hs
    · simp at h
  · intro h
    exact ⟨_, h, by simp [Text.readBase64Url?_base64Url]⟩

theorem iv_eq_ok {iv : InitVector} :
    f.iv key = .ok iv ↔ Holds f.members key IsIv iv := by
  simp only [Fields.iv, bind_eq_ok, text_eq_ok, InitVector.decodeHex_eq_ok,
    Text.readHex64?_eq_some_iff, Holds, IsIv, InitVector.hex]
  constructor
  · rintro ⟨s, hs, hiv⟩
    exact ⟨_, hs, s, rfl, hiv⟩
  · rintro ⟨_, hs, s, rfl, hiv⟩
    exact ⟨s, hs, hiv⟩

theorem sdp_eq_ok {sdp : Sdp} :
    f.sdp key = .ok sdp ↔ Holds f.members key IsSdp sdp := by
  simp only [Fields.sdp, bind_eq_ok, object_eq_ok, Holds, IsSdp]
  constructor
  · rintro ⟨members, hm, h⟩
    split at h
    · next sdp' hsdp =>
      obtain rfl := Except.ok.inj h
      exact ⟨_, hm, members, rfl, hsdp⟩
    · simp at h
  · rintro ⟨_, hm, members, rfl, hsdp⟩
    exact ⟨members, hm, by simp [hsdp]⟩

/-- An optional member is read if it is absent or null or else read by its reader, which
does not take null. -/
theorem optional_eq_ok {reader : Except ProtocolError α} {form : Form α} {o : Option α}
    (hread : ∀ a, reader = .ok a ↔ Holds f.members key form a) (hnull : ∀ a, ¬ form .null a) :
    f.optional key reader = .ok o ↔ MayHold f.members key form o := by
  rw [optional, find?]
  split
  · next hm => cases o <;> simp [MayHold, Holds, hm]
  · next hm => cases o <;> simp [MayHold, Holds, hm, hnull]
  · next value hne hm =>
    cases o with
    | none => simpa [map_eq_ok, MayHold, hm] using hne
    | some a => simp [map_eq_ok, MayHold, hread]

theorem optional_uint32_eq_ok {o : Option UInt32} :
    f.optional key (f.uint32 key) = .ok o ↔ MayHold f.members key IsWord32 o :=
  optional_eq_ok (fun _ => uint32_eq_ok) fun n => by simp [IsWord32, Json.nat]

theorem optional_array_eq_ok {o : Option (List Json)} :
    f.optional key (f.array key) = .ok o ↔
      MayHold f.members key (fun value items => value = .array items) o := by
  refine optional_eq_ok (fun items => ?_) (by simp)
  simp only [array_eq_ok, Holds, exists_eq_right]

theorem optional_object_eq_ok {o : Option Members} :
    f.optional key (f.object key) = .ok o ↔
      MayHold f.members key (fun value members => value = .object members) o := by
  refine optional_eq_ok (fun members => ?_) (by simp)
  simp only [object_eq_ok, Holds, exists_eq_right]

/-- If a missing member is taken as an empty one, of which nothing is made, what is made of
the member is what its form says, and nothing if it is missing. -/
theorem mayHold_getD {ι : Type} {members : Members} {shape : Form ι} {form : Form β}
    {make : ι → Except ProtocolError β} {b : β} (empty : ι) (nothing : β)
    (hmake : ∀ value b, form value b ↔ ∃ i, shape value i ∧ make i = .ok b)
    (hnothing : make empty = .ok nothing) :
    (∃ o, MayHold members key shape o ∧ make (o.getD empty) = .ok b) ↔
      ∃ o, MayHold members key form o ∧ b = o.getD nothing := by
  constructor
  · rintro ⟨o, ho, hb⟩
    cases o with
    | none => exact ⟨none, ho, Except.ok.inj (hb.symm.trans hnothing)⟩
    | some i =>
      obtain ⟨value, hm, hi⟩ := ho
      exact ⟨some b, ⟨value, hm, (hmake value b).2 ⟨i, hi, hb⟩⟩, rfl⟩
  · rintro ⟨o, ho, rfl⟩
    cases o with
    | none => exact ⟨none, ho, hnothing⟩
    | some b =>
      obtain ⟨value, hm, hb⟩ := ho
      obtain ⟨i, hi, hb⟩ := (hmake value b).1 hb
      exact ⟨some i, ⟨value, hm, hi⟩, hb⟩

end Fields
end GroupCall
