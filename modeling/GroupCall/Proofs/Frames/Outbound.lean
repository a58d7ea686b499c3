/-
# What the frames of commands say

The frame of a command is JSON text, and from its members everything that was put into the
command can be read again: descriptions by the reader that also reads the relay's, IVs from
their digits, and wrapped keys from their base64.  Reading a whole frame so is an inverse of
writing it, and therefore no two commands have the same frame.
-/
import GroupCall.Proofs.Sdp.Wire
import GroupCall.Protocol.Outbound
import Mathlib.Data.List.Forall2

namespace GroupCall

open Json

namespace OutboundCommand

/-! ### The members of a frame -/

/-- The members of the frame of a command, by ascending key. -/
def wire (c : OutboundCommand) : List (String × Json) := inOrder (("a", .text c.name) :: c.members)

theorem nodup_members (c : OutboundCommand) :
    ((("a", Json.text c.name) :: c.members).map Prod.fst).Nodup := by
  cases c with
  | join sdp ivs flags speaker vthumbs => cases speaker <;> cases vthumbs <;> simp [members]
  | getHires cid reuse quality => cases reuse <;> simp [members]
  | speakRequest cid => cases cid <;> simp [members, cidMember]
  | speakRequestDel cid => cases cid <;> simp [members, cidMember]
  | speakerDel cid => cases cid <;> simp [members, cidMember]
  | _ => simp [members]

/-- What was put under a key is found there. -/
theorem member?_wire (c : OutboundCommand) (key : String) :
    member? key c.wire = member? key (("a", .text c.name) :: c.members) :=
  member?_inOrder c.nodup_members key

section

variable {room : Nat}

theorem printable_cidJson (cid : Cid) : Printable room (cidJson cid) :=
  .nat (Nat.lt_trans cid.toNat_lt (by decide))

theorem printable_word8 (n : UInt8) : Printable room (.nat n.toNat) :=
  .nat (Nat.lt_trans n.toNat_lt (by decide))

theorem printable_cids (cids : List Cid) : Printable (room + 1) (.array (cids.map cidJson)) := by
  refine .array fun item hitem => ?_
  obtain ⟨cid, -, rfl⟩ := List.mem_map.1 hitem
  exact printable_cidJson cid

theorem printable_ivsJson (ivs : SendIvs) : Printable (room + 1) (ivsJson ivs) := by
  refine .object ?_ fun m hm => ?_
  · have h01 : "0" < "1" := by decide
    have h02 : "0" < "2" := by decide
    have h12 : "1" < "2" := by decide
    refine List.pairwise_cons.2 ⟨?_, List.pairwise_cons.2 ⟨?_, List.pairwise_singleton _ _⟩⟩
    · exact List.forall_mem_cons.2 ⟨h01, List.forall_mem_cons.2 ⟨h02, List.forall_mem_nil _⟩⟩
    · exact List.forall_mem_cons.2 ⟨h12, List.forall_mem_nil _⟩
  · simp only [List.mem_cons, List.not_mem_nil, or_false] at hm
    rcases hm with rfl | rfl | rfl <;> exact .text _

theorem printable_wrapped (wrapped : List (Cid × List UInt8)) :
    Printable (room + 2)
      (.array (wrapped.map fun w => .array [cidJson w.1, .text (Text.base64Url w.2)])) := by
  refine .array fun item hitem => ?_
  obtain ⟨w, -, rfl⟩ := List.mem_map.1 hitem
  refine .array fun part hpart => ?_
  simp only [List.mem_cons, List.not_mem_nil, or_false] at hpart
  rcases hpart with rfl | rfl
  · exact printable_cidJson w.1
  · exact .text _

theorem printable_cidMember {cid : Option Cid} {m : String × Json} (h : m ∈ cidMember cid) :
    Printable room m.2 := by
  cases cid with
  | none => exact absurd h List.not_mem_nil
  | some cid =>
    obtain rfl := List.mem_singleton.1 h
    exact printable_cidJson cid

theorem printable_members {c : OutboundCommand} {m : String × Json} (h : m ∈ c.members) :
    Printable (room + 5) m.2 := by
  cases c with
  | join sdp ivs flags speaker vthumbs =>
    simp only [members, List.mem_append, List.mem_cons, List.not_mem_nil, or_false] at h
    rcases h with ((rfl | rfl | rfl) | h) | h
    · exact sdp.printable
    · exact printable_ivsJson ivs
    · exact printable_word8 flags.bits
    · split at h
      · obtain rfl := List.mem_singleton.1 h
        exact .nat (by decide)
      · exact absurd h List.not_mem_nil
    · cases vthumbs with
      | none => exact absurd h List.not_mem_nil
      | some n =>
        obtain rfl := List.mem_singleton.1 h
        exact .nat (Nat.lt_trans n.toNat_lt (by decide))
  | key id wrapped =>
    simp only [members, List.mem_cons, List.not_mem_nil, or_false] at h
    rcases h with rfl | rfl
    · exact .nat (Nat.lt_trans id.toNat_lt (by decide))
    · exact printable_wrapped wrapped
  | av flags =>
    obtain rfl := List.mem_singleton.1 h
    exact printable_word8 flags.bits
  | getVthumbs cids | delVthumbs cids | delHires cids =>
    obtain rfl := List.mem_singleton.1 h
    exact printable_cids cids
  | getHires cid reuse quality =>
    simp only [members, List.mem_append, List.mem_cons, List.not_mem_nil, or_false] at h
    rcases h with (rfl | rfl) | h
    · exact printable_cidJson cid
    · exact printable_word8 quality
    · split at h
      · obtain rfl := List.mem_singleton.1 h
        exact .nat (by decide)
      · exact absurd h List.not_mem_nil
  | hiresSetLo cid quality =>
    simp only [members, List.mem_cons, List.not_mem_nil, or_false] at h
    rcases h with rfl | rfl
    · exact printable_cidJson cid
    · exact printable_word8 quality
  | layer spatial temporal screenTemporal =>
    simp only [members, List.mem_cons, List.not_mem_nil, or_false] at h
    rcases h with rfl | rfl | rfl
    · exact printable_word8 spatial
    · exact printable_word8 temporal
    · exact printable_word8 screenTemporal
  | speakRequest cid | speakRequestDel cid | speakerDel cid => exact printable_cidMember h

end

theorem printable (c : OutboundCommand) {room : Nat} : Printable (room + 6) c.toJson := by
  refine Printable.ofMembers fun m hm => ?_
  rcases List.mem_cons.1 hm with rfl | hm
  · exact .text _
  · exact printable_members hm

/-- The frame of a command is the text of its members. -/
theorem read?_frame (c : OutboundCommand) : read? c.frame = some (.object c.wire) :=
  read?_bytes (show Printable (121 + 6) c.toJson from c.printable)

/-! ### Reading a frame again -/

/-- A number among the members, if it is there. -/
def number? (members : List (String × Json)) (key : String) : Option Nat :=
  (member? key members).bind natural?

/-- A participant among the members, if it is there. -/
def cid? (members : List (String × Json)) : Option Cid :=
  (number? members "cid").map UInt32.ofNat

/-- The participants among the members. -/
def cids? (members : List (String × Json)) : Option (List Cid) :=
  ((member? "cids" members).bind array?).bind
    (List.mapM fun item => (natural? item).map UInt32.ofNat)

/-- An IV among the members. -/
def iv? (members : List (String × Json)) (key : String) : Option InitVector :=
  ((member? key members).bind text?).bind InitVector.ofHex?

/-- The IVs of the tracks, by their numbers. -/
def ivs? (members : List (String × Json)) : Option SendIvs := do
  let ivs ← (member? "ivs" members).bind object?
  return ⟨← iv? ivs "0", ← iv? ivs "1", ← iv? ivs "2"⟩

/-- A wrapped key with its recipient. -/
def wrapped? (item : Json) : Option (Cid × List UInt8) := do
  match ← item.array? with
  | [cid, written] => return (UInt32.ofNat (← cid.natural?), ← written.text?.bind Text.readBase64Url?)
  | _ => none

/-- The wrapped keys among the members. -/
def keys? (members : List (String × Json)) : Option (List (Cid × List UInt8)) :=
  ((member? "data" members).bind array?).bind (List.mapM wrapped?)

/-- The command that the members of a frame say. -/
def ofMembers? (members : List (String × Json)) : Option OutboundCommand := do
  match ← (member? "a" members).bind text? with
  | "JOIN" =>
    return .join (← (member? "sdp" members).bind Sdp.ofJson?) (← ivs? members)
      ⟨UInt8.ofNat (← number? members "av")⟩ (member? "spk" members).isSome
      ((number? members "vthumbs").map UInt32.ofNat)
  | "KEY" => return .key (UInt32.ofNat (← number? members "id")) (← keys? members)
  | "AV" => return .av ⟨UInt8.ofNat (← number? members "av")⟩
  | "GET_VTHUMBS" => return .getVthumbs (← cids? members)
  | "DEL_VTHUMBS" => return .delVthumbs (← cids? members)
  | "GET_HIRES" =>
    return .getHires (← cid? members) (member? "r" members).isSome
      (UInt8.ofNat (← number? members "lo"))
  | "DEL_HIRES" => return .delHires (← cids? members)
  | "HIRES_SET_LO" => return .hiresSetLo (← cid? members) (UInt8.ofNat (← number? members "lo"))
  | "LAYER" =>
    return .layer (UInt8.ofNat (← number? members "spt")) (UInt8.ofNat (← number? members "tmp"))
      (UInt8.ofNat (← number? members "stmp"))
  | "SPEAK_RQ" => return .speakRequest (cid? members)
  | "SPEAK_RQ_DEL" => return .speakRequestDel (cid? members)
  | "SPEAKER_DEL" => return .speakerDel (cid? members)
  | _ => none

section

variable {members : List (String × Json)} {key : String}

theorem natural?_nat (n : Nat) : natural? (.nat n) = some n := by simp [natural?, nat]

theorem number?_eq {n : Nat} (h : member? key members = some (.nat n)) :
    number? members key = some n := by
  rw [number?, h, Option.bind_some, natural?_nat]

theorem cid?_eq {cid : Cid} (h : member? "cid" members = some (cidJson cid)) :
    cid? members = some cid := by
  rw [cid?, number?_eq h, Option.map_some, UInt32.ofNat_toNat]

theorem cid?_eq_none (h : member? "cid" members = none) : cid? members = none := by
  rw [cid?, number?, h]
  rfl

theorem cids?_eq {cids : List Cid} (h : member? "cids" members = some (.array (cids.map cidJson))) :
    cids? members = some cids := by
  rw [cids?, h]
  refine mapM_map (fun cid => ?_) cids
  rw [cidJson, natural?_nat, Option.map_some, UInt32.ofNat_toNat]

theorem iv?_eq {iv : InitVector} (h : member? key members = some (.text iv.hex)) :
    iv? members key = some iv := by
  rw [iv?, h, Option.bind_some, text?, Option.bind_some, InitVector.ofHex?_hex]

/-- The members of the IVs. -/
abbrev ivMembers (ivs : SendIvs) : List (String × Json) :=
  [("0", .text ivs.vthumb.hex), ("1", .text ivs.hires.hex), ("2", .text ivs.audio.hex)]

theorem iv?_ivMembers (ivs : SendIvs) :
    iv? (ivMembers ivs) "0" = some ivs.vthumb ∧ iv? (ivMembers ivs) "1" = some ivs.hires ∧
      iv? (ivMembers ivs) "2" = some ivs.audio :=
  ⟨iv?_eq (by simp [member?]), iv?_eq (by simp [member?]), iv?_eq (by simp [member?])⟩

theorem ivs?_eq {ivs : SendIvs} (h : member? "ivs" members = some (ivsJson ivs)) :
    ivs? members = some ivs := by
  obtain ⟨h0, h1, h2⟩ := iv?_ivMembers ivs
  have hivs : (member? "ivs" members).bind object? = some (ivMembers ivs) := by
    rw [h]
    rfl
  simp only [ivs?, hivs, h0, h1, h2, Option.bind_eq_bind, Option.bind_some, Option.pure_def]

theorem wrapped?_array (w : Cid × List UInt8) :
    wrapped? (.array [cidJson w.1, .text (Text.base64Url w.2)]) = some w := by
  simp [wrapped?, array?, cidJson, natural?_nat, text?, Text.readBase64Url?_base64Url]

theorem keys?_eq {wrapped : List (Cid × List UInt8)}
    (h : member? "data" members = some (.array
      (wrapped.map fun w => .array [cidJson w.1, .text (Text.base64Url w.2)]))) :
    keys? members = some wrapped := by
  rw [keys?, h]
  exact mapM_map wrapped?_array wrapped

end

/-- A command is read again from the members of its frame. -/
theorem ofMembers?_wire (c : OutboundCommand) : ofMembers? c.wire = some c := by
  have hname : (member? "a" c.wire).bind text? = some c.name := by
    rw [member?_wire]
    rfl
  have hwire := member?_wire c
  rw [ofMembers?, hname]
  cases c with
  | join sdp ivs flags speaker vthumbs =>
    have hsdp : (member? "sdp" (wire (.join sdp ivs flags speaker vthumbs))).bind Sdp.ofJson? =
        some sdp := by
      rw [hwire]
      exact sdp.ofJson?_toJson
    have hivs := ivs?_eq (hwire "ivs")
    have hflags := number?_eq (hwire "av")
    have hspeaker : (member? "spk" (wire (.join sdp ivs flags speaker vthumbs))).isSome =
        speaker := by
      rw [hwire]
      cases speaker <;> cases vthumbs <;> simp [members, member?]
    have hvthumbs : number? (wire (.join sdp ivs flags speaker vthumbs)) "vthumbs" =
        vthumbs.map UInt32.toNat := by
      rw [number?, hwire]
      cases speaker <;> cases vthumbs <;> simp [members, member?, natural?_nat]
    simp only [name, hsdp, hivs, hflags, hspeaker, hvthumbs, Option.bind_eq_bind,
      Option.bind_some, Option.pure_def]
    cases vthumbs <;> simp
  | key id wrapped =>
    have hid := number?_eq (hwire "id")
    have hkeys := keys?_eq (hwire "data")
    simp [name, hid, hkeys]
  | av flags =>
    have hflags := number?_eq (hwire "av")
    simp [name, hflags]
  | getVthumbs cids | delVthumbs cids | delHires cids =>
    have hcids := cids?_eq (hwire "cids")
    simp [name, hcids]
  | getHires cid reuse quality =>
    have hcid := cid?_eq (hwire "cid")
    have hquality := number?_eq (hwire "lo")
    have hreuse : (member? "r" (wire (.getHires cid reuse quality))).isSome = reuse := by
      rw [hwire]
      cases reuse <;> simp [members, member?]
    simp [name, hcid, hquality, hreuse]
  | hiresSetLo cid quality =>
    have hcid := cid?_eq (hwire "cid")
    have hquality := number?_eq (hwire "lo")
    simp [name, hcid, hquality]
  | layer spatial temporal screenTemporal =>
    have hspatial := number?_eq (hwire "spt")
    have htemporal := number?_eq (hwire "tmp")
    have hscreen := number?_eq (hwire "stmp")
    simp [name, hspatial, htemporal, hscreen]
  | speakRequest cid | speakRequestDel cid | speakerDel cid =>
    cases cid with
    | none =>
      have hcid := cid?_eq_none (hwire "cid")
      simp [name, hcid]
    | some cid =>
      have hcid := cid?_eq (hwire "cid")
      simp [name, hcid]

/-- Two different commands have different frames. -/
theorem frame_injective {c d : OutboundCommand} (h : c.frame = d.frame) : c = d := by
  have hwire : c.wire = d.wire := by
    have hread := (read?_frame c).symm.trans ((congrArg read? h).trans (read?_frame d))
    exact Json.object.inj (Option.some.inj hread)
  exact Option.some.inj ((ofMembers?_wire c).symm.trans
    ((congrArg ofMembers? hwire).trans (ofMembers?_wire d)))

/-- The frame of a command is the text of an object with the name of the command.  From the
members of a request to join the description and the IVs are read as they were given, from
those of a key message the wrapped keys with their recipients, and different commands have
different frames. -/
theorem frames_are_decodable :
    (∀ c : OutboundCommand, ∃ members, read? c.frame = some (.object members) ∧
      member? "a" members = some (.text c.name) ∧ ofMembers? members = some c) ∧
    (∀ sdp ivs flags speaker vthumbs, ∃ members written digits,
      read? (frame (.join sdp ivs flags speaker vthumbs)) = some (.object members) ∧
      member? "sdp" members = some written ∧ Sdp.ofJson? written = some sdp ∧
      member? "ivs" members = some (.object digits) ∧
      (∃ s, member? "0" digits = some (.text s) ∧ InitVector.ofHex? s = some ivs.vthumb) ∧
      (∃ s, member? "1" digits = some (.text s) ∧ InitVector.ofHex? s = some ivs.hires) ∧
      (∃ s, member? "2" digits = some (.text s) ∧ InitVector.ofHex? s = some ivs.audio)) ∧
    (∀ id wrapped, ∃ members items,
      read? (frame (.key id wrapped)) = some (.object members) ∧
      member? "data" members = some (.array items) ∧
      List.Forall₂ (fun item (w : Cid × List UInt8) => ∃ s,
        item = .array [.nat w.1.toNat, .text s] ∧ Text.readBase64Url? s = some w.2)
        items wrapped) ∧
    (∀ c d : OutboundCommand, c.frame = d.frame → c = d) := by
  refine ⟨?_, ?_, ?_, fun c d => frame_injective⟩
  · intro c
    exact ⟨c.wire, read?_frame c, member?_wire c "a", ofMembers?_wire c⟩
  · intro sdp ivs flags speaker vthumbs
    refine ⟨_, sdp.toJson, ivMembers ivs, read?_frame _, member?_wire _ "sdp",
      sdp.ofJson?_toJson, member?_wire _ "ivs", ?_, ?_, ?_⟩
    · exact ⟨_, by simp [member?], InitVector.ofHex?_hex _⟩
    · exact ⟨_, by simp [member?], InitVector.ofHex?_hex _⟩
    · exact ⟨_, by simp [member?], InitVector.ofHex?_hex _⟩
  · intro id wrapped
    refine ⟨_, _, read?_frame _, member?_wire _ "data", ?_⟩
    refine List.forall₂_map_left_iff.2 (List.forall₂_same.2 fun w _ => ?_)
    exact ⟨_, rfl, Text.readBase64Url?_base64Url w.2⟩

end OutboundCommand
end GroupCall
