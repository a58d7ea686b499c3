/-
# What becomes of the bytes of a frame

A frame is read by the grammar, and what it holds beyond the members that are looked at
does not matter.  What is read reaches one operation of the receiver, the one of its
command or the one for errors, and the answer of that operation is the answer for the whole
frame; any other bytes reach none.
-/
import GroupCall.Proofs.Frames.Commands
import GroupCall.Protocol.Dispatch

namespace GroupCall

open Grammar

/-! ### The members that are looked at -/

/-- The members that belong to a command of a given name. -/
def Command.memberNames : String → List String
  | "AV" => ["cid", "av"]
  | "ANSWER" => ["cid", "sdp", "t", "peers", "speakers", "vthumbs", "mods"]
  | "KEY" => ["id", "from", "key"]
  | "VTHUMBS" | "HIRES" => ["tracks"]
  | "SPEAK_REQS" => ["cids"]
  | "SPEAK_RQ_DEL" | "SPEAK_OFF" | "PEERLEFT" => ["cid"]
  | "SPEAK_ON" => ["cid", "audio"]
  | "PEERJOIN" => ["cid", "userId", "av"]
  | "BYE" => ["rsn"]
  | "MOD_ADD" | "MOD_DEL" => ["userId"]
  | _ => []

/-- The members of a frame that are looked at: an error code and its text, or the name of a
command and the members that belong to it. -/
def InboundFrame.memberNames (members : Members) : List String :=
  match Json.member? "err" members with
  | some _ => ["err", "msg"]
  | none =>
    match (Json.member? "a" members).bind Json.text? with
    | some name => "err" :: "a" :: Command.memberNames name
    | none => ["err", "a"]

namespace Fields

variable {name : String} {members members' : Members} {key : String}

theorem get_congr (h : Json.member? key members' = Json.member? key members) :
    get ⟨name, members'⟩ key = get ⟨name, members⟩ key := by
  simp only [get, find?, missing, h]

theorem read_congr {α : Type} {shape : Shape} {reader : Json → Option α}
    (h : Json.member? key members' = Json.member? key members) :
    read ⟨name, members'⟩ key shape reader = read ⟨name, members⟩ key shape reader := by
  simp only [read, get_congr h]
  rfl

theorem uint32_congr (h : Json.member? key members' = Json.member? key members) :
    uint32 ⟨name, members'⟩ key = uint32 ⟨name, members⟩ key := by
  simp only [uint32, boundedNat, read_congr h]
  rfl

theorem av_congr (h : Json.member? key members' = Json.member? key members) :
    av ⟨name, members'⟩ key = av ⟨name, members⟩ key := by
  simp only [av, boundedNat, read_congr h]
  rfl

theorem optional_congr {α : Type} {reader reader' : Except ProtocolError α}
    (h : Json.member? key members' = Json.member? key members) (hreader : reader' = reader) :
    optional ⟨name, members'⟩ key reader' = optional ⟨name, members⟩ key reader := by
  simp only [optional, find?, h, hreader]

theorem tracksByCid_congr {track : Json → Except ProtocolError TrackDescriptor}
    (h : Json.member? key members' = Json.member? key members) :
    tracksByCid ⟨name, members'⟩ key track = tracksByCid ⟨name, members⟩ key track := by
  simp only [tracksByCid, optional_congr h (read_congr h), object]
  rfl

end Fields

/-- A command does not depend on members that do not belong to it. -/
theorem Command.read_congr {name : String} {members members' : Members}
    (h : ∀ key ∈ Command.memberNames name,
      Json.member? key members' = Json.member? key members) :
    Command.read name members' = Command.read name members := by
  unfold Command.memberNames at h
  unfold Command.read
  split <;> (try rfl) <;> simp only [List.forall_mem_cons] at h
  case h_1 => simp only [Fields.avChange, Fields.uint32_congr h.1, Fields.av_congr h.2.1]
  case h_2 =>
    obtain ⟨hcid, hsdp, ht, hpeers, hspeakers, hvthumbs, hmods, -⟩ := h
    simp only [Fields.answer, Fields.sdp, Fields.object, Fields.array, Fields.uint64,
      Fields.boundedNat, Fields.moderators, Fields.read_congr hsdp, Fields.read_congr hpeers,
      Fields.read_congr ht, Fields.tracksByCid_congr hspeakers,
      Fields.tracksByCid_congr hvthumbs, Fields.optional_congr hmods (Fields.read_congr hmods),
      Fields.uint32_congr hcid]
    rfl
  case h_3 =>
    obtain ⟨hid, hfrom, hkey, -⟩ := h
    simp only [Fields.mediaKey, Fields.key, Fields.text, Fields.read_congr hkey,
      Fields.uint32_congr hid, Fields.uint32_congr hfrom]
    rfl
  case h_4 | h_5 =>
    simp only [Fields.trackList, Fields.array, Fields.read_congr h.1]
    rfl
  case h_10 =>
    simp only [Fields.cids, Fields.array, Fields.read_congr h.1]
    rfl
  case h_11 | h_15 | h_16 => simp only [Fields.uint32_congr h.1]
  case h_12 =>
    obtain ⟨hcid, haudio, -⟩ := h
    simp only [Fields.speakOn, Fields.object,
      Fields.optional_congr haudio (Fields.read_congr haudio),
      Fields.optional_congr hcid (Fields.uint32_congr hcid)]
    rfl
  case h_13 => simp only [Fields.optional_congr h.1 (Fields.uint32_congr h.1)]
  case h_14 =>
    obtain ⟨hcid, huser, hav, -⟩ := h
    simp only [Fields.peer, Fields.text, Fields.uint32_congr hcid, Fields.read_congr huser,
      Fields.av_congr hav]
  case h_17 | h_18 => simp only [Fields.text, Fields.read_congr h.1]

namespace InboundFrame

/-- A frame does not depend on members that are not looked at. -/
theorem ofMembers_congr {members members' : Members}
    (h : ∀ key ∈ memberNames members, Json.member? key members' = Json.member? key members) :
    ofMembers members' = ofMembers members := by
  unfold memberNames at h
  unfold ofMembers
  cases herr : Json.member? "err" members with
  | some code =>
    simp only [herr, List.forall_mem_cons] at h ⊢
    rw [h.1, h.2.1]
  | none =>
    cases hname : (Json.member? "a" members).bind Json.text? with
    | none =>
      simp only [herr, hname, List.forall_mem_cons] at h ⊢
      rw [h.1, h.2.1, hname]
    | some name =>
      simp only [herr, hname, List.forall_mem_cons] at h ⊢
      simp only [h.1, h.2.1, hname, Command.read_congr h.2.2]

theorem codeOf?_eq_some_iff {value : Json} {i : Int} :
    codeOf? value = some i ↔ value = .integer i ∧ -0x80000000 ≤ i ∧ i < 0x80000000 := by
  cases value with
  | integer j =>
    simp only [codeOf?, Json.integer?, Option.bind_some, Option.ite_none_right_eq_some,
      Option.some.injEq, Json.integer.injEq]
    constructor
    · rintro ⟨hj, rfl⟩
      exact ⟨rfl, hj⟩
    · rintro ⟨rfl, hj⟩
      exact ⟨hj, rfl⟩
  | _ => simp [codeOf?, Json.integer?]

/-- Members are read as a frame if the grammar says so. -/
theorem ofMembers_eq_ok_iff {members : Members} {frame : InboundFrame} :
    ofMembers members = .ok frame ↔ Reads members frame := by
  rw [ofMembers]
  constructor
  · intro h
    split at h
    · next code herr =>
      split at h
      · next i hi =>
        obtain rfl := Except.ok.inj h
        obtain ⟨rfl, hrange⟩ := codeOf?_eq_some_iff.1 hi
        exact .error herr hrange rfl
      · simp at h
    · next herr =>
      split at h
      · next name hname =>
        obtain ⟨c, hc, rfl⟩ := Refusal.map_eq_ok.1 h
        obtain ⟨rfl, hdescribes⟩ := Command.read_eq_ok_iff.1 hc
        obtain ⟨value, hvalue, htext⟩ := Option.bind_eq_some_iff.1 hname
        obtain rfl := Fields.text?_eq_some_iff.1 htext
        exact .command herr hvalue hdescribes
      · simp at h
  · rintro (⟨hcode, hrange, rfl⟩ | ⟨herr, hname, hdescribes⟩)
    · simp [hcode, codeOf?_eq_some_iff.2 ⟨rfl, hrange⟩]
    · simp only [herr, hname, Option.bind_some, Json.text?]
      exact Refusal.map_eq_ok.2 ⟨_, Command.read_eq_ok_iff.2 ⟨rfl, hdescribes⟩, rfl⟩

theorem parse_of_object {input : List UInt8} {members : Members}
    (h : Json.read? input = some (.object members)) : parse input = ofMembers members := by
  simp [parse, h]

/-- Bytes are read as a frame if they are the text of an object that the grammar reads so. -/
theorem parse_eq_ok_iff {input : List UInt8} {frame : InboundFrame} :
    parse input = .ok frame ↔
      ∃ members, Json.read? input = some (.object members) ∧ Reads members frame := by
  constructor
  · intro h
    rw [parse] at h
    split at h
    · simp at h
    · next members hread => exact ⟨members, hread, ofMembers_eq_ok_iff.1 h⟩
    · simp at h
  · rintro ⟨members, hread, h⟩
    rw [parse_of_object hread]
    exact ofMembers_eq_ok_iff.2 h

/-- An error code that is no signed integer of 32 bits is refused, whatever else is there. -/
theorem parse_of_err {input : List UInt8} {members : Members} {code : Json}
    (hread : Json.read? input = some (.object members))
    (herr : Json.member? "err" members = some code)
    (hcode : ∀ i : Int, code = .integer i → ¬ (-0x80000000 ≤ i ∧ i < 0x80000000)) :
    parse input = .error (.wrongType "error" "err" .integer) := by
  have hnone : codeOf? code = none := by
    rw [Option.eq_none_iff_forall_ne_some]
    intro i hi
    obtain ⟨rfl, hrange⟩ := codeOf?_eq_some_iff.1 hi
    exact hcode i rfl hrange
  rw [parse_of_object hread, ofMembers]
  simp [herr, hnone]

end InboundFrame

/-! ### Which operation is reached -/

namespace Receiver

variable {σ : Type}

/-- An operation that notes which one it is, with what it was given and what it answers. -/
def noted (frame : InboundFrame) (operation : σ → σ × Bool) :
    List (InboundFrame × Bool) × σ → (List (InboundFrame × Bool) × σ) × Bool :=
  fun s => ((s.1 ++ [(frame, (operation s.2).2)], (operation s.2).1), (operation s.2).2)

/-- A receiver each of whose operations notes that it was called. -/
def noting (r : Receiver σ) : Receiver (List (InboundFrame × Bool) × σ) where
  onAv cid flags := noted (.command (.av cid flags)) (r.onAv cid flags)
  onAnswer answer := noted (.command (.answer answer)) (r.onAnswer answer)
  onKey id sender bytes := noted (.command (.key id sender bytes)) (r.onKey id sender bytes)
  onVthumbs tracks := noted (.command (.vthumbs tracks)) (r.onVthumbs tracks)
  onVthumbStart := noted (.command .vthumbStart) r.onVthumbStart
  onVthumbStop := noted (.command .vthumbStop) r.onVthumbStop
  onHires tracks := noted (.command (.hires tracks)) (r.onHires tracks)
  onHiresStart := noted (.command .hiresStart) r.onHiresStart
  onHiresStop := noted (.command .hiresStop) r.onHiresStop
  onSpeakReqs cids := noted (.command (.speakReqs cids)) (r.onSpeakReqs cids)
  onSpeakReqDel cid := noted (.command (.speakReqDel cid)) (r.onSpeakReqDel cid)
  onSpeakOn cid audio := noted (.command (.speakOn cid audio)) (r.onSpeakOn cid audio)
  onSpeakOff cid := noted (.command (.speakOff cid)) (r.onSpeakOff cid)
  onPeerJoin peer := noted (.command (.peerJoin peer)) (r.onPeerJoin peer)
  onPeerLeft cid := noted (.command (.peerLeft cid)) (r.onPeerLeft cid)
  onBye reason := noted (.command (.bye reason)) (r.onBye reason)
  onModAdd user := noted (.command (.modAdd user)) (r.onModAdd user)
  onModDel user := noted (.command (.modDel user)) (r.onModDel user)
  onError code text := noted (.error code text) (r.onError code text)

/-- Every frame reaches the operation that is its own, once. -/
theorem noting_deliver (r : Receiver σ) (frame : InboundFrame) :
    r.noting.deliver frame = noted frame (r.deliver frame) := by
  cases frame with
  | command c => cases c <;> rfl
  | error code text => rfl

/-- A frame is read from the text of an object if the grammar reads it from its members, and
then holds exactly what the grammar says; members that are not looked at change nothing; an
error code decides alone.  What is read is delivered to the one operation that is its own,
and what that operation does and answers is what is done and answered; from any other bytes
nothing is delivered. -/
theorem deliverBytes_by_grammar :
    (∀ input frame, InboundFrame.parse input = .ok frame ↔
      ∃ members, Json.read? input = some (.object members) ∧ Reads members frame) ∧
    (∀ input members code, Json.read? input = some (.object members) →
      Json.member? "err" members = some code →
      (∀ i : Int, code = .integer i → ¬ (-0x80000000 ≤ i ∧ i < 0x80000000)) →
      InboundFrame.parse input = .error (.wrongType "error" "err" .integer)) ∧
    (∀ input input' members members', Json.read? input = some (.object members) →
      Json.read? input' = some (.object members') →
      (∀ key ∈ InboundFrame.memberNames members,
        Json.member? key members' = Json.member? key members) →
      InboundFrame.parse input' = InboundFrame.parse input) ∧
    (∀ (r : Receiver σ) input log s,
      (∀ frame, InboundFrame.parse input = .ok frame → ∃ s' answer,
        r.deliverBytes input s = (s', answer) ∧
        r.noting.deliverBytes input (log, s) = ((log ++ [(frame, answer)], s'), answer)) ∧
      ((∀ frame, InboundFrame.parse input ≠ .ok frame) →
        r.deliverBytes input s = (s, false) ∧
        r.noting.deliverBytes input (log, s) = ((log, s), false))) := by
  refine ⟨fun _ _ => InboundFrame.parse_eq_ok_iff,
    fun _ _ _ hread herr hcode => InboundFrame.parse_of_err hread herr hcode, ?_, ?_⟩
  · intro input input' members members' hread hread' h
    rw [InboundFrame.parse_of_object hread, InboundFrame.parse_of_object hread',
      InboundFrame.ofMembers_congr h]
  · intro r input log s
    constructor
    · intro frame hframe
      refine ⟨_, _, rfl, ?_⟩
      simp only [deliverBytes, hframe, noting_deliver, noted]
    · intro hnone
      cases hparse : InboundFrame.parse input with
      | ok frame => exact absurd hparse (hnone frame)
      | error e => simp [deliverBytes, hparse]

end Receiver
end GroupCall
