/-
# Compact descriptions on the wire

A compact description is written as an object and read part by part.  Every part that is
written is found under its name, one that is left out has its default, and so the reader
gives back the description that was written.
-/
import GroupCall.Proofs.Json.RoundTrip
import GroupCall.Sdp.Wire

namespace GroupCall

namespace Json

/-- A list is read back if each of its items is. -/
theorem mapM_map {α β : Type} {read : β → Option α} {write : α → β}
    (h : ∀ a, read (write a) = some a) (list : List α) :
    (list.map write).mapM read = some list := by
  induction list with
  | nil => rfl
  | cons a list ih =>
    rw [List.map_cons, List.mapM_cons, h, ih]
    rfl

/-! ### Parts of a record -/

theorem itemDocuments_eq_map (items : List Json) : itemDocuments items = items.map toDocument := by
  induction items with
  | nil => rfl
  | cons item items ih => rw [itemDocuments, ih, List.map_cons]

theorem named_memberDocuments (members : List (String × Json)) :
    (memberDocuments members).mapM (fun m => (pieceText m.1).map fun key => (key, m.2)) =
      some (members.map fun m => (m.1, m.2.toDocument)) := by
  induction members with
  | nil => rfl
  | cons m members ih =>
    obtain ⟨key, item⟩ := m
    rw [memberDocuments, List.mapM_cons, pieceText_piecesOf, ih]
    rfl

/-- If no key is repeated, a name selects the one member that it is the key of. -/
theorem filter_members {members : List (String × Json)} (h : (members.map Prod.fst).Nodup)
    (name : String) :
    (members.map fun m => (m.1, m.2.toDocument)).filter (·.1 = name) =
      ((member? name members).map fun j => (name, j.toDocument)).toList := by
  induction members with
  | nil => rfl
  | cons m members ih =>
    obtain ⟨key, item⟩ := m
    obtain ⟨hkey, hmembers⟩ := List.nodup_cons.1 h
    rw [List.map_cons, List.filter_cons, ih hmembers, member?_cons]
    by_cases hname : key = name
    · subst hname
      rw [member?_eq_none hkey]
      simp
    · simp [hname, Ne.symm hname]

theorem partsOfMembers?_memberDocuments {members : List (String × Json)}
    (h : (members.map Prod.fst).Nodup) (names : List String) :
    partsOfMembers? names (memberDocuments members) =
      some ((names.map fun name => member? name members).map (Option.map toDocument)) := by
  rw [partsOfMembers?, named_memberDocuments]
  induction names with
  | nil => rfl
  | cons name names ih =>
    simp only [Option.bind_eq_bind, Option.bind_some] at ih ⊢
    rw [List.mapM_cons, ih, filter_members h, List.map_cons, List.map_cons]
    cases member? name members <;> rfl

/-- The parts of a record are what was written under their names. -/
theorem parts?_ofMembers {members : List (String × Json)} (h : (members.map Prod.fst).Nodup)
    (names : List String) :
    parts? names (ofMembers members).toDocument =
      some ((names.map fun name => member? name members).map (Option.map toDocument)) := by
  rw [ofMembers_eq, toDocument, parts?,
    partsOfMembers?_memberDocuments (ascends_inOrder members).nodup]
  simp only [member?_inOrder h]

/-! ### Values as parts -/

@[simp] theorem textOf?_toDocument (s : String) : textOf? (toDocument (.text s)) = some s :=
  pieceText_piecesOf s

@[simp] theorem wordOf?_toDocument (s : String) : wordOf? (toDocument (.text s)) = some s :=
  pieceText_piecesOf s

theorem naturalOf?_toDocument {bound n : Nat} (h : n ≤ bound) (hbound : bound < UInt64.size) :
    naturalOf? bound (toDocument (.nat n)) = some n := by
  have hsize : n < 0x10000000000000000 := Nat.lt_of_le_of_lt h hbound
  have hread : (Numeral.ofInt n).integer? = some (n : Int) :=
    integer?_ofInt (by omega) (by omega)
  simp [nat, toDocument, naturalOf?, hread, h]

/-- A name that may be missing is read as it was written. -/
theorem defaulted?_optionalText (o : Option String) :
    defaulted? optionalTextOf? none ((o.map Json.text).map toDocument) = some o := by
  cases o with
  | none => rfl
  | some s => simp [defaulted?, optionalTextOf?, toDocument, textOf?, pieceText_piecesOf]

variable {α : Type} {read : Document → Option α} {write : α → Json}

theorem listOf?_toDocument (h : ∀ a, read (write a).toDocument = some a) (list : List α) :
    listOf? read (toDocument (.array (list.map write))) = some list := by
  rw [toDocument, itemDocuments_eq_map, listOf?, List.map_map]
  exact mapM_map h list

/-- A list that is left out if it is empty is read as it was written. -/
theorem defaulted?_list (h : ∀ a, read (write a).toDocument = some a) (list : List α) :
    defaulted? (listOf? read) []
      ((if list.isEmpty then none else some (Json.array (list.map write))).map toDocument) =
      some list := by
  cases list with
  | nil => rfl
  | cons a list => exact listOf?_toDocument h (a :: list)

end Json

open Json

/-! ### Tracks -/

theorem TrackKind.ofLetter?_letter (kind : TrackKind) : ofLetter? kind.letter = some kind := by
  cases kind <;> decide

namespace SdpTrack

theorem nodup_members (track : SdpTrack) : (track.members.map Prod.fst).Nodup := by
  obtain ⟨kind, mid, direction, streamId, trackId, ssrcs, groups⟩ := track
  cases streamId <;> cases trackId <;> cases ssrcs <;> cases groups <;> simp [members]

/-- The parts of a track, in the order of their names. -/
theorem parts_members (track : SdpTrack) :
    (partNames.map fun name => member? name track.members) =
      [some (.text track.kind.letter), some (.nat track.mid.toNat),
        some (.text track.direction.name), track.streamId.map .text, track.trackId.map .text,
        if track.ssrcs.isEmpty then none
        else some (.array (track.ssrcs.map fun s => .array [.nat s.1.toNat, .text s.2])),
        if track.ssrcGroups.isEmpty then none
        else some (.array (track.ssrcGroups.map .text))] := by
  obtain ⟨kind, mid, direction, streamId, trackId, ssrcs, groups⟩ := track
  cases streamId <;> cases trackId <;> cases ssrcs <;> cases groups <;>
    simp [partNames, members, member?]

theorem readSsrc?_toDocument (s : UInt64 × String) :
    readSsrc? (toDocument (.array [.nat s.1.toNat, .text s.2])) = some s := by
  obtain ⟨id, cname⟩ := s
  have hid := naturalOf?_toDocument (Nat.le_sub_one_of_lt id.toNat_lt_size) (by decide)
  have hname := textOf?_toDocument cname
  show ((naturalOf? (UInt64.size - 1) (toDocument (.nat id.toNat))).bind fun n =>
    (textOf? (toDocument (.text cname))).bind fun name => some (UInt64.ofNat n, name)) = _
  rw [hid, hname, Option.bind_some, Option.bind_some, UInt64.ofNat_toNat]

/-- A track is read back from what is written. -/
theorem ofDocument?_toJson (track : SdpTrack) :
    ofDocument? track.toJson.toDocument = some track := by
  have hmid := naturalOf?_toDocument (Nat.le_sub_one_of_lt track.mid.toNat_lt_size) (by decide)
  have hssrcs := defaulted?_list readSsrc?_toDocument track.ssrcs
  have hgroups := defaulted?_list textOf?_toDocument track.ssrcGroups
  have hparts := parts?_ofMembers track.nodup_members partNames
  rw [parts_members] at hparts
  rw [ofDocument?, toJson, hparts]
  simp only [List.map_cons, List.map_nil, Option.map_some, Option.bind_eq_bind, Option.bind_some,
    required?, defaulted?_optionalText, hssrcs, hgroups, wordOf?_toDocument,
    TrackKind.ofLetter?_letter, hmid]
  simp [defaulted?, Direction.ofName?_name]

end SdpTrack

/-! ### Descriptions -/

namespace Sdp

theorem nodup_members (s : Sdp) : (s.members.map Prod.fst).Nodup := by
  obtain ⟨common, audio, video, tracks⟩ := s
  cases audio <;> cases video <;> simp [members]

/-- The parts of a description, in the order of their names. -/
theorem parts_members (s : Sdp) :
    (partNames.map fun name => member? name s.members) =
      [some (.text s.common), s.audioTemplate.map .text, s.videoTemplate.map .text,
        some (.array (s.tracks.map SdpTrack.toJson))] := by
  obtain ⟨common, audio, video, tracks⟩ := s
  cases audio <;> cases video <;> simp [partNames, members, member?]

/-- A description is read back from what is written. -/
theorem ofJson?_toJson (s : Sdp) : ofJson? s.toJson = some s := by
  have htracks := listOf?_toDocument SdpTrack.ofDocument?_toJson s.tracks
  have hparts := parts?_ofMembers s.nodup_members partNames
  rw [parts_members] at hparts
  rw [ofJson?, ofDocument?, toJson, hparts]
  simp only [List.map_cons, List.map_nil, Option.map_some, Option.bind_eq_bind, Option.bind_some,
    required?, defaulted?_optionalText, textOf?_toDocument]
  simp [defaulted?, htracks]

end Sdp

/-! ### Their text -/

theorem printable_optionalText {room : Nat} {key : String} {o : Option String}
    {m : String × Json} (h : m ∈ match o with | some s => [(key, Json.text s)] | none => []) :
    Printable room m.2 := by
  cases o with
  | none => exact absurd h List.not_mem_nil
  | some s =>
    obtain rfl := List.mem_singleton.1 h
    exact .text s

theorem printable_list {α : Type} {room : Nat} {key : String} {list : List α} {write : α → Json}
    {m : String × Json} (hwrite : ∀ a, Printable room (write a))
    (h : m ∈ if list.isEmpty then [] else [(key, Json.array (list.map write))]) :
    Printable (room + 1) m.2 := by
  split at h
  · exact absurd h List.not_mem_nil
  · obtain rfl := List.mem_singleton.1 h
    refine .array fun item hitem => ?_
    obtain ⟨a, -, rfl⟩ := List.mem_map.1 hitem
    exact hwrite a

theorem SdpTrack.printable (track : SdpTrack) {room : Nat} :
    Printable (room + 3) track.toJson := by
  refine Printable.ofMembers fun m hm => ?_
  simp only [members, List.mem_append, List.mem_cons, List.not_mem_nil, or_false] at hm
  rcases hm with ((((rfl | rfl | rfl) | hm) | hm) | hm) | hm
  · exact .text _
  · exact .nat (Nat.lt_trans track.mid.toNat_lt (by decide))
  · exact .text _
  · exact printable_optionalText hm
  · exact printable_optionalText hm
  · refine printable_list (fun s => .array fun item hitem => ?_) hm
    simp only [List.mem_cons, List.not_mem_nil, or_false] at hitem
    rcases hitem with rfl | rfl
    · exact .nat s.1.toNat_lt
    · exact .text _
  · exact printable_list (fun s => .text s) hm

theorem Sdp.printable (s : Sdp) {room : Nat} : Json.Printable (room + 5) s.toJson := by
  refine Printable.ofMembers fun m hm => ?_
  simp only [members, List.mem_append, List.mem_cons, List.not_mem_nil, or_false] at hm
  rcases hm with ((rfl | hm) | hm) | rfl
  · exact .text _
  · exact printable_optionalText hm
  · exact printable_optionalText hm
  · refine .array fun item hitem => ?_
    obtain ⟨track, -, rfl⟩ := List.mem_map.1 hitem
    exact track.printable

end GroupCall
