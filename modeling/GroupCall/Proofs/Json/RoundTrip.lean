/-
# Values are read back

A value whose integers fit a word, whose objects list their members by ascending key and
whose nesting is bounded is read back from its text.  The grammar is followed first: each
value is read as some document, whatever ends it; then that document has the value.
-/
import GroupCall.Proofs.Json.Members
import GroupCall.Proofs.Json.Written

namespace GroupCall.Json

/-! ### Values that can be read back -/

/-- A value that can be read back with `room` levels of nesting. -/
inductive Printable : Nat → Json → Prop
  | null {room : Nat} : Printable room .null
  | bool {room : Nat} (b : Bool) : Printable room (.bool b)
  | integer {room : Nat} {i : Int} (hlow : -0x8000000000000000 ≤ i)
      (hhigh : i < 0x10000000000000000) : Printable room (.integer i)
  | text {room : Nat} (s : String) : Printable room (.text s)
  | array {room : Nat} {items : List Json} (hitems : ∀ item ∈ items, Printable room item) :
      Printable (room + 1) (.array items)
  | object {room : Nat} {members : List (String × Json)} (hascends : Ascends members)
      (hmembers : ∀ m ∈ members, Printable room m.2) : Printable (room + 1) (.object members)

theorem Printable.nat {room n : Nat} (h : n < 0x10000000000000000) : Printable room (.nat n) :=
  .integer (by omega) (by omega)

theorem Printable.ofMembers {room : Nat} {members : List (String × Json)}
    (h : ∀ m ∈ members, Printable room m.2) : Printable (room + 1) (Json.ofMembers members) :=
  .object (ascends_inOrder members) fun m hm => h m (mem_of_mem_inOrder hm)

/-- A value is read from its text, whatever ends it, as a document that has that value. -/
def ReadsBack (room : Nat) (j : Json) : Prop :=
  ∃ d, ofDocument? room d = some j ∧ ∀ fuel rest, 2 * (encode j.chars).length ≤ fuel →
    Ends rest → readValue fuel (encode j.chars ++ rest) = some (d, rest)

/-! ### One step of the reader -/

/-- The bytes that are passed over between the parts of a document. -/
abbrev spaces : List UInt8 := [0x20, 0x0a, 0x0d, 0x09]

theorem skipBlanks_cons {b : UInt8} (h : b ∉ spaces) (input : List UInt8) :
    skipBlanks (b :: input) = b :: input := by
  simp only [List.mem_cons, List.not_mem_nil, or_false, not_or] at h
  simp [skipBlanks, h]

section

variable {fuel : Nat} {b : UInt8} {input rest behind more : List UInt8}

/-- What is read behind an opening bracket. -/
def arrayBehind (fuel : Nat) : List UInt8 → Option (Document × List UInt8)
  | Octet.closeBracket :: behind => some (.array [], behind)
  | inside => (readItems fuel inside).map fun p => (.array p.1, p.2)

/-- What is read behind an opening brace. -/
def objectBehind (fuel : Nat) : List UInt8 → Option (Document × List UInt8)
  | Octet.closeBrace :: behind => some (.object [], behind)
  | inside => (readMembers fuel inside).map fun p => (.object p.1, p.2)

/-- What is read where a document begins. -/
def valueAt (fuel : Nat) : List UInt8 → Option (Document × List UInt8)
  | Octet.openBrace :: rest => objectBehind fuel (skipBlanks rest)
  | Octet.openBracket :: rest => arrayBehind fuel (skipBlanks rest)
  | Octet.quote :: rest => (readString rest).map fun p => (.text p.1, p.2)
  | Octet.letterN :: Octet.letterU :: Octet.letterL :: Octet.letterL :: behind =>
    some (.null, behind)
  | Octet.letterT :: Octet.letterR :: Octet.letterU :: Octet.letterE :: behind =>
    some (.bool true, behind)
  | Octet.letterF :: Octet.letterA :: Octet.letterL :: Octet.letterS :: Octet.letterE
      :: behind =>
    some (.bool false, behind)
  | other => (readNumber other).map fun p => (.number p.1, p.2)

theorem readValue_cons (h : b ∉ spaces) :
    readValue (fuel + 1) (b :: input) = valueAt fuel (b :: input) := by
  rw [readValue, skipBlanks_cons h]
  rfl

theorem readValue_text {pieces : List Piece} (h : readString input = some (pieces, behind)) :
    readValue (fuel + 1) (Octet.quote :: input) = some (.text pieces, behind) := by
  rw [readValue_cons (by decide)]
  show (readString input).map _ = _
  rw [h]
  rfl

theorem readValue_null :
    readValue (fuel + 1) (encode "null".toList ++ rest) = some (.null, rest) := by
  have hword : encode "null".toList =
      [Octet.letterN, Octet.letterU, Octet.letterL, Octet.letterL] := by decide
  rw [hword, List.cons_append, readValue_cons (by decide)]
  rfl

theorem readValue_bool (c : Bool) :
    readValue (fuel + 1) (encode (if c then "true" else "false").toList ++ rest) =
      some (.bool c, rest) := by
  have htrue : encode "true".toList =
      [Octet.letterT, Octet.letterR, Octet.letterU, Octet.letterE] := by decide
  have hfalse : encode "false".toList =
      [Octet.letterF, Octet.letterA, Octet.letterL, Octet.letterS, Octet.letterE] := by decide
  cases c with
  | true =>
    rw [if_pos rfl, htrue, List.cons_append, readValue_cons (by decide)]
    rfl
  | false =>
    rw [if_neg Bool.false_ne_true, hfalse, List.cons_append, readValue_cons (by decide)]
    rfl

/-- The bytes with which a document begins that is no number. -/
abbrev openings : List UInt8 :=
  [Octet.openBrace, Octet.openBracket, Octet.quote, Octet.letterN, Octet.letterT, Octet.letterF]

theorem readValue_number {n : Numeral} (hspace : b ∉ spaces) (hopen : b ∉ openings)
    (h : readNumber (b :: input) = some (n, behind)) :
    readValue (fuel + 1) (b :: input) = some (.number n, behind) := by
  simp only [List.mem_cons, List.not_mem_nil, or_false, not_or] at hopen
  obtain ⟨h1, h2, h3, h4, h5, h6⟩ := hopen
  rw [readValue_cons hspace, valueAt.eq_def]
  split
  · next heq => exact absurd (List.cons.inj heq).1 h1
  · next heq => exact absurd (List.cons.inj heq).1 h2
  · next heq => exact absurd (List.cons.inj heq).1 h3
  · next heq => exact absurd (List.cons.inj heq).1 h4
  · next heq => exact absurd (List.cons.inj heq).1 h5
  · next heq => exact absurd (List.cons.inj heq).1 h6
  · rw [h]
    rfl

theorem readValue_openBracket :
    readValue (fuel + 1) (Octet.openBracket :: input) = arrayBehind fuel (skipBlanks input) :=
  readValue_cons (by decide)

theorem readValue_openBrace :
    readValue (fuel + 1) (Octet.openBrace :: input) = objectBehind fuel (skipBlanks input) :=
  readValue_cons (by decide)

theorem readValue_emptyArray :
    readValue (fuel + 1) (Octet.openBracket :: Octet.closeBracket :: behind) =
      some (.array [], behind) := by
  rw [readValue_openBracket, skipBlanks_cons (by decide)]
  rfl

theorem readValue_array {items : List Document} (hspace : b ∉ spaces)
    (hclose : b ≠ Octet.closeBracket) (h : readItems fuel (b :: input) = some (items, behind)) :
    readValue (fuel + 1) (Octet.openBracket :: b :: input) = some (.array items, behind) := by
  rw [readValue_openBracket, skipBlanks_cons hspace, arrayBehind.eq_def]
  split
  · next heq => exact absurd (List.cons.inj heq).1 hclose
  · rw [h]
    rfl

theorem readValue_emptyObject :
    readValue (fuel + 1) (Octet.openBrace :: Octet.closeBrace :: behind) =
      some (.object [], behind) := by
  rw [readValue_openBrace, skipBlanks_cons (by decide)]
  rfl

theorem readValue_object {members : List (List Piece × Document)}
    (h : readMembers fuel (Octet.quote :: input) = some (members, behind)) :
    readValue (fuel + 1) (Octet.openBrace :: Octet.quote :: input) =
      some (.object members, behind) := by
  rw [readValue_openBrace, skipBlanks_cons (by decide)]
  show (readMembers fuel (Octet.quote :: input)).map _ = _
  rw [h]
  rfl

/-- What is read behind an item. -/
def itemsBehind (fuel : Nat) (item : Document) :
    List UInt8 → Option (List Document × List UInt8)
  | Octet.closeBracket :: behind => some ([item], behind)
  | Octet.comma :: more => (readItems fuel more).map fun p => (item :: p.1, p.2)
  | _ => none

theorem readItems_item {item : Document} (h : readValue fuel input = some (item, rest)) :
    readItems (fuel + 1) input = itemsBehind fuel item (skipBlanks rest) := by
  rw [readItems, h]
  rfl

theorem readItems_last {item : Document}
    (h : readValue fuel input = some (item, Octet.closeBracket :: behind)) :
    readItems (fuel + 1) input = some ([item], behind) := by
  rw [readItems_item h, skipBlanks_cons (by decide)]
  rfl

theorem readItems_next {item : Document} {items : List Document}
    (h : readValue fuel input = some (item, Octet.comma :: more))
    (hmore : readItems fuel more = some (items, behind)) :
    readItems (fuel + 1) input = some (item :: items, behind) := by
  rw [readItems_item h, skipBlanks_cons (by decide)]
  show (readItems fuel more).map _ = _
  rw [hmore]
  rfl

/-- What is read behind a member. -/
def membersBehind (fuel : Nat) (member : List Piece × Document) :
    List UInt8 → Option (List (List Piece × Document) × List UInt8)
  | Octet.closeBrace :: behind => some ([member], behind)
  | Octet.comma :: more => (readMembers fuel more).map fun p => (member :: p.1, p.2)
  | _ => none

theorem readMembers_member {key : List Piece} {item : Document}
    (hkey : readString input = some (key, Octet.colon :: rest))
    (h : readValue fuel rest = some (item, more)) :
    readMembers (fuel + 1) (Octet.quote :: input) =
      membersBehind fuel (key, item) (skipBlanks more) := by
  rw [readMembers, skipBlanks_cons (by decide)]
  split
  · next heq =>
    obtain ⟨-, rfl⟩ := List.cons.inj heq
    rw [hkey]
    simp only [skipBlanks_cons (show Octet.colon ∉ spaces by decide)]
    split
    · next heq =>
      obtain ⟨-, rfl⟩ := List.cons.inj heq
      rw [h]
      rfl
    · next hne => exact absurd rfl (hne rest)
  · next hne => exact absurd rfl (hne input)

theorem readMembers_last {key : List Piece} {item : Document}
    (hkey : readString input = some (key, Octet.colon :: rest))
    (h : readValue fuel rest = some (item, Octet.closeBrace :: behind)) :
    readMembers (fuel + 1) (Octet.quote :: input) = some ([(key, item)], behind) := by
  rw [readMembers_member hkey h, skipBlanks_cons (by decide)]
  rfl

theorem readMembers_next {key : List Piece} {item : Document}
    {members : List (List Piece × Document)}
    (hkey : readString input = some (key, Octet.colon :: rest))
    (h : readValue fuel rest = some (item, Octet.comma :: more))
    (hmore : readMembers fuel more = some (members, behind)) :
    readMembers (fuel + 1) (Octet.quote :: input) = some ((key, item) :: members, behind) := by
  rw [readMembers_member hkey h, skipBlanks_cons (by decide)]
  show (readMembers fuel more).map _ = _
  rw [hmore]
  rfl

end

/-! ### Texts and values, part by part -/

section

variable {room : Nat} {d : Document} {ds : List Document} {ms : List (List Piece × Document)}
  {pieces : List Piece} {name : String} {value : Json} {values : List Json}
  {members : List (String × Json)}

theorem chars_text (s : String) : chars (.text s) = stringChars s := rfl

theorem chars_integer (i : Int) : chars (.integer i) = numeralChars (Numeral.ofInt i) := rfl

theorem chars_array (items : List Json) :
    chars (.array items) = '[' :: itemChars items ++ [']'] := rfl

theorem chars_object (members : List (String × Json)) :
    chars (.object members) = '\x7b' :: memberChars members ++ ['\x7d'] := rfl

theorem itemChars_singleton (item : Json) : itemChars [item] = item.chars := rfl

theorem itemChars_cons (item next : Json) (items : List Json) :
    itemChars (item :: next :: items) = item.chars ++ ',' :: itemChars (next :: items) := rfl

theorem memberChars_singleton (key : String) (item : Json) :
    memberChars [(key, item)] = stringChars key ++ ':' :: item.chars := rfl

theorem memberChars_cons (key : String) (item : Json) (next : String × Json)
    (members : List (String × Json)) :
    memberChars ((key, item) :: next :: members) =
      stringChars key ++ ':' :: item.chars ++ ',' :: memberChars (next :: members) := rfl

theorem ofDocument?_text {s : String} (h : pieceText pieces = some s) :
    ofDocument? room (.text pieces) = some (.text s) := by
  show (pieceText pieces).map Json.text = _
  rw [h]
  rfl

theorem ofDocument?_number {n : Numeral} {i : Int} (h : n.integer? = some i) :
    ofDocument? room (.number n) = some (.integer i) := by
  rw [ofDocument?, h]

theorem ofDocument?_array (h : itemsOfDocuments? room ds = some values) :
    ofDocument? (room + 1) (.array ds) = some (.array values) := by
  show (itemsOfDocuments? room ds).map Json.array = _
  rw [h]
  rfl

theorem ofDocument?_object (h : membersOfDocuments? room ms = some members) :
    ofDocument? (room + 1) (.object ms) = some (Json.ofMembers members) := by
  show (membersOfDocuments? room ms).map Json.ofMembers = _
  rw [h]
  rfl

theorem itemsOfDocuments?_cons (h : ofDocument? room d = some value)
    (hmore : itemsOfDocuments? room ds = some values) :
    itemsOfDocuments? room (d :: ds) = some (value :: values) := by
  show ((ofDocument? room d).bind fun value =>
    (itemsOfDocuments? room ds).bind fun values => some (value :: values)) = _
  rw [h, hmore]
  rfl

theorem membersOfDocuments?_cons (hkey : pieceText pieces = some name)
    (h : ofDocument? room d = some value) (hmore : membersOfDocuments? room ms = some members) :
    membersOfDocuments? room ((pieces, d) :: ms) = some ((name, value) :: members) := by
  show ((pieceText pieces).bind fun name => (ofDocument? room d).bind fun value =>
    (membersOfDocuments? room ms).bind fun values => some ((name, value) :: values)) = _
  rw [hkey, h, hmore]
  rfl

end

/-! ### Whole values -/

theorem encode_stringChars (s : String) :
    encode (stringChars s) =
      Octet.quote :: encode (s.toList.flatMap escapeChar) ++ [Octet.quote] := by
  have hquote : String.utf8EncodeChar '"' = [Octet.quote] := by decide
  simp [stringChars, encode_cons, hquote]

theorem readsBack_text {room : Nat} (s : String) : ReadsBack room (.text s) := by
  refine ⟨.text (textPieces s), ofDocument?_text (pieceText_textPieces s), ?_⟩
  intro fuel rest hfuel hrest
  rw [chars_text, encode_stringChars] at hfuel ⊢
  obtain ⟨fuel, rfl⟩ := Nat.exists_eq_add_of_lt (show 0 < fuel by simp at hfuel; omega)
  rw [Nat.zero_add, List.cons_append, List.cons_append, List.append_assoc]
  exact readValue_text (readString_written s rest)

theorem numeralChars_head (i : Int) :
    ∃ b more, encode (numeralChars (Numeral.ofInt i)) = b :: more ∧ b ∉ spaces ∧
      b ∉ openings ∧ b ≠ Octet.closeBracket := by
  have hdigit : ∀ d ∈ List.range 10, digitByte d ∉ spaces ∧ digitByte d ∉ openings ∧
      digitByte d ≠ Octet.closeBracket := by decide
  rw [encode_numeralChars]
  split
  · exact ⟨Octet.minus, _, rfl, by decide, by decide, by decide⟩
  · cases hds : Numeral.digitsOf i.natAbs with
    | nil =>
      rw [digitsOf_eq] at hds
      split at hds <;> simp at hds
    | cons d ds =>
      have hd : d < 10 := lt_of_mem_digitsOf (n := i.natAbs) (by simp [hds])
      exact ⟨_, _, rfl, hdigit d (List.mem_range.2 hd)⟩

theorem readsBack_integer {room : Nat} {i : Int} (hlow : -0x8000000000000000 ≤ i)
    (hhigh : i < 0x10000000000000000) : ReadsBack room (.integer i) := by
  refine ⟨.number (Numeral.ofInt i), ofDocument?_number (integer?_ofInt hlow hhigh), ?_⟩
  intro fuel rest hfuel hrest
  have hread := readNumber_written i hrest
  obtain ⟨b, more, hb, hspace, hopen, -⟩ := numeralChars_head i
  rw [chars_integer, hb] at hfuel ⊢
  rw [hb] at hread
  obtain ⟨fuel, rfl⟩ := Nat.exists_eq_add_of_lt (show 0 < fuel by simp at hfuel; omega)
  exact readValue_number hspace hopen hread

theorem stringChars_head (s : String) :
    ∃ more, encode (stringChars s) = Octet.quote :: more :=
  ⟨_, encode_stringChars s⟩

/-- The text of a value begins with a byte that is neither passed over nor ends an array. -/
theorem chars_head {room : Nat} {j : Json} (h : Printable room j) :
    ∃ b more, encode j.chars = b :: more ∧ b ∉ spaces ∧ b ≠ Octet.closeBracket := by
  cases h with
  | null => exact ⟨Octet.letterN, _, rfl, by decide, by decide⟩
  | bool b =>
    cases b with
    | true => exact ⟨Octet.letterT, _, rfl, by decide, by decide⟩
    | false => exact ⟨Octet.letterF, _, rfl, by decide, by decide⟩
  | integer hlow hhigh =>
    obtain ⟨b, more, hb, hspace, -, hclose⟩ := numeralChars_head _
    exact ⟨b, more, hb, hspace, hclose⟩
  | text s =>
    obtain ⟨more, hs⟩ := stringChars_head s
    exact ⟨Octet.quote, more, hs, by decide, by decide⟩
  | array hitems => exact ⟨Octet.openBracket, _, rfl, by decide, by decide⟩
  | object hascends hmembers => exact ⟨Octet.openBrace, _, rfl, by decide, by decide⟩

theorem itemChars_head {room : Nat} {items : List Json} (hne : items ≠ [])
    (h : ∀ item ∈ items, Printable room item) :
    ∃ b more, encode (itemChars items) = b :: more ∧ b ∉ spaces ∧ b ≠ Octet.closeBracket := by
  cases items with
  | nil => exact absurd rfl hne
  | cons item items =>
    obtain ⟨b, more, hb, hspace, hclose⟩ := chars_head (h item (by simp))
    cases items with
    | nil => exact ⟨b, more, hb, hspace, hclose⟩
    | cons next items =>
      refine ⟨b, more ++ encode (',' :: itemChars (next :: items)), ?_, hspace, hclose⟩
      rw [itemChars_cons, encode_append, hb]
      rfl

theorem memberChars_head {members : List (String × Json)} (hne : members ≠ []) :
    ∃ more, encode (memberChars members) = Octet.quote :: more := by
  cases members with
  | nil => exact absurd rfl hne
  | cons m members =>
    obtain ⟨key, item⟩ := m
    cases members with
    | nil =>
      rw [memberChars_singleton, encode_append, encode_stringChars]
      exact ⟨_, rfl⟩
    | cons next members =>
      rw [memberChars_cons, encode_append, encode_append, encode_stringChars]
      exact ⟨_, rfl⟩

theorem readsBack_items {room : Nat} {items : List Json} (hne : items ≠ [])
    (h : ∀ item ∈ items, ReadsBack room item) :
    ∃ ds, itemsOfDocuments? room ds = some items ∧
      ∀ fuel rest, 2 * (encode (itemChars items)).length + 1 ≤ fuel →
        readItems fuel (encode (itemChars items) ++ Octet.closeBracket :: rest) =
          some (ds, rest) := by
  have hcomma : String.utf8EncodeChar ',' = [Octet.comma] := by decide
  induction items with
  | nil => exact absurd rfl hne
  | cons item items ih =>
    obtain ⟨d, hd, hread⟩ := h item (by simp)
    cases items with
    | nil =>
      refine ⟨[d], itemsOfDocuments?_cons hd rfl, ?_⟩
      intro fuel rest hfuel
      obtain ⟨fuel, rfl⟩ := Nat.exists_eq_add_of_lt (show 0 < fuel by omega)
      rw [itemChars_singleton] at hfuel ⊢
      exact readItems_last (hread _ _ (by omega) (.inr ⟨_, _, rfl, by simp⟩))
    | cons next items =>
      obtain ⟨ds, hds, hmore⟩ := ih (by simp) fun item hitem => h item (by simp [hitem])
      refine ⟨d :: ds, itemsOfDocuments?_cons hd hds, ?_⟩
      intro fuel rest hfuel
      obtain ⟨fuel, rfl⟩ := Nat.exists_eq_add_of_lt (show 0 < fuel by omega)
      rw [itemChars_cons, encode_append, encode_cons, hcomma] at hfuel ⊢
      simp only [List.length_append, List.length_cons, List.length_nil] at hfuel
      rw [List.append_assoc]
      exact readItems_next (hread _ _ (by omega) (.inr ⟨_, _, rfl, by simp⟩))
        (hmore _ _ (by omega))

theorem readsBack_members {room : Nat} {members : List (String × Json)} (hne : members ≠ [])
    (h : ∀ m ∈ members, ReadsBack room m.2) :
    ∃ ds, membersOfDocuments? room ds = some members ∧
      ∀ fuel rest, 2 * (encode (memberChars members)).length + 1 ≤ fuel →
        readMembers fuel (encode (memberChars members) ++ Octet.closeBrace :: rest) =
          some (ds, rest) := by
  have hcomma : String.utf8EncodeChar ',' = [Octet.comma] := by decide
  have hcolon : String.utf8EncodeChar ':' = [Octet.colon] := by decide
  induction members with
  | nil => exact absurd rfl hne
  | cons m members ih =>
    obtain ⟨key, item⟩ := m
    have hitem : ReadsBack room item := h (key, item) (by simp)
    obtain ⟨d, hd, hread⟩ := hitem
    have hkey := pieceText_textPieces key
    cases members with
    | nil =>
      refine ⟨[(textPieces key, d)], membersOfDocuments?_cons hkey hd rfl, ?_⟩
      intro fuel rest hfuel
      obtain ⟨fuel, rfl⟩ := Nat.exists_eq_add_of_lt (show 0 < fuel by omega)
      rw [memberChars_singleton, encode_append, encode_cons, hcolon, encode_stringChars] at hfuel ⊢
      simp only [List.length_append, List.length_cons, List.length_nil] at hfuel
      simp only [List.append_assoc, List.cons_append, List.nil_append]
      exact readMembers_last (readString_written key _)
        (hread _ _ (by omega) (.inr ⟨_, _, rfl, by simp⟩))
    | cons next members =>
      obtain ⟨ds, hds, hmore⟩ := ih (by simp) fun m hm => h m (by simp [hm])
      refine ⟨(textPieces key, d) :: ds, membersOfDocuments?_cons hkey hd hds, ?_⟩
      intro fuel rest hfuel
      obtain ⟨fuel, rfl⟩ := Nat.exists_eq_add_of_lt (show 0 < fuel by omega)
      rw [memberChars_cons] at hfuel ⊢
      simp only [encode_append, encode_cons, hcolon, hcomma, encode_stringChars,
        List.length_append, List.length_cons, List.append_assoc, List.cons_append,
        List.nil_append] at hfuel ⊢
      exact readMembers_next (readString_written key _)
        (hread _ _ (by omega) (.inr ⟨_, _, rfl, by simp⟩)) (hmore _ _ (by omega))

theorem readsBack_array {room : Nat} {items : List Json}
    (hitems : ∀ item ∈ items, Printable room item)
    (h : ∀ item ∈ items, ReadsBack room item) : ReadsBack (room + 1) (.array items) := by
  have hopen : String.utf8EncodeChar '[' = [Octet.openBracket] := by decide
  have hclose : encode [']'] = [Octet.closeBracket] := by decide
  rcases eq_or_ne items [] with rfl | hne
  · refine ⟨.array [], rfl, fun fuel rest hfuel hrest => ?_⟩
    rw [chars_array, encode_append, encode_cons, hopen, hclose] at hfuel ⊢
    obtain ⟨fuel, rfl⟩ := Nat.exists_eq_add_of_lt (show 0 < fuel by simp at hfuel; omega)
    exact readValue_emptyArray
  · obtain ⟨ds, hds, hread⟩ := readsBack_items hne h
    refine ⟨.array ds, ofDocument?_array hds, fun fuel rest hfuel hrest => ?_⟩
    obtain ⟨b, more, hb, hspace, hne⟩ := itemChars_head hne hitems
    rw [chars_array, encode_append, encode_cons, hopen, hclose] at hfuel ⊢
    simp only [List.length_append, List.length_cons, List.length_nil] at hfuel
    obtain ⟨fuel, rfl⟩ := Nat.exists_eq_add_of_lt (show 0 < fuel by omega)
    have hitems := hread (0 + fuel) rest (by omega)
    simp only [hb, List.append_assoc, List.cons_append, List.nil_append] at hitems ⊢
    exact readValue_array hspace hne hitems

theorem readsBack_object {room : Nat} {members : List (String × Json)} (hascends : Ascends members)
    (h : ∀ m ∈ members, ReadsBack room m.2) : ReadsBack (room + 1) (.object members) := by
  have hopen : String.utf8EncodeChar '\x7b' = [Octet.openBrace] := by decide
  have hclose : encode ['\x7d'] = [Octet.closeBrace] := by decide
  rcases eq_or_ne members [] with rfl | hne
  · refine ⟨.object [], rfl, fun fuel rest hfuel hrest => ?_⟩
    rw [chars_object, encode_append, encode_cons, hopen, hclose] at hfuel ⊢
    obtain ⟨fuel, rfl⟩ := Nat.exists_eq_add_of_lt (show 0 < fuel by simp at hfuel; omega)
    exact readValue_emptyObject
  · obtain ⟨ds, hds, hread⟩ := readsBack_members hne h
    have hvalue : ofDocument? (room + 1) (.object ds) = some (.object members) := by
      rw [ofDocument?_object hds, ofMembers_of_ascends hascends]
    refine ⟨.object ds, hvalue, fun fuel rest hfuel hrest => ?_⟩
    obtain ⟨more, hquote⟩ := memberChars_head hne
    rw [chars_object, encode_append, encode_cons, hopen, hclose] at hfuel ⊢
    simp only [List.length_append, List.length_cons, List.length_nil] at hfuel
    obtain ⟨fuel, rfl⟩ := Nat.exists_eq_add_of_lt (show 0 < fuel by omega)
    have hmembers := hread (0 + fuel) rest (by omega)
    simp only [hquote, List.append_assoc, List.cons_append, List.nil_append] at hmembers ⊢
    exact readValue_object hmembers

/-- What is printable is read back. -/
theorem Printable.readsBack {room : Nat} {j : Json} (h : Printable room j) :
    ReadsBack room j := by
  have hpositive : ∀ {fuel n : Nat}, 2 * (n + 1) ≤ fuel → ∃ f, fuel = f + 1 := by
    intro fuel n h
    exact ⟨fuel - 1, by omega⟩
  induction h with
  | null =>
    refine ⟨.null, rfl, fun fuel rest hfuel hrest => ?_⟩
    obtain ⟨fuel, rfl⟩ := hpositive hfuel
    exact readValue_null
  | bool b =>
    refine ⟨.bool b, rfl, fun fuel rest hfuel hrest => ?_⟩
    cases b <;> obtain ⟨fuel, rfl⟩ := hpositive hfuel
    · exact readValue_bool false
    · exact readValue_bool true
  | integer hlow hhigh => exact readsBack_integer hlow hhigh
  | text s => exact readsBack_text s
  | array hitems ih => exact readsBack_array hitems ih
  | object hascends hmembers ih => exact readsBack_object hascends ih

/-- A value is read back from its bytes. -/
theorem read?_bytes {j : Json} (h : Printable maxDepth j) : read? j.bytes = some j := by
  obtain ⟨d, hd, hread⟩ := h.readsBack
  have hvalue := hread (2 * (encode j.chars).length + 2) [] (by omega) (.inl rfl)
  rw [List.append_nil] at hvalue
  rw [read?, Document.read?, bytes_eq_encode, hvalue]
  exact hd

end GroupCall.Json
