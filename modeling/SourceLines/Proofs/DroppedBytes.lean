/-
# What is left of bytes

Reading goes through the bytes from the front: where an encoding stands its character is
read, and elsewhere one byte is dropped. So the characters that are read are encoded in
the bytes one after another, and what goes missing are bytes of no character. A byte
below 0x80 never goes missing and is never made up, whatever stands around it: it is the
encoding of a character by itself, and it is part of no other.

Nothing takes the place of bytes that are dropped. The two characters of a comment mark
may therefore come together although such bytes stand between them.
-/

import SourceLines.Proofs.CutBytes
import SourceLines.Proofs.LostLines

namespace SourceLines

namespace Utf8

/-- The byte is part of no encoding. -/
def IsUnused (b : UInt8) : Prop :=
  b = 0xC0 ∨ b = 0xC1 ∨ 0xF5 ≤ b

/-- A text in some bytes, or a number of bytes that are part of no encoding. -/
inductive Part
  | text (content : Text)
  | unused (content : Bytes) (unused : ∀ b ∈ content, IsUnused b)

namespace Part

/-- The part as it stands in the bytes. -/
def bytes : Part → Bytes
  | text content => encodeUtf8 content
  | unused content _ => content

/-- What is to be read of the part. -/
def characters : Part → Text
  | text content => content
  | unused _ _ => []

end Part

variable {bytes rest : Bytes} {b : UInt8} {c first second : Char} {before behind : Text}

/-! ## One character or one byte at a time -/

/-- A byte at which no encoding starts is dropped. -/
theorem characters_cons_of_dropped (dropped : ∀ c, ¬ String.utf8EncodeChar c <+: b :: rest) :
    characters (b :: rest) = characters rest := by
  rw [characters, decodeFrom, leadingChar?_eq_none_iff.mpr dropped]
  rfl

/-- What holds of no bytes, of a dropped byte in front of bytes of which it holds, and of
an encoding in front of such bytes, holds of all bytes. -/
theorem bytes_induction {motive : Bytes → Prop} (nil : motive [])
    (dropped : ∀ b rest, (∀ c, ¬ String.utf8EncodeChar c <+: b :: rest) → motive rest →
      motive (b :: rest))
    (read : ∀ c rest, motive rest → motive (String.utf8EncodeChar c ++ rest))
    (bytes : Bytes) : motive bytes := by
  match bytes with
  | [] => exact nil
  | b :: rest =>
      cases found : leadingChar? (b :: rest) with
      | none =>
          exact dropped b rest (leadingChar?_eq_none_iff.mp found)
            (bytes_induction nil dropped read rest)
      | some c =>
          obtain ⟨more, same⟩ := leadingChar?_eq_some_iff.mp found
          have shorter : more.length < (b :: rest).length := by
            rw [← same, List.length_append]
            have notEmpty := List.length_pos_iff.mpr (encode_ne_nil c)
            omega
          rw [← same]
          exact read c more (bytes_induction nil dropped read more)
termination_by bytes.length
decreasing_by
  · exact Nat.lt_succ_self _
  · exact shorter

/-! ## Cut bytes -/

/-- From bytes that are cut off somewhere a part of the text in front is read, whatever the
bytes are. -/
theorem characters_isPrefix_of_isPrefix {front : Bytes} (isPrefix : front <+: bytes) :
    characters front <+: characters bytes := by
  induction bytes using bytes_induction generalizing front with
  | nil =>
      obtain rfl := List.prefix_nil.mp isPrefix
      exact List.prefix_rfl
  | dropped b rest dropped ih =>
      rcases List.prefix_cons_iff.mp isPrefix with rfl | ⟨front, rfl, within⟩
      · exact List.nil_prefix
      · have droppedAgain : ∀ c, ¬ String.utf8EncodeChar c <+: b :: front := fun c starts =>
          dropped c (starts.trans isPrefix)
        rw [characters_cons_of_dropped dropped, characters_cons_of_dropped droppedAgain]
        exact ih within
  | read c rest ih =>
      by_cases whole : String.utf8EncodeChar c <+: front
      · obtain ⟨more, rfl⟩ := whole
        rw [characters_encode_append, characters_encode_append, List.cons_prefix_cons]
        exact ⟨rfl, ih ((List.prefix_append_right_inj _).mp isPrefix)⟩
      · rw [characters_of_cut isPrefix whole]
        exact List.nil_prefix

/-- The same holds if a byte order mark stands in front, even if the mark is cut itself. -/
theorem decodeLossy_isPrefix_of_isPrefix {front : Bytes} (isPrefix : front <+: bytes) :
    decodeLossy front <+: decodeLossy bytes := by
  by_cases marked : String.utf8EncodeChar '\uFEFF' <+: front
  · obtain ⟨more, rfl⟩ := marked
    obtain ⟨behind, rfl⟩ := isPrefix
    rw [List.append_assoc, decodeLossy_encode_append, decodeLossy_encode_append]
    exact characters_isPrefix_of_isPrefix (List.prefix_append more behind)
  · rw [decodeLossy_of_not_isPrefix marked]
    by_cases markedWhole : String.utf8EncodeChar '\uFEFF' <+: bytes
    · obtain ⟨rest, rfl⟩ := markedWhole
      rw [characters_of_cut isPrefix marked]
      exact List.nil_prefix
    · rw [decodeLossy_of_not_isPrefix markedWhole]
      exact characters_isPrefix_of_isPrefix isPrefix

/-! ## Texts and unused bytes -/

theorem not_mem_encode_of_isUnused (unused : IsUnused b) (c : Char) :
    b ∉ String.utf8EncodeChar c := by
  intro member
  have code : b.toNat = 0xC0 ∨ b.toNat = 0xC1 ∨ 0xF5 ≤ b.toNat := by
    rcases unused with rfl | rfl | high
    · exact Or.inl rfl
    · exact Or.inr (Or.inl rfl)
    · exact Or.inr (Or.inr (UInt8.le_iff_toNat_le.mp high))
  rcases byte_of_encode member with ⟨low, -⟩ | middle | first <;> omega

/-- Unused bytes are dropped. -/
theorem characters_unused_append {content : Bytes} (unused : ∀ b ∈ content, IsUnused b)
    (bytes : Bytes) : characters (content ++ bytes) = characters bytes := by
  induction content with
  | nil => rfl
  | cons b content ih =>
      obtain ⟨here, others⟩ := List.forall_mem_cons.mp unused
      rw [List.cons_append, characters_cons_of_dropped, ih others]
      intro c starts
      obtain ⟨x, more, encoding⟩ := List.exists_cons_of_ne_nil (encode_ne_nil c)
      rw [encoding] at starts
      obtain ⟨rfl, -⟩ := List.cons_prefix_cons.mp starts
      exact not_mem_encode_of_isUnused here c (encoding ▸ List.mem_cons_self)

/-- Of parts the texts are read. -/
theorem characters_flatMap_bytes (parts : List Part) :
    characters (parts.flatMap Part.bytes) = parts.flatMap Part.characters := by
  induction parts with
  | nil => rfl
  | cons part parts ih =>
      rw [List.flatMap_cons, List.flatMap_cons, ← ih]
      cases part with
      | text content => exact characters_encodeUtf8_append content _
      | unused content unused => exact characters_unused_append unused _

/-- What is read is encoded in the bytes, in order. -/
theorem encodeUtf8_characters_sublist (bytes : Bytes) :
    (encodeUtf8 (characters bytes)).Sublist bytes := by
  induction bytes using bytes_induction with
  | nil => exact List.Sublist.slnil
  | dropped b rest dropped ih =>
      rw [characters_cons_of_dropped dropped]
      exact ih.cons b
  | read c rest ih =>
      rw [characters_encode_append, encodeUtf8, List.flatMap_cons]
      exact (List.Sublist.refl _).append ih

/-! ## Characters below 0x80 -/

/-- A byte below 0x80 that is part of an encoding is that encoding. -/
theorem eq_ofAscii_of_mem_encode (member : b ∈ String.utf8EncodeChar c) (ascii : b.toNat < 128) :
    c = ofAscii b := by
  have single := encode_eq_singleton member ascii
  rw [← encode_ofNat ascii] at single
  exact eq_of_encode_isInfix (single ▸ List.infix_rfl)

theorem toNat_ofAscii (ascii : b.toNat < 128) : (ofAscii b).toNat = b.toNat := by
  have valid : b.toNat.isValidChar := Or.inl (by omega)
  rw [ofAscii, Char.ofNat, dif_pos valid]
  rfl

/-- A character below 0x80 is encoded as one byte. -/
theorem exists_encode_eq_singleton (ascii : c.toNat < 128) :
    ∃ b : UInt8, b.toNat < 128 ∧ ofAscii b = c ∧ String.utf8EncodeChar c = [b] := by
  have code : (UInt8.ofNat c.toNat).toNat = c.toNat := by
    rw [UInt8.toNat_ofNat']
    omega
  have same : ofAscii (UInt8.ofNat c.toNat) = c := by
    rw [ofAscii, code, Char.ofNat_toNat]
  have low : (UInt8.ofNat c.toNat).toNat < 128 := by rwa [code]
  have encoding := encode_ofNat low
  rw [show Char.ofNat (UInt8.ofNat c.toNat).toNat = c from same] at encoding
  exact ⟨UInt8.ofNat c.toNat, low, same, encoding⟩

/-- No such byte is part of the encoding of another character. -/
theorem filter_encode_of_not_ascii (notAscii : ¬ c.toNat < 128) :
    (String.utf8EncodeChar c).filter (·.toNat < 128) = [] := by
  rw [List.filter_eq_nil_iff]
  intro b member low
  have ascii := of_decide_eq_true low
  rw [eq_ofAscii_of_mem_encode member ascii, toNat_ofAscii ascii] at notAscii
  exact notAscii ascii

/-- The characters below 0x80 are the bytes below 0x80, in order. -/
theorem filter_characters (bytes : Bytes) :
    (characters bytes).filter (·.toNat < 128) =
      (bytes.filter (·.toNat < 128)).map ofAscii := by
  induction bytes using bytes_induction with
  | nil => rfl
  | dropped b rest dropped ih =>
      have high : ¬ b.toNat < 128 := by
        intro ascii
        apply dropped (ofAscii b)
        rw [ofAscii, encode_ofNat ascii]
        exact List.prefix_append [b] rest
      rw [characters_cons_of_dropped dropped, List.filter_cons_of_neg (by simpa using high), ih]
  | read c rest ih =>
      rw [characters_encode_append, List.filter_append, List.map_append, ← ih]
      by_cases ascii : c.toNat < 128
      · obtain ⟨b, low, same, encoding⟩ := exists_encode_eq_singleton ascii
        have kept : decide (c.toNat < 128) = true := decide_eq_true ascii
        have keptByte : decide (b.toNat < 128) = true := decide_eq_true low
        rw [List.filter_cons, if_pos kept, encoding, List.filter_cons, if_pos keptByte,
          List.filter_nil, List.map_singleton, same, List.singleton_append]
      · have notKept : ¬ decide (c.toNat < 128) = true := mt of_decide_eq_true ascii
        rw [List.filter_cons, if_neg notKept, filter_encode_of_not_ascii ascii]
        rfl

/-- A character below 0x80 is read where its byte stands, and the bytes in front of it and
behind it are read by themselves. -/
theorem characters_eq_append_cons_iff (ascii : c.toNat < 128) :
    characters bytes = before ++ c :: behind ↔
      ∃ front rest, bytes = front ++ String.utf8EncodeChar c ++ rest ∧
        characters front = before ∧ characters rest = behind := by
  obtain ⟨b, low, rfl, encoding⟩ := exists_encode_eq_singleton ascii
  rw [encoding]
  constructor
  · intro read
    induction bytes using bytes_induction generalizing before with
    | nil => simp at read
    | dropped x rest dropped ih =>
        rw [characters_cons_of_dropped dropped] at read
        obtain ⟨front, rest, rfl, readFront, readRest⟩ := ih read
        refine ⟨x :: front, rest, rfl, ?_, readRest⟩
        rw [characters_cons_of_dropped, readFront]
        intro d starts
        apply dropped d
        rw [List.append_assoc]
        exact starts.trans (List.prefix_append (x :: front) _)
    | read d rest ih =>
        rw [characters_encode_append] at read
        cases before with
        | nil =>
            obtain ⟨rfl, readRest⟩ := List.cons.inj read
            exact ⟨[], rest, by rw [encoding]; rfl, rfl, readRest⟩
        | cons _ before =>
            obtain ⟨rfl, readRest⟩ := List.cons.inj read
            obtain ⟨front, more, rfl, readFront, readMore⟩ := ih readRest
            refine ⟨String.utf8EncodeChar d ++ front, more, by simp, ?_, readMore⟩
            rw [characters_encode_append, readFront]
  · rintro ⟨front, rest, rfl, rfl, rfl⟩
    rw [List.append_assoc, List.singleton_append, characters_append_cons front low]

/-- Two characters below 0x80 are read side by side where their bytes stand with nothing
between them but bytes that are dropped. -/
theorem characters_eq_append_pair_iff (firstAscii : first.toNat < 128)
    (secondAscii : second.toNat < 128) :
    characters bytes = before ++ [first, second] ++ behind ↔
      ∃ front between rest,
        bytes = front ++ String.utf8EncodeChar first ++ between ++
          String.utf8EncodeChar second ++ rest ∧
        characters front = before ∧ IsUnreadable between ∧ characters rest = behind := by
  rw [List.append_assoc, List.cons_append, characters_eq_append_cons_iff firstAscii]
  constructor
  · rintro ⟨front, rest, rfl, readFront, readRest⟩
    rw [List.singleton_append, ← List.nil_append (second :: behind),
      characters_eq_append_cons_iff secondAscii] at readRest
    obtain ⟨between, rest, rfl, nothing, readRest⟩ := readRest
    refine ⟨front, between, rest, ?_, readFront, characters_eq_nil_iff.mp nothing, readRest⟩
    simp only [List.append_assoc]
  · rintro ⟨front, between, rest, rfl, readFront, nothing, readRest⟩
    refine ⟨front, between ++ String.utf8EncodeChar second ++ rest, ?_, readFront, ?_⟩
    · simp only [List.append_assoc]
    · rw [List.singleton_append, ← List.nil_append (second :: behind),
        characters_eq_append_cons_iff secondAscii]
      exact ⟨between, rest, rfl, characters_eq_nil_iff.mpr nothing, readRest⟩

end Utf8

open Utf8 (IsUnused Part characters dropByteOrderMark ofAscii)

namespace BlockComment

/-- The marks of comments. -/
def marks : List Text :=
  [lineMark, openMark, closeMark]

theorem ascii_of_mem_marks {first second : Char} (isMark : [first, second] ∈ marks) :
    first.toNat < 128 ∧ second.toNat < 128 := by
  have written : [first, second] ∈ [['/', '/'], ['/', '*'], ['*', '/']] := isMark
  simp only [List.mem_cons, List.not_mem_nil, or_false, List.cons.injEq, and_true] at written
  rcases written with ⟨rfl, rfl⟩ | ⟨rfl, rfl⟩ | ⟨rfl, rfl⟩ <;> exact ⟨by decide, by decide⟩

end BlockComment

/-- The bytes of a text are read as that text, and among unused bytes as well. Whatever
else stands in the bytes, what is read is encoded in them in order, and it has exactly
their bytes below 0x80 as its characters below 0x80. A comment mark is read exactly where
its two bytes stand with nothing between them but bytes that belong to no character. A
byte order mark in front does not count. -/
theorem decodeLossy_keeps_characters (content : Bytes) :
    let bytes := dropByteOrderMark content
    (∀ text, bytes = encodeUtf8 text → decodeLossy content = text) ∧
      (∀ parts : List Part, bytes = parts.flatMap Part.bytes →
        decodeLossy content = parts.flatMap Part.characters) ∧
      (encodeUtf8 (decodeLossy content)).Sublist bytes ∧
      (decodeLossy content).filter (·.toNat < 0x80) =
        (bytes.filter (·.toNat < 0x80)).map ofAscii ∧
      ∀ first second, [first, second] ∈ BlockComment.marks → ∀ before behind,
        decodeLossy content = before ++ [first, second] ++ behind ↔
          ∃ front between rest,
            bytes = front ++ String.utf8EncodeChar first ++ between ++
              String.utf8EncodeChar second ++ rest ∧
            characters front = before ∧ IsUnreadable between ∧ characters rest = behind := by
  intro bytes
  show (∀ text, _ → characters bytes = text) ∧ (∀ parts, _ → characters bytes = _) ∧
    (encodeUtf8 (characters bytes)).Sublist bytes ∧ (characters bytes).filter _ = _ ∧
      ∀ first second, _ → ∀ before behind, characters bytes = _ ↔ _
  refine ⟨?_, ?_, Utf8.encodeUtf8_characters_sublist bytes, Utf8.filter_characters bytes, ?_⟩
  · rintro text same
    rw [same, Utf8.characters_encodeUtf8]
  · rintro parts same
    rw [same, Utf8.characters_flatMap_bytes]
  · intro first second isMark before behind
    obtain ⟨firstAscii, secondAscii⟩ := BlockComment.ascii_of_mem_marks isMark
    exact Utf8.characters_eq_append_pair_iff firstAscii secondAscii

/-- A text with an unused byte in the middle of a word, and two of them behind it. -/
def partsOfWord : List Part :=
  [.text "/* caf".toList, .unused [0xC0] (by simp [IsUnused]), .text "é\r".toList,
    .unused [0xF5, 0xFF] (by simp [IsUnused]), .text "\n".toList]

/-- Behind a byte order mark a text is read as it is, and a text among unused bytes is read
without them. A mark is read although dropped bytes stand between its own. -/
theorem decodeLossy_keeps_characters_partsOfWord :
    dropByteOrderMark ([0xEF, 0xBB, 0xBF] ++ encodeUtf8 "é\n".toList) = encodeUtf8 "é\n".toList ∧
      decodeLossy ([0xEF, 0xBB, 0xBF] ++ encodeUtf8 "é\n".toList) = "é\n".toList ∧
      dropByteOrderMark (partsOfWord.flatMap Part.bytes) = partsOfWord.flatMap Part.bytes ∧
      decodeLossy (partsOfWord.flatMap Part.bytes) = "/* café\r\n".toList ∧
      ['/', '*'] ∈ BlockComment.marks ∧
      decodeLossy [0xC2, 0x0A, 0x2F, 0xE2, 0x82, 0x2A, 0x78] =
        ['\n'] ++ ['/', '*'] ++ ['x'] := by
  obtain ⟨ofText, -⟩ := decodeLossy_keeps_characters
    ([0xEF, 0xBB, 0xBF] ++ encodeUtf8 "é\n".toList)
  obtain ⟨-, ofParts, -⟩ := decodeLossy_keeps_characters (partsOfWord.flatMap Part.bytes)
  obtain ⟨-, -, -, -, ofMark⟩ := decodeLossy_keeps_characters
    [0xC2, 0x0A, 0x2F, 0xE2, 0x82, 0x2A, 0x78]
  have isMark : ['/', '*'] ∈ BlockComment.marks := by decide
  refine ⟨rfl, ofText _ rfl, rfl, ofParts partsOfWord rfl, isMark,
    (ofMark '/' '*' isMark ['\n'] ['x']).mpr ?_⟩
  exact ⟨[0xC2, 0x0A], [0xE2, 0x82], [0x78], rfl, rfl, Utf8.characters_eq_nil_iff.mp rfl, rfl⟩

/-- A truncated, an overlong and a surrogate sequence are dropped from between the bytes of
a mark: the mark does not stand in the bytes and is read, and its line is a comment. -/
theorem decodeLossy_joins_mark :
    (decodeLossy [0x2F, 0xC2, 0x2A] = BlockComment.openMark ∧
        ¬ encodeUtf8 BlockComment.openMark <:+: [0x2F, 0xC2, 0x2A]) ∧
      (decodeLossy [0x2F, 0xC0, 0xAF, 0x2A] = BlockComment.openMark ∧
        ¬ encodeUtf8 BlockComment.openMark <:+: [0x2F, 0xC0, 0xAF, 0x2A]) ∧
      (decodeLossy [0x2F, 0xED, 0xA0, 0x80, 0x2A] = BlockComment.openMark ∧
        ¬ encodeUtf8 BlockComment.openMark <:+: [0x2F, 0xED, 0xA0, 0x80, 0x2A]) ∧
      Settings.standard.classify? (Settings.systemOfOne [0x2F, 0xC2, 0x2A])
          (.generic (Settings.systemOfOne [0x2F, 0xC2, 0x2A])) "a.al" =
        .ok (.classified ⟨"a.al", "AL", ⟨0, 1, 0, 0⟩⟩) := by
  refine ⟨⟨rfl, by decide⟩, ⟨rfl, by decide⟩, ⟨rfl, by decide⟩, ?_⟩
  have routed : Settings.standard.route "a.al" = .blockComment := by decide +kernel
  rw [Settings.classify?, routed]
  rfl

end SourceLines
