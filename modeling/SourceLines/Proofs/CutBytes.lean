/-
# Texts in bytes that may be cut

The bytes of a text are read as that text, with a byte order mark in front or without
one. When the bytes are cut off somewhere, what is read is the text up to the last whole
character: of a character that was cut, no byte but the first starts an encoding, and the
encoding that the first one starts is not there any more.
-/

import SourceLines.Proofs.LossyDecoding

namespace SourceLines

namespace Utf8

variable {bytes front content : Bytes} {text : Text} {c : Char}

/-! ## Whole texts -/

/-- Bytes that belong to a character are passed over. -/
theorem decodeFrom_append (passed bytes : Bytes) :
    decodeFrom [] passed.length (passed ++ bytes) = characters bytes := by
  induction passed with
  | nil => rfl
  | cons b passed ih => exact ih

theorem encode_ne_nil (c : Char) : String.utf8EncodeChar c ≠ [] := by
  intro empty
  have size := String.length_utf8EncodeChar c
  rw [empty] at size
  exact absurd size c.utf8Size_pos.ne

/-- In front of other bytes an encoding is read as its character. -/
theorem characters_encode_append (c : Char) (bytes : Bytes) :
    characters (String.utf8EncodeChar c ++ bytes) = c :: characters bytes := by
  have read : leadingChar? (String.utf8EncodeChar c ++ bytes) = some c :=
    leadingChar?_eq_some_iff.mpr (List.prefix_append _ bytes)
  have size := String.length_utf8EncodeChar c
  obtain ⟨b, others, encoding⟩ := List.exists_cons_of_ne_nil (encode_ne_nil c)
  rw [encoding, List.cons_append] at read
  rw [encoding, List.length_cons] at size
  rw [encoding, List.cons_append, characters, decodeFrom, read]
  simp only [← size, Nat.add_sub_cancel]
  rw [decodeFrom_eq_append, decodeFrom_append]
  rfl

/-- In front of other bytes a text is read as it is. -/
theorem characters_encodeUtf8_append (text : Text) (bytes : Bytes) :
    characters (encodeUtf8 text ++ bytes) = text ++ characters bytes := by
  induction text with
  | nil => rfl
  | cons c text ih =>
      rw [encodeUtf8, List.flatMap_cons, List.append_assoc, characters_encode_append]
      exact congrArg (c :: ·) ih

/-- The bytes of a text are read as the text. -/
theorem characters_encodeUtf8 (text : Text) : characters (encodeUtf8 text) = text := by
  have read := characters_encodeUtf8_append text []
  rwa [characters_nil, List.append_nil, List.append_nil] at read

/-- The bytes of a text are valid. -/
theorem decodeStrict?_encodeUtf8 (text : Text) : decodeStrict? (encodeUtf8 text) = some text := by
  have read : decodeFrom [] 0 (encodeUtf8 text) = text := characters_encodeUtf8 text
  rw [decodeStrict?, read]
  exact if_pos (beq_self_eq_true _)

/-! ## Cut texts -/

/-- No encoding stands within another one. -/
theorem eq_of_encode_isInfix {d : Char}
    (within : String.utf8EncodeChar d <:+: String.utf8EncodeChar c) : d = c := by
  obtain ⟨ahead, behind, same⟩ := within
  cases ahead with
  | nil =>
      have read : leadingChar? (String.utf8EncodeChar d ++ behind) = some d :=
        leadingChar?_eq_some_iff.mpr (List.prefix_append _ behind)
      rw [List.nil_append] at same
      rw [same, leadingChar?_eq_some_iff.mpr (List.prefix_refl _)] at read
      exact (Option.some_inj.mp read).symm
  | cons b ahead =>
      -- The first byte of an encoding is no byte in the middle of another one.
      have notEmpty := List.length_pos_iff.mpr (encode_ne_nil d)
      have place : (b :: ahead).length < (String.utf8EncodeChar c).length := by
        rw [← same]
        simp only [List.length_append]
        omega
      have first : (String.utf8EncodeChar c)[(b :: ahead).length].IsUTF8FirstByte := by
        have here : (String.utf8EncodeChar c)[(b :: ahead).length] =
            (String.utf8EncodeChar d)[0] := by
          simp only [← same, List.append_assoc]
          rw [List.getElem_append_right (Nat.le_refl _)]
          simp only [Nat.sub_self]
          rw [List.getElem_append_left]
        rw [here]
        exact UInt8.isUTF8FirstByte_getElem_utf8EncodeChar.mpr rfl
      exact absurd (UInt8.isUTF8FirstByte_getElem_utf8EncodeChar.mp first) (Nat.succ_ne_zero _)

/-- Nothing is read from a character that was cut. -/
theorem characters_of_cut (isPrefix : front <+: String.utf8EncodeChar c ++ bytes)
    (notWhole : ¬ String.utf8EncodeChar c <+: front) : characters front = [] := by
  have cut : front <+: String.utf8EncodeChar c :=
    (List.prefix_or_prefix_of_prefix isPrefix (List.prefix_append _ _)).resolve_right notWhole
  refine characters_eq_nil_iff.mpr fun d within => notWhole ?_
  obtain rfl := eq_of_encode_isInfix (within.trans cut.isInfix)
  rw [cut.eq_of_length_le within.length_le]

/-- What is read from cut bytes is a part of the text in front, and it is the whole text
only if the bytes are whole. -/
theorem characters_isPrefix (isPrefix : front <+: encodeUtf8 text) :
    characters front <+: text ∧ (characters front = text → front = encodeUtf8 text) := by
  induction text generalizing front with
  | nil =>
      obtain rfl := List.prefix_nil.mp isPrefix
      exact ⟨List.nil_prefix, fun _ => rfl⟩
  | cons c text ih =>
      rw [encodeUtf8, List.flatMap_cons] at isPrefix ⊢
      by_cases whole : String.utf8EncodeChar c <+: front
      · obtain ⟨more, rfl⟩ := whole
        obtain ⟨part, onlyWhole⟩ := ih ((List.prefix_append_right_inj _).mp isPrefix)
        rw [characters_encode_append, List.cons_prefix_cons]
        refine ⟨⟨rfl, part⟩, fun same => ?_⟩
        rw [onlyWhole (List.cons_inj_right c |>.mp same)]
        rfl
      · rw [characters_of_cut isPrefix whole]
        exact ⟨List.nil_prefix, nofun⟩

/-! ## Byte order marks -/

/-- The bytes are those of the text, with one byte order mark in front or without one. -/
inductive Holds : Bytes → Text → Prop
  | bare {text : Text} : Holds (encodeUtf8 text) text
  | marked {text : Text} : Holds (encodeUtf8 ('\uFEFF' :: text)) text

theorem Holds.exists_append {rest : Text} (holds : Holds content (text ++ rest)) :
    ∃ front, Holds front text ∧ content = front ++ encodeUtf8 rest := by
  cases holds with
  | bare => exact ⟨encodeUtf8 text, .bare, List.flatMap_append⟩
  | marked =>
      refine ⟨encodeUtf8 ('\uFEFF' :: text), .marked, ?_⟩
      rw [← List.cons_append]
      exact List.flatMap_append

/-- A byte order mark in front is dropped. -/
theorem decodeLossy_encode_append (bytes : Bytes) :
    decodeLossy (String.utf8EncodeChar '\uFEFF' ++ bytes) = characters bytes := rfl

/-- Bytes without a byte order mark in front are read as they are. -/
theorem decodeLossy_of_not_isPrefix (noMark : ¬ String.utf8EncodeChar '\uFEFF' <+: bytes) :
    decodeLossy bytes = characters bytes := by
  have same : dropByteOrderMark bytes = bytes := by
    unfold dropByteOrderMark
    split
    · next rest => exact absurd (List.prefix_append [0xEF, 0xBB, 0xBF] rest) noMark
    · rfl
  rw [decodeLossy, same]
  rfl

/-- From a part of the bytes in front, a part of the text in front is read. -/
theorem Holds.decodeLossy_isPrefix (holds : Holds content text)
    (noMark : text.head? ≠ some '\uFEFF') (isPrefix : front <+: content) :
    decodeLossy front <+: text ∧ (text ≠ [] → decodeLossy front = text → front = content) := by
  cases holds with
  | bare =>
      obtain ⟨part, onlyWhole⟩ := characters_isPrefix isPrefix
      rw [decodeLossy_of_not_isPrefix]
      · exact ⟨part, fun _ => onlyWhole⟩
      rintro ⟨rest, rfl⟩
      rw [characters_encode_append] at part
      obtain ⟨more, rfl⟩ := part
      exact noMark rfl
  | marked =>
      by_cases marked : String.utf8EncodeChar '\uFEFF' <+: front
      · obtain ⟨rest, rfl⟩ := marked
        obtain ⟨part, onlyWhole⟩ := characters_isPrefix isPrefix
        rw [characters_encode_append] at part onlyWhole
        rw [decodeLossy_encode_append]
        refine ⟨(List.cons_prefix_cons.mp part).2, fun _ same => onlyWhole ?_⟩
        rw [same]
      · -- The mark itself was cut.
        have cut : front <+: String.utf8EncodeChar '\uFEFF' ++ encodeUtf8 text := isPrefix
        rw [decodeLossy_of_not_isPrefix marked, characters_of_cut cut marked]
        exact ⟨List.nil_prefix, fun notEmpty same => absurd same.symm notEmpty⟩

/-- The text of a file is read back. -/
theorem Holds.decodeLossy_eq (holds : Holds content text)
    (noMark : text.head? ≠ some '\uFEFF') : decodeLossy content = text := by
  cases holds with
  | marked => exact characters_encodeUtf8 text
  | bare =>
      rw [decodeLossy_of_not_isPrefix, characters_encodeUtf8]
      rintro ⟨rest, same⟩
      have read := characters_encodeUtf8 text
      rw [← same, characters_encode_append] at read
      exact noMark (read ▸ rfl)

end Utf8

end SourceLines
