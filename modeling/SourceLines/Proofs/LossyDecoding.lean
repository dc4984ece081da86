/-
# Reading UTF-8 with losses

What is read at a place is decided by one thing: whether the encoding of a character
stands there. Every byte below 0x80 is an encoding by itself, and no other encoding
holds such a byte, so a text may be cut in front of such a byte and behind it and
read in parts. Line breaks are such bytes, and the lines of a file are therefore read
one by one.
-/

import Mathlib.Data.List.Infix
import SourceLines.Text.Utf8

namespace SourceLines

namespace Utf8

variable {bytes rest : Bytes} {c : Char} {b : UInt8}

/-! ## The character at a place -/

theorem toNat_lt (c : Char) : c.val.toNat < 0x110000 := by
  have valid := c.valid
  simp only [UInt32.isValidChar, Nat.isValidChar] at valid
  omega

theorem payload_cons_zero (b : UInt8) (bytes : Bytes) : payload (b :: bytes) 0 = b.toNat % 64 := rfl

theorem payload_cons_succ (b : UInt8) (bytes : Bytes) (place : Nat) :
    payload (b :: bytes) (place + 1) = payload bytes place := rfl

theorem announced_cons (b : UInt8) (bytes : Bytes) :
    announced (b :: bytes) =
      if b.toNat < 0x80 then b.toNat
      else if b.toNat < 0xE0 then b.toNat % 32 * 64 + payload bytes 0
      else if b.toNat < 0xF0 then b.toNat % 16 * 4096 + payload bytes 0 * 64 + payload bytes 1
      else b.toNat % 8 * 262144 + payload bytes 0 * 4096 + payload bytes 1 * 64 + payload bytes 2 :=
  rfl

/-- An encoding announces its own character. -/
theorem announced_encode_append (c : Char) (rest : Bytes) :
    announced (String.utf8EncodeChar c ++ rest) = c.toNat := by
  have valid := toNat_lt c
  change _ = c.val.toNat
  rw [String.utf8EncodeChar]
  generalize c.val.toNat = v at valid ⊢
  split
  · simp only [List.cons_append, announced_cons, UInt8.toNat_ofNat']
    rw [if_pos (by omega)]
    omega
  · split
    · simp only [List.cons_append, announced_cons, payload_cons_zero, UInt8.toNat_ofNat']
      rw [if_neg (by omega), if_pos (by omega)]
      omega
    · split
      · simp only [List.cons_append, announced_cons, payload_cons_zero, payload_cons_succ,
          UInt8.toNat_ofNat']
        rw [if_neg (by omega), if_neg (by omega), if_pos (by omega)]
        omega
      · simp only [List.cons_append, announced_cons, payload_cons_zero, payload_cons_succ,
          UInt8.toNat_ofNat']
        rw [if_neg (by omega), if_neg (by omega), if_neg (by omega)]
        omega

/-- A character is read where its encoding stands. -/
theorem leadingChar?_eq_some_iff :
    leadingChar? bytes = some c ↔ String.utf8EncodeChar c <+: bytes := by
  unfold leadingChar?
  constructor
  · intro found
    simp only [Option.ite_none_right_eq_some, List.isPrefixOf_iff_prefix, Option.some.injEq]
      at found
    exact found.2 ▸ found.1
  · rintro ⟨rest, rfl⟩
    rw [announced_encode_append, Char.ofNat_toNat, if_pos]
    exact List.isPrefixOf_iff_prefix.mpr (List.prefix_append ..)

/-- No character is read exactly where no encoding stands. -/
theorem leadingChar?_eq_none_iff :
    leadingChar? bytes = none ↔ ∀ c, ¬ String.utf8EncodeChar c <+: bytes := by
  simp only [Option.eq_none_iff_forall_ne_some, ne_eq, leadingChar?_eq_some_iff]

/-- A byte below 0x80 is the encoding of a character. -/
theorem encode_ofNat (ascii : b.toNat < 128) :
    String.utf8EncodeChar (Char.ofNat b.toNat) = [b] := by
  have valid : b.toNat.isValidChar := Or.inl (by omega)
  have same : (Char.ofNat b.toNat).val.toNat = b.toNat := by
    rw [Char.ofNat, dif_pos valid]
    rfl
  rw [String.utf8EncodeChar, same, if_pos (by omega), UInt8.ofNat_toNat]

/-- What a byte of an encoding may be: the encoding itself, a byte in the middle, or the
first one of several. -/
theorem byte_of_encode (member : b ∈ String.utf8EncodeChar c) :
    (b.toNat < 128 ∧ String.utf8EncodeChar c = [b]) ∨
      (128 ≤ b.toNat ∧ b.toNat < 0xC0) ∨ (0xC2 ≤ b.toNat ∧ b.toNat < 0xF5) := by
  have valid := toNat_lt c
  rw [String.utf8EncodeChar] at member ⊢
  generalize c.val.toNat = v at valid member ⊢
  split at member
  · next one =>
    obtain rfl := List.mem_singleton.mp member
    rw [if_pos one, UInt8.toNat_ofNat']
    exact Or.inl ⟨by omega, rfl⟩
  · right
    split at member
    · simp only [List.mem_cons, List.not_mem_nil, or_false] at member
      rcases member with rfl | rfl <;> rw [UInt8.toNat_ofNat'] <;> omega
    · split at member
      · simp only [List.mem_cons, List.not_mem_nil, or_false] at member
        rcases member with rfl | rfl | rfl <;> rw [UInt8.toNat_ofNat'] <;> omega
      · simp only [List.mem_cons, List.not_mem_nil, or_false] at member
        rcases member with rfl | rfl | rfl | rfl <;> rw [UInt8.toNat_ofNat'] <;> omega

/-- Such a byte stands in no encoding but its own. -/
theorem encode_eq_singleton (member : b ∈ String.utf8EncodeChar c) (ascii : b.toNat < 128) :
    String.utf8EncodeChar c = [b] := by
  rcases byte_of_encode member with ⟨-, single⟩ | ⟨high, -⟩ | ⟨high, -⟩
  · exact single
  · exact absurd ascii (Nat.not_lt.mpr high)
  · exact absurd (ascii.trans (by decide)) (Nat.not_lt.mpr high)

/-- An encoding that stands in front of such a byte ends before it. -/
theorem encode_isPrefix_append_cons_iff {x : UInt8} {front : Bytes} (ascii : b.toNat < 128) :
    String.utf8EncodeChar c <+: x :: front ++ b :: rest ↔
      String.utf8EncodeChar c <+: x :: front := by
  refine ⟨fun starts => ?_, fun starts => starts.trans (List.prefix_append ..)⟩
  rcases List.prefix_or_prefix_of_prefix starts (List.prefix_append (x :: front) (b :: rest)) with
    within | ⟨more, longer⟩
  · exact within
  · cases more with
    | nil => exact ⟨[], by rw [← longer]; simp⟩
    | cons y more =>
        rw [← longer, List.prefix_append_right_inj] at starts
        obtain ⟨rfl, -⟩ := List.cons_prefix_cons.mp starts
        have member : y ∈ String.utf8EncodeChar c := by simp [← longer]
        have single := encode_eq_singleton member ascii
        simp [← longer] at single

/-! ## The characters in some bytes -/

/-- The characters that are read, a byte order mark among them. -/
def characters (bytes : Bytes) : Text :=
  decodeFrom [] 0 bytes

@[simp]
theorem characters_nil : characters [] = [] := rfl

/-- Nothing is read from bytes in which no encoding stands, and from no others. -/
theorem characters_eq_nil_iff :
    characters bytes = [] ↔ ∀ c, ¬ String.utf8EncodeChar c <:+: bytes := by
  unfold characters
  induction bytes with
  | nil => simp [decodeFrom]
  | cons x rest ih =>
      simp only [List.infix_cons_iff, not_or, forall_and, ← leadingChar?_eq_none_iff, ← ih]
      cases read : leadingChar? (x :: rest) with
      | none => simp [decodeFrom, read]
      | some c =>
          rw [decodeFrom, read]
          simp [decodeFrom_eq_append [c]]

/-- What is read stands in the bytes. -/
theorem encode_isInfix_of_mem_decodeFrom {pending : Nat}
    (member : c ∈ decodeFrom [] pending bytes) : String.utf8EncodeChar c <:+: bytes := by
  induction bytes generalizing pending with
  | nil => cases pending <;> simp [decodeFrom] at member
  | cons x rest ih =>
      rw [List.infix_cons_iff]
      cases pending with
      | succ pending => exact Or.inr (ih member)
      | zero =>
          rw [decodeFrom] at member
          split at member
          · next d read =>
              rw [decodeFrom_eq_append, List.reverse_singleton, List.singleton_append,
                List.mem_cons] at member
              rcases member with rfl | later
              · exact Or.inl (leadingChar?_eq_some_iff.mp read)
              · exact Or.inr (ih later)
          · exact Or.inr (ih member)

/-- Bytes are read in parts, in front of a byte below 0x80 and behind it. -/
theorem decodeFrom_append_cons {front : Bytes} {pending : Nat} (within : pending ≤ front.length)
    (ascii : b.toNat < 128) :
    decodeFrom [] pending (front ++ b :: rest) =
      decodeFrom [] pending front ++ Char.ofNat b.toNat :: characters rest := by
  induction front generalizing pending with
  | nil =>
      obtain rfl := Nat.le_zero.mp within
      have read : leadingChar? (b :: rest) = some (Char.ofNat b.toNat) := by
        rw [leadingChar?_eq_some_iff, encode_ofNat ascii]
        exact List.prefix_append [b] rest
      have size : (Char.ofNat b.toNat).utf8Size - 1 = 0 := by
        rw [← String.length_utf8EncodeChar, encode_ofNat ascii]
        rfl
      simp only [List.nil_append, decodeFrom, read, size]
      exact decodeFrom_eq_append [_] 0 rest
  | cons x front ih =>
      cases pending with
      | succ pending => exact ih (Nat.le_of_succ_le_succ within)
      | zero =>
          have same : leadingChar? (x :: (front ++ b :: rest)) = leadingChar? (x :: front) := by
            ext c
            rw [leadingChar?_eq_some_iff, leadingChar?_eq_some_iff]
            exact encode_isPrefix_append_cons_iff ascii
          rw [List.cons_append, decodeFrom, decodeFrom, same]
          cases read : leadingChar? (x :: front) with
          | none => exact ih (Nat.zero_le _)
          | some c =>
              have short := (leadingChar?_eq_some_iff.mp read).length_le
              rw [String.length_utf8EncodeChar, List.length_cons] at short
              simp only
              rw [decodeFrom_eq_append, decodeFrom_eq_append [c], ih (by omega), List.append_assoc]

theorem characters_append_cons (front : Bytes) (ascii : b.toNat < 128) :
    characters (front ++ b :: rest) =
      characters front ++ Char.ofNat b.toNat :: characters rest :=
  decodeFrom_append_cons (Nat.zero_le _) ascii

end Utf8

end SourceLines
