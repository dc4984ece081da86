/-
# UTF-8, read with losses

Texts are written as UTF-8 with the core library's encoding of one character.
Reading is the other direction and never fails: a character is read wherever
its encoding stands, and a byte at which no encoding starts is dropped. One
byte order mark in front is no part of the text. No byte below 0x80 is ever
dropped, because such a byte is the encoding of a character by itself.
-/

import SourceLines.Text.WhiteSpace

namespace SourceLines

/-- The content of a file. -/
abbrev Bytes := List UInt8

/-- The UTF-8 form of a text. -/
def encodeUtf8 (text : Text) : Bytes :=
  text.flatMap String.utf8EncodeChar

/-- The UTF-8 form of a string. -/
def stringBytes (text : String) : Bytes :=
  encodeUtf8 text.toList

namespace Utf8

/-- The six bits that a byte at some place adds to a code point. -/
def payload (bytes : Bytes) (place : Nat) : Nat :=
  (bytes.getD place 0).toNat % 64

/-- The code point that the first byte announces, whatever bytes follow it. -/
def announced (bytes : Bytes) : Nat :=
  let lead := (bytes.getD 0 0).toNat
  if lead < 0x80 then lead
  else if lead < 0xE0 then lead % 32 * 64 + payload bytes 1
  else if lead < 0xF0 then lead % 16 * 4096 + payload bytes 1 * 64 + payload bytes 2
  else lead % 8 * 262144 + payload bytes 1 * 4096 + payload bytes 2 * 64 + payload bytes 3

/-- The character whose encoding the bytes start with, if there is one. Since
the candidate is encoded again, overlong forms, surrogates and truncated forms
are all refused. -/
def leadingChar? (bytes : Bytes) : Option Char :=
  let candidate := Char.ofNat (announced bytes)
  if (String.utf8EncodeChar candidate).isPrefixOf bytes then some candidate else none

/-- Read on with the characters found so far, in reverse, and the number of
bytes that still belong to the last one of them. -/
def decodeFrom (found : Text) : Nat → Bytes → Text
  | _, [] => found.reverse
  | pending + 1, _ :: rest => decodeFrom found pending rest
  | 0, byte :: rest =>
      match leadingChar? (byte :: rest) with
      | some c => decodeFrom (c :: found) (c.utf8Size - 1) rest
      | none => decodeFrom found 0 rest

/-- The characters found earlier come first and do not matter afterwards. -/
theorem decodeFrom_eq_append (found : Text) (pending : Nat) (bytes : Bytes) :
    decodeFrom found pending bytes = found.reverse ++ decodeFrom [] pending bytes := by
  induction bytes generalizing found pending with
  | nil => cases pending <;> simp [decodeFrom]
  | cons byte rest ih =>
    cases pending with
    | succ pending => simp only [decodeFrom]; exact ih found pending
    | zero =>
      simp only [decodeFrom]
      split
      · next c _ =>
        rw [ih, ih [c]]
        simp
      · exact ih found 0

/-- The bytes after one byte order mark, if they start with one. -/
def dropByteOrderMark : Bytes → Bytes
  | 0xEF :: 0xBB :: 0xBF :: rest => rest
  | bytes => bytes

end Utf8

/-- The text in a file's bytes: one byte order mark in front is skipped, and so
is every byte that belongs to no character. -/
def decodeLossy (bytes : Bytes) : Text :=
  Utf8.decodeFrom [] 0 (Utf8.dropByteOrderMark bytes)

/-- A byte sequence is UTF-8 when no byte of it is dropped, a byte order mark
being a character like any other. -/
def decodeStrict? (bytes : Bytes) : Option Text :=
  let text := Utf8.decodeFrom [] 0 bytes
  if encodeUtf8 text == bytes then some text else none

end SourceLines
