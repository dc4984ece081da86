/-
# Texts of the operating system

To the operating system arguments and paths are bytes, which are mostly those of a
text but need not be UTF-8. Where such bytes are shown, a replacement character
stands in place of what belongs to no character: in place of one byte, or of two or
three that begin a character which then is not completed.
-/

import SourceLines.Text.Utf8

namespace SourceLines

/-- A text as the operating system hands it over. -/
structure NativeText where
  bytes : Bytes
  deriving DecidableEq, Repr

namespace NativeText

/-- The bytes of a text. -/
def ofString (text : String) : NativeText :=
  ⟨stringBytes text⟩

instance : Coe String NativeText := ⟨ofString⟩

/-- The text, if the bytes are UTF-8. -/
def toString? (native : NativeText) : Option String :=
  (decodeStrict? native.bytes).map String.ofList

/-- The bytes are UTF-8. -/
def isText (native : NativeText) : Bool :=
  native.toString?.isSome

/-- The byte stands in a character behind its first byte. -/
def isContinuation (byte : UInt8) : Bool :=
  0x80 ≤ byte && byte ≤ 0xBF

/-- In the encoding of some character of three bytes or more the second byte stands
behind the first one. -/
def beginsLongCharacter (first second : UInt8) : Bool :=
  if first = 0xE0 then 0xA0 ≤ second && second ≤ 0xBF
  else if first = 0xED then 0x80 ≤ second && second ≤ 0x9F
  else if first = 0xF0 then 0x90 ≤ second && second ≤ 0xBF
  else if first = 0xF4 then 0x80 ≤ second && second ≤ 0x8F
  else 0xE0 ≤ first && first ≤ 0xF4 && isContinuation second

/-- How many bytes in front are shown as one, where no character stands. -/
def brokenLength : Bytes → Nat
  | first :: second :: rest =>
      if !beginsLongCharacter first second then 1
      else if 0xF0 ≤ first && rest.head?.any isContinuation then 3
      else 2
  | _ => 1

/-- What is shown in place of bytes that belong to no character. -/
def replacement : Char := '\uFFFD'

/-- Go on with the characters that are shown so far, in reverse, and the number of
bytes that are still to be passed over. -/
def showFrom (shown : Text) : Nat → Bytes → Text
  | _, [] => shown.reverse
  | pending + 1, _ :: rest => showFrom shown pending rest
  | 0, byte :: rest =>
      match Utf8.leadingChar? (byte :: rest) with
      | some c => showFrom (c :: shown) (c.utf8Size - 1) rest
      | none => showFrom (replacement :: shown) (brokenLength (byte :: rest) - 1) rest

/-- The text as it is shown. -/
def display (native : NativeText) : String :=
  match native.toString? with
  | some text => text
  | none => String.ofList (showFrom [] 0 native.bytes)

end NativeText

end SourceLines
