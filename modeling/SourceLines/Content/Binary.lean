/-
# Binary content

A file is looked at through its first bytes only. A byte order mark in front
says that the file is text, whatever follows. A signature of a well-known binary
format says that it is not. Otherwise a file is binary when a zero byte stands
among those first bytes.
-/

import SourceLines.Text.Utf8

namespace SourceLines

namespace Content

/-- How many bytes of a file are looked at. -/
def binaryWindow : Nat := 4096

/-- The byte order marks of UTF-8, of UTF-16 in both orders and of UTF-32. -/
def byteOrderMarks : List Bytes :=
  [[0xEF, 0xBB, 0xBF], [0xFF, 0xFE], [0xFE, 0xFF], [0x00, 0x00, 0xFE, 0xFF]]

/-- What documents, archives, programs, pictures and compressed files start with. -/
def binarySignatures : List Bytes :=
  [ stringBytes "%PDF-",
    stringBytes "PK\x03\x04",
    stringBytes "PK\x05\x06",
    stringBytes "MZ",
    stringBytes "\x7FELF",
    0x89 :: stringBytes "PNG\r\n\x1A\n",
    [0xFF, 0xD8, 0xFF],
    stringBytes "GIF87a",
    stringBytes "GIF89a",
    [0x1F, 0x8B],
    stringBytes "BZh",
    0xFD :: stringBytes "7zXZ\x00",
    [0x28, 0xB5, 0x2F, 0xFD],
    stringBytes "7z" ++ [0xBC, 0xAF, 0x27, 0x1C],
    stringBytes "Rar!\x1A\x07" ]

/-- The first bytes of a file are not those of a text. -/
def looksBinary (content : Bytes) : Bool :=
  let window := content.take binaryWindow
  if byteOrderMarks.any (·.isPrefixOf window) then false
  else binarySignatures.any (·.isPrefixOf window) || window.contains 0

end Content

end SourceLines
