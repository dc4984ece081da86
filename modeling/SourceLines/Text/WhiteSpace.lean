/-
# White space and trimming

A text is the list of its characters. White space is the Unicode property
White_Space: it holds of the no-break space and of the ideographic space, but
not of the zero-width space, the byte order mark or the separators U+001C to
U+001F. Trimming removes white space at both ends and nothing in between.
-/

namespace SourceLines

/-- A text is the list of its characters. -/
abbrev Text := List Char

/-- The characters with the Unicode property White_Space. -/
def isWhiteSpace (c : Char) : Bool :=
  let code := c.toNat
  (9 ≤ code && code ≤ 13) || code == 0x20 || code == 0x85 || code == 0xA0 || code == 0x1680 ||
    (0x2000 ≤ code && code ≤ 0x200A) || code == 0x2028 || code == 0x2029 || code == 0x202F ||
    code == 0x205F || code == 0x3000

/-- A text is blank when all of it is white space; the empty text is blank. -/
def isBlank (text : Text) : Bool :=
  text.all isWhiteSpace

/-- The text from its first character that is not white space. -/
def trimStart (text : Text) : Text :=
  text.dropWhile isWhiteSpace

/-- The text up to its last character that is not white space. -/
def trimEnd (text : Text) : Text :=
  (text.reverse.dropWhile isWhiteSpace).reverse

/-- The text without the white space at both ends. -/
def trim (text : Text) : Text :=
  trimEnd (trimStart text)

end SourceLines
