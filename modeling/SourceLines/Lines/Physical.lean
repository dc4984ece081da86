/-
# Physical lines

A text is cut into lines at `\r\n`, at `\n` and at a `\r` that no `\n` follows.
The terminators belong to no line, and a terminator at the end of the text
starts no further line; so the empty text has no line at all, and a text that
does not end with a terminator still has its last line.
-/

import SourceLines.Text.WhiteSpace

namespace SourceLines

namespace PhysicalLines

/-- Read on with the finished lines and the open line, both kept in reverse. Of
the pair `\r\n` the first half is dropped, because the second half ends the line. -/
def read (finished : List Text) (line : Text) : Text → List Text
  | [] => (if line.isEmpty then finished else line.reverse :: finished).reverse
  | c :: rest =>
      if c = '\n' ∨ (c = '\r' ∧ rest.head? ≠ some '\n') then
        read (line.reverse :: finished) [] rest
      else if c = '\r' then read finished line rest
      else read finished (c :: line) rest

/-- The lines that are already finished come first and do not matter afterwards. -/
theorem read_eq_append (finished : List Text) (line text : Text) :
    read finished line text = finished.reverse ++ read [] line text := by
  induction text generalizing finished line with
  | nil => cases line <;> simp [read]
  | cons c rest ih =>
    simp only [read]
    split
    · rw [ih, ih [line.reverse]]
      simp
    · split <;> rw [ih]

end PhysicalLines

/-- The lines of a text, without their terminators. -/
def physicalLines (text : Text) : List Text :=
  PhysicalLines.read [] [] text

end SourceLines
