/-
# Lines of a language with block comments

A line is judged by how it starts after trimming and by whether a block comment
is open. A `//` or `/*` in front makes a comment; a line that starts with `/*`
and holds no `*/` leaves a block open; every line up to and including the next
one that holds `*/` is then a comment as well. Blank lines are blank wherever
they stand, and they never open or close a block.
-/

import SourceLines.Text.Search
import SourceLines.Lines.Counts
import SourceLines.Lines.Physical

namespace SourceLines

namespace BlockComment

/-- What starts a comment that ends with its line. -/
def lineMark : Text := "//".toList

/-- What starts a block. -/
def openMark : Text := "/*".toList

/-- What ends a block. -/
def closeMark : Text := "*/".toList

/-- Whether a block comment is open between two lines. -/
inductive State
  | outside
  | inside
  deriving DecidableEq, Repr

namespace State

/-- The kind of a line, and whether a block is open after it. -/
def readLine (state : State) (line : Text) : LineKind × State :=
  let content := trim line
  if content.isEmpty then (.blank, state)
  else match state with
    | .inside => (.comment, if containsList closeMark content then .outside else .inside)
    | .outside =>
        if lineMark.isPrefixOf content then (.comment, .outside)
        else if openMark.isPrefixOf content then
          (.comment, if containsList closeMark content then .outside else .inside)
        else (.code, .outside)

/-- Count lines one after another. -/
def countLines (state : State) (lines : List Text) : LineCounts × State :=
  lines.foldl
    (fun (counts, state) line =>
      let (kind, next) := state.readLine line
      (counts + .ofKind kind, next))
    (.zero, state)

/-- Count the lines of a text, and say whether a block is open after it. -/
def countText (state : State) (text : Text) : LineCounts × State :=
  state.countLines (physicalLines text)

end State

/-- The counts of a whole text, which starts outside any block. -/
def count (text : Text) : LineCounts :=
  (State.outside.countText text).1

end BlockComment

end SourceLines
