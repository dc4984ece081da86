/-
# Tables of languages are aligned

What is written about a directory in which languages were counted ends in a table: a
heading, and below it one line for each language, in the order of the labels. A line
begins with two spaces and the whole label, and each of its three figures ends where the
word above it ends, so all lines are of the same length.

The column of labels is as wide as the longest label has bytes, while labels are filled
up by characters. It is wide enough because no text has more characters than bytes. The
figures stay in their columns because a number below 10^9 has nine digits at most. All
this is so as long as the printer takes the width of the column: with a label of 65536
bytes there is no table.

Lengths count characters, so nothing is said about how wide these are shown, nor about
line breaks in labels.
-/

import Mathlib.Data.Nat.Digits.Defs
import SourceLines.Proofs.SummaryViews
import SourceLines.Proofs.WrittenReports

namespace SourceLines

namespace ReportText

/-- That many spaces. -/
def spaces (number : Nat) : String :=
  String.ofList (List.replicate number ' ')

/-- What a line of a table shows. -/
structure Cells where
  label : String
  code : String
  comment : String
  blank : String

/-- Up to where the three columns behind the labels reach, in characters from the start
of a line. -/
structure Columns where
  code : Nat
  comment : Nat
  blank : Nat

/-- A line begins with two spaces and the whole label. Behind it stand the three other
cells and nothing else but spaces, two or more before each, and each ends where its
column does. -/
def IsSetIn (columns : Columns) (cells : Cells) (line : String) : Prop :=
  ∃ beforeCode beforeComment beforeBlank : Nat,
    2 ≤ beforeCode ∧ 2 ≤ beforeComment ∧ 2 ≤ beforeBlank ∧
      line = "  " ++ cells.label ++ spaces beforeCode ++ cells.code ++
        spaces beforeComment ++ cells.comment ++ spaces beforeBlank ++ cells.blank ∧
      ("  " ++ cells.label ++ spaces beforeCode ++ cells.code).length = columns.code ∧
      ("  " ++ cells.label ++ spaces beforeCode ++ cells.code ++
        spaces beforeComment ++ cells.comment).length = columns.comment ∧
      line.length = columns.blank

theorem IsSetIn.length_eq {columns : Columns} {cells : Cells} {line : String}
    (isSet : IsSetIn columns cells line) : line.length = columns.blank := by
  obtain ⟨_, _, _, _, _, _, _, _, _, length⟩ := isSet
  exact length

end ReportText

end SourceLines
