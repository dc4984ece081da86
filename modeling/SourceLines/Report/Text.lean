/-
# Reports as text

Every row starts with the directory between equal signs and ends with an empty
line. Between them stand the reason of a failure, the totals, the languages and a
table with one line for each language. The first column of the table is as wide
as the longest label has bytes; labels are filled up with spaces by characters,
numbers to nine places. The totals of the report follow the rows.

The printer fills up to a width of sixteen bits at most. A longer label stops the
writing in front of its table.
-/

import SourceLines.Report.Basic
import SourceLines.Report.Written

namespace SourceLines

namespace ReportText

/-- The greatest width up to which the printer fills texts up. -/
def maxWidth : Nat := UInt16.size - 1

/-- A text filled up with spaces on its right, to a width in characters, if the printer
takes the width. -/
def padRight (width : Nat) (text : String) : Except WriteFault String :=
  if maxWidth < width then .error .widthOutOfRange
  else .ok (text ++ String.ofList (List.replicate (width - text.length) ' '))

/-- A text filled up with spaces on its left, to a width in characters. -/
def padLeft (width : Nat) (text : String) : String :=
  String.ofList (List.replicate (width - text.length) ' ') ++ text

/-- The heading of the column of labels. -/
def labelHeading : String := "Language"

/-- The width of the columns of numbers. -/
def numberWidth : Nat := 9

/-- The width of the column of labels. -/
def labelWidth (rows : List LanguageRow) : Nat :=
  rows.foldl (fun width row => max width row.language.utf8ByteSize) labelHeading.utf8ByteSize

/-- One line of the table. -/
def tableLine (width : Nat) (label code comment blank : String) : Except WriteFault String := do
  let label ← padRight width label
  return "  " ++ label ++ "  " ++ padLeft numberWidth code ++ "  " ++
    padLeft numberWidth comment ++ "  " ++ padLeft numberWidth blank

/-- The table of languages, without any line if there is no language. All its lines are
of one width, so either all of them can be printed or the first one cannot. -/
def tableLines (rows : List LanguageRow) : Except WriteFault (List String) :=
  if rows.isEmpty then .ok []
  else do
    let width := labelWidth rows
    let heading ← tableLine width labelHeading "Code" "Comment" "Blank"
    let lines ← rows.mapM fun row =>
      tableLine width row.language (toString row.code) (toString row.comment)
        (toString row.blank)
    return heading :: lines

/-- The lines about a directory in front of its table. -/
def openingLines (row : DirectoryRow) : List String :=
  let summary := row.summary
  let failure := match row.status with
    | .ok => []
    | .failed reason => ["error: " ++ reason]
  ["== " ++ row.directory ++ " =="] ++ failure ++
    ["code: " ++ toString summary.totalCode ++ "  comment: " ++ toString summary.totalComment ++
        "  blank: " ++ toString summary.totalBlank,
      "languages: " ++ summary.languagesLine]

/-- What is written about one directory. -/
def ofRow (row : DirectoryRow) : Written :=
  .ofLines (openingLines row) ++
    match tableLines row.summary.breakdown with
    | .ok lines => .ofLines lines
    | .error fault => .stopped fault

/-- The lines about all directories together. -/
def totalsLines (totals : ReportTotals) : List String :=
  ["Total code lines: " ++ toString totals.code,
    "Total comment lines: " ++ toString totals.comment,
    "Total blank lines: " ++ toString totals.blank] ++
    if 0 < totals.directoriesFailed then
      ["Directories: " ++ toString totals.directoriesOk ++ " ok, " ++
        toString totals.directoriesFailed ++ " failed"]
    else []

end ReportText

/-- A report as text: what there is to write about each directory, with an empty line
behind it, and the totals. -/
def Report.toText (report : Report) : Written :=
  report.rows.foldr (fun row rest => ReportText.ofRow row ++ .ofLines [""] ++ rest)
    (.ofLines (ReportText.totalsLines report.totals))

end SourceLines
