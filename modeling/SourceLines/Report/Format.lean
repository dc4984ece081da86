/-
# Reports as JSON

A report is printed with its rows in order and its totals after them. A row says
whether the directory could be scanned, and gives a reason exactly when it could
not.

Printing goes from the beginning to the end, so when the path of a row cannot be
printed, what stands in front of it has been written.
-/

import SourceLines.Json.Printer
import SourceLines.Report.Basic
import SourceLines.Report.Written
import SourceLines.Summary.Format
import SourceLines.Text.Native

namespace SourceLines

open Json

/-- The status of a row as members of its object. -/
def RowStatus.members : RowStatus → List (String × Value)
  | .ok => [("status", .string "ok")]
  | .failed reason => [("status", .string "error"), ("reason", .string reason)]

/-- A row of a report as a JSON value. -/
def DirectoryRow.toJson (row : DirectoryRow) : Value :=
  .object
    ([("directory", .string row.directory)] ++ row.status.members ++
      [("summary", row.summary.toJson)])

/-- The totals of a report as a JSON value. -/
def ReportTotals.toJson (totals : ReportTotals) : Value :=
  .object
    [ ("code", .natural totals.code),
      ("comment", .natural totals.comment),
      ("blank", .natural totals.blank),
      ("directories_ok", .natural totals.directoriesOk),
      ("directories_failed", .natural totals.directoriesFailed) ]

namespace Report

/-- A report as a JSON value. -/
def toJson (report : Report) : Value :=
  .object
    [ ("directories", .array (report.rows.map DirectoryRow.toJson)),
      ("totals", report.totals.toJson) ]

/-- A report as JSON text, with a line break at its end. -/
def toJsonText (report : Report) : String :=
  String.ofList (Json.print report.toJson) ++ "\n"

/-- The beginning of the JSON text of a report, with these rows and then all that stands
in front of the next directory. -/
def jsonBefore (rows : List DirectoryRow) : String :=
  let front := Printer.bracketedFront
  String.ofList
    (front '\x7b' 0 [] ++ Printer.string "directories" ++ ": ".toList ++
      front '[' 1 (rows.map fun row => Printer.value 2 row.toJson) ++
      front '\x7b' 2 [] ++ Printer.string "directory" ++ ": ".toList)

/-- A report on these directories as JSON text. The first path that is not a text stops
the writing. -/
def writeJson (report : Report) (directories : List NativeText) : Written :=
  if directories.all NativeText.isText then .whole report.toJsonText
  else
    let printed := directories.takeWhile NativeText.isText
    ⟨jsonBefore (report.rows.take printed.length), some .pathNotUtf8⟩

end Report

end SourceLines
