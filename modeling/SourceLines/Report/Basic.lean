/-
# Reports on several directories

Every directory that is asked for gets one row, in the order in which they were
asked for and under the name that was given. A directory that cannot be walked
gets a row with the reason and an empty summary, and does not keep the others
from being scanned. The totals add up the rows without failures.
-/

import SourceLines.Problem
import SourceLines.Summary.Basic

namespace SourceLines

/-- Whether a directory could be scanned. -/
inductive RowStatus
  | ok
  | failed (reason : String)
  deriving DecidableEq, Repr

/-- What a report says about one directory. -/
structure DirectoryRow where
  directory : String
  status : RowStatus
  summary : Summary
  deriving DecidableEq, Repr

/-- What the rows of a report add up to. -/
structure ReportTotals where
  code : Nat
  comment : Nat
  blank : Nat
  directoriesOk : Nat
  directoriesFailed : Nat
  deriving DecidableEq, Repr

namespace ReportTotals

/-- The totals of no rows. -/
def zero : ReportTotals := ⟨0, 0, 0, 0, 0⟩

/-- The totals with one more row. -/
def record (totals : ReportTotals) (row : DirectoryRow) : ReportTotals :=
  match row.status with
  | .ok =>
      { totals with
        code := totals.code + row.summary.totalCode
        comment := totals.comment + row.summary.totalComment
        blank := totals.blank + row.summary.totalBlank
        directoriesOk := totals.directoriesOk + 1 }
  | .failed _ => { totals with directoriesFailed := totals.directoriesFailed + 1 }

end ReportTotals

/-- Rows and what they add up to. -/
structure Report where
  rows : List DirectoryRow
  totals : ReportTotals
  deriving DecidableEq, Repr

namespace Report

/-- The report of these rows. -/
def ofRows (rows : List DirectoryRow) : Report :=
  ⟨rows, rows.foldl ReportTotals.record .zero⟩

/-- Some directory could not be scanned. -/
def hasFailures (report : Report) : Bool :=
  0 < report.totals.directoriesFailed

end Report

end SourceLines
