/-
# Reports keep directories apart

A report on several directories has one row for each of them, and this row is the one
that a report on the directory alone would have: no other directory changes it, and a
directory that cannot be walked changes no other row. The totals, which are kept up
row by row, are the sums over the rows without failures and the numbers of rows with
and without. So the reports on two lists of directories make up the report on both,
and the order of the directories shows in the order of the rows only.

Nothing is said about how a directory is walked or a file classified, and the number
of jobs may be any.
-/

import Mathlib.Algebra.BigOperators.Group.List.Basic
import Mathlib.Algebra.GroupWithZero.Nat
import SourceLines.Proofs.PooledScan

namespace SourceLines

/-! ## Totals -/

namespace ReportTotals

/-- Totals add up field by field. -/
def add (first second : ReportTotals) : ReportTotals where
  code := first.code + second.code
  comment := first.comment + second.comment
  blank := first.blank + second.blank
  directoriesOk := first.directoriesOk + second.directoriesOk
  directoriesFailed := first.directoriesFailed + second.directoriesFailed

instance : Add ReportTotals := ⟨add⟩

/-- The rows of the directories that could be scanned. -/
def scannedRows (rows : List DirectoryRow) : List DirectoryRow :=
  rows.filter (·.status = .ok)

/-- What rows add up to: the lines of the directories that could be scanned, and how
many directories could be scanned and how many could not. -/
def ofRows (rows : List DirectoryRow) : ReportTotals where
  code := ((scannedRows rows).map (·.summary.totalCode)).sum
  comment := ((scannedRows rows).map (·.summary.totalComment)).sum
  blank := ((scannedRows rows).map (·.summary.totalBlank)).sum
  directoriesOk := (scannedRows rows).length
  directoriesFailed := rows.countP (·.status ≠ .ok)

theorem add_assoc (first second third : ReportTotals) :
    first + second + third = first + (second + third) :=
  (ReportTotals.mk.injEq ..).mpr
    ⟨Nat.add_assoc .., Nat.add_assoc .., Nat.add_assoc .., Nat.add_assoc .., Nat.add_assoc ..⟩

theorem zero_add (totals : ReportTotals) : zero + totals = totals :=
  (ReportTotals.mk.injEq ..).mpr
    ⟨Nat.zero_add _, Nat.zero_add _, Nat.zero_add _, Nat.zero_add _, Nat.zero_add _⟩

theorem ofRows_append (first second : List DirectoryRow) :
    ofRows (first ++ second) = ofRows first + ofRows second := by
  simp only [ofRows, scannedRows, List.filter_append, List.map_append, List.sum_append,
    List.length_append, List.countP_append]
  rfl

/-- The order of the rows does not matter. -/
theorem ofRows_perm {first second : List DirectoryRow} (perm : first.Perm second) :
    ofRows first = ofRows second := by
  have scanned : (scannedRows first).Perm (scannedRows second) := perm.filter _
  exact (ReportTotals.mk.injEq ..).mpr
    ⟨(scanned.map _).sum_eq, (scanned.map _).sum_eq, (scanned.map _).sum_eq, scanned.length_eq,
      perm.countP_eq _⟩

/-- One more row adds what it has by itself. -/
theorem record_eq (totals : ReportTotals) (row : DirectoryRow) :
    totals.record row = totals + ofRows [row] := by
  cases status : row.status with
  | ok =>
      rw [record, status]
      exact (ReportTotals.mk.injEq ..).mpr (by simp [ofRows, scannedRows, status])
  | failed reason =>
      rw [record, status]
      exact (ReportTotals.mk.injEq ..).mpr (by simp [ofRows, scannedRows, status])

/-- Rows that are recorded one after another add up. -/
theorem foldl_record (totals : ReportTotals) (rows : List DirectoryRow) :
    rows.foldl record totals = totals + ofRows rows := by
  induction rows generalizing totals with
  | nil => rfl
  | cons row rest ih =>
      rw [List.foldl_cons, ih, record_eq, add_assoc, ← ofRows_append, List.singleton_append]

/-- Every directory could be scanned or could not. -/
theorem directoriesOk_add_directoriesFailed (rows : List DirectoryRow) :
    (ofRows rows).directoriesOk + (ofRows rows).directoriesFailed = rows.length := by
  have parts := List.length_eq_countP_add_countP
    (fun row : DirectoryRow => decide (row.status = .ok)) (l := rows)
  simpa [ofRows, scannedRows, List.countP_eq_length_filter] using parts.symm

end ReportTotals

/-! ## Rows -/

namespace Scan

variable (scan : Scan)

/-- What a row has to say about a directory. No other directory has a part in it. -/
structure IsRowOf (directory : String) (row : DirectoryRow) : Prop where
  /-- The directory is named as it was given. -/
  named : row.directory = directory
  /-- A report on nothing but this directory has this row. -/
  alone : (scan.report [directory]).rows = [row]
  /-- A directory that can be walked has the summary of its scan, whichever pool of
  workers does the work. -/
  scanned : ∀ paths, scan.walk directory = .ok paths →
    row.status = .ok ∧ row.summary = scan.run directory ∧
      ∀ pool, scan.scanWith? pool directory = .ok row.summary
  /-- A directory that cannot be walked has the reason and the empty summary. -/
  failed : ∀ problem, scan.walk directory = .error problem →
    row.status = .failed problem.message ∧ row.summary = .empty

theorem isRowOf_row (directory : String) : scan.IsRowOf directory (scan.row directory) where
  named := by
    unfold row
    split <;> rfl
  alone := rfl
  scanned paths walked := by
    rw [row, scan.scan?_of_walk walked, scan.run_of_walk walked]
    exact ⟨rfl, rfl, fun pool => scan.scanWith?_of_walk pool walked⟩
  failed problem walked := by
    rw [row, scan.scan?_of_walk_error walked]
    exact ⟨rfl, rfl⟩

end Scan

namespace Report

variable {rows : List DirectoryRow}

theorem totals_ofRows (rows : List DirectoryRow) : (ofRows rows).totals = .ofRows rows :=
  (ReportTotals.foldl_record .zero rows).trans (ReportTotals.zero_add _)

/-- Rows with failures are counted, so there are failures when there is one. -/
theorem hasFailures_ofRows_iff :
    (ofRows rows).hasFailures = true ↔ ∃ row ∈ rows, ∃ reason, row.status = .failed reason := by
  have fails (row : DirectoryRow) : row.status ≠ .ok ↔ ∃ reason, row.status = .failed reason := by
    cases row.status <;> simp
  simp only [← fails]
  rw [hasFailures, decide_eq_true_iff, totals_ofRows, ReportTotals.ofRows, List.countP_pos_iff]
  simp only [decide_eq_true_iff]

theorem ofRows_append (first second : List DirectoryRow) :
    ofRows (first ++ second) =
      ⟨first ++ second, (ofRows first).totals + (ofRows second).totals⟩ := by
  rw [totals_ofRows, totals_ofRows, ← ReportTotals.ofRows_append, ← totals_ofRows]
  rfl

theorem totals_ofRows_perm {first second : List DirectoryRow} (perm : first.Perm second) :
    (ofRows first).totals = (ofRows second).totals := by
  rw [totals_ofRows, totals_ofRows, ReportTotals.ofRows_perm perm]

end Report

namespace Scan

/-- A report has a row for each directory, in the order in which the directories were
given, and each row is one that its directory alone accounts for. The totals are those
of the rows, the rows are counted among those of either status, and there are failures
when one of the rows has one. The reports on two lists make up the report on both, and
another order of the directories gives the same rows in another order and the same
totals. -/
theorem report_keeps_directories_apart (scan : Scan) (directories : List String) :
    List.Forall₂ scan.IsRowOf directories (scan.report directories).rows ∧
      (scan.report directories).totals = .ofRows (scan.report directories).rows ∧
      (scan.report directories).totals.directoriesOk +
          (scan.report directories).totals.directoriesFailed =
        (scan.report directories).rows.length ∧
      ((scan.report directories).hasFailures = true ↔
        ∃ row ∈ (scan.report directories).rows, ∃ reason, row.status = .failed reason) ∧
      (∀ others, scan.report (directories ++ others) =
        ⟨(scan.report directories).rows ++ (scan.report others).rows,
          (scan.report directories).totals + (scan.report others).totals⟩) ∧
      ∀ others, directories.Perm others →
        (scan.report directories).rows.Perm (scan.report others).rows ∧
          (scan.report directories).totals = (scan.report others).totals := by
  refine ⟨?_, Report.totals_ofRows _, ?_, Report.hasFailures_ofRows_iff, ?_, ?_⟩
  · rw [report, Report.ofRows, List.forall₂_map_right_iff]
    exact List.forall₂_same.mpr fun directory _ => scan.isRowOf_row directory
  · rw [report, Report.totals_ofRows]
    exact ReportTotals.directoriesOk_add_directoriesFailed _
  · intro others
    rw [report, List.map_append]
    exact Report.ofRows_append ..
  · intro others perm
    have rows := perm.map scan.row
    exact ⟨rows, Report.totals_ofRows_perm rows⟩

end Scan

end SourceLines
