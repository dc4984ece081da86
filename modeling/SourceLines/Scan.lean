/-
# Scanning directories

A scan walks a directory, classifies its files and adds up the outcomes. The
walk and the classification are given, so a scan works on any source of paths.
With more than one job the files go to a pool of workers: each worker summarises
its shares alone, and the summaries of the shares are merged. How the pool
divides its work is up to the pool, as long as every file is dealt with once. A
scan of several directories makes a report.
-/

import SourceLines.Report.Basic

namespace SourceLines

/-- In which shares files are summarised, and how the summaries are merged. -/
inductive Reduction
  /-- Nothing is summarised. -/
  | idle
  /-- One worker summarises these files, starting with nothing. -/
  | share (paths : List String)
  /-- The summaries of two reductions are merged. -/
  | join (first second : Reduction)

namespace Reduction

/-- The files that are summarised, share after share. -/
def paths : Reduction → List String
  | idle => []
  | share paths => paths
  | join first second => first.paths ++ second.paths

/-- Summarise shares and merge their summaries in turn. -/
def ofShares (shares : List (List String)) : Reduction :=
  shares.foldl (fun reduction paths => join reduction (share paths)) idle

theorem paths_foldl_join (shares : List (List String)) (before : Reduction) :
    (shares.foldl (fun reduction paths => join reduction (share paths)) before).paths =
      before.paths ++ shares.flatten := by
  induction shares generalizing before with
  | nil => simp
  | cons first rest ih => simp [ih, paths]

theorem paths_ofShares (shares : List (List String)) :
    (ofShares shares).paths = shares.flatten :=
  paths_foldl_join shares idle

end Reduction

/-- A pool of workers: the reduction by which it summarises the files it is given.
The pool may take the files in any order. -/
structure Pool where
  plan : List String → Reduction
  complete : ∀ paths, (plan paths).paths.Perm paths

namespace Pool

/-- Cut a list into pieces of a length above zero; the last one may be shorter.
The open piece is kept in reverse, with the room that is left in it. -/
def pieces {α : Type} (length : Nat) (piece : List α) : Nat → List α → List (List α)
  | _, [] => [piece.reverse]
  | 0, item :: rest => piece.reverse :: pieces length [item] (length - 1) rest
  | room + 1, item :: rest => pieces length (item :: piece) room rest

/-- Deal a list out to some jobs, in pieces that differ little in length. -/
def deal {α : Type} (jobs : Nat) (list : List α) : List (List α) :=
  let length := max ((list.length + jobs - 1) / max jobs 1) 1
  pieces length [] length list

theorem flatten_pieces {α : Type} (length room : Nat) (piece list : List α) :
    (pieces length piece room list).flatten = piece.reverse ++ list := by
  induction list generalizing piece room with
  | nil => simp [pieces]
  | cons item rest ih => cases room <;> simp [pieces, ih]

theorem flatten_deal {α : Type} (jobs : Nat) (list : List α) : (deal jobs list).flatten = list :=
  flatten_pieces _ _ [] list

/-- The pool whose workers get one share each. -/
def dealing (jobs : Nat) : Pool where
  plan paths := .ofShares (deal jobs paths)
  complete paths := by rw [Reduction.paths_ofShares, flatten_deal]

end Pool

/-- What a scan consists of. -/
structure Scan where
  /-- The files below a root. -/
  walk : String → Except Problem (List String)
  /-- The outcome for a file. -/
  classify : String → Outcome
  /-- Over how many jobs the files are spread. -/
  jobs : Nat := 1

namespace Scan

/-- The same scan with another number of jobs, at least one. -/
def withJobs (scan : Scan) (jobs : Nat) : Scan :=
  { scan with jobs := max jobs 1 }

/-- The summary of some files. -/
def summarise (scan : Scan) (paths : List String) : Summary :=
  .ofOutcomes (paths.map scan.classify)

/-- The summary that a reduction of files ends in. -/
def reduce (scan : Scan) : Reduction → Summary
  | .idle => .empty
  | .share paths => scan.summarise paths
  | .join first second => (scan.reduce first).merge (scan.reduce second)

/-- Scan a directory file by file. -/
def scanAlone? (scan : Scan) (root : String) : Except Problem Summary := do
  let paths ← scan.walk root
  return scan.summarise paths

/-- Scan a directory with a pool of workers. -/
def scanInPool? (scan : Scan) (pool : Pool) (root : String) : Except Problem Summary := do
  let paths ← scan.walk root
  return scan.reduce (pool.plan paths)

/-- Scan a directory, or say why it cannot be walked. The pool is needed only for
more than one job. -/
def scanWith? (scan : Scan) (pool : Pool) (root : String) : Except Problem Summary :=
  if 1 < scan.jobs then scan.scanInPool? pool root else scan.scanAlone? root

/-- Scan a directory with one share of the files for each job. -/
def scan? (scan : Scan) (root : String) : Except Problem Summary :=
  scan.scanWith? (.dealing scan.jobs) root

/-- Scan a directory. One that cannot be walked has the empty summary. -/
def run (scan : Scan) (root : String) : Summary :=
  match scan.scan? root with
  | .ok summary => summary
  | .error _ => .empty

/-- Scan a directory for a report. -/
def row (scan : Scan) (directory : String) : DirectoryRow :=
  match scan.scan? directory with
  | .ok summary => ⟨directory, .ok, summary⟩
  | .error problem => ⟨directory, .failed problem.message, .empty⟩

/-- Scan several directories. -/
def report (scan : Scan) (directories : List String) : Report :=
  .ofRows (directories.map scan.row)

end Scan

end SourceLines
