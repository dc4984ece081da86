/-
# Scans that are spread over workers

A pool of workers may take the files of a scan in any order, cut them into any
shares and merge the summaries of the shares in any tree, in which workers that
had nothing to do may stand anywhere. The summary is always the one of the scan
that goes from file to file, and a directory that cannot be walked fails with the
same problem. Two reductions agree because both tabulate the same multiset of
outcomes; no law of merging is used beyond that.
-/

import SourceLines.Proofs.Tabulation
import SourceLines.Scan

namespace SourceLines

namespace Scan

variable (scan : Scan)

/-- A reduction tabulates the outcomes of its files, however it is shaped. -/
theorem reduce_tabulates (reduction : Reduction) :
    (scan.reduce reduction).Tabulates (reduction.paths.map scan.classify) := by
  induction reduction with
  | idle => exact .empty
  | share paths => exact .ofOutcomes _
  | join first second ihFirst ihSecond =>
      rw [Reduction.paths, List.map_append, ← Multiset.coe_add]
      exact ihFirst.merge ihSecond

/-- Files that are reduced in another order, in other shares and by other merges
have the summary that they have one after another. -/
theorem reduce_eq_summarise {reduction : Reduction} {paths : List String}
    (samePaths : reduction.paths.Perm paths) : scan.reduce reduction = scan.summarise paths := by
  have sameOutcomes : (reduction.paths.map scan.classify : Multiset Outcome) =
      (paths.map scan.classify : List Outcome) :=
    Multiset.coe_eq_coe.mpr (samePaths.map scan.classify)
  have reduced := scan.reduce_tabulates reduction
  rw [sameOutcomes] at reduced
  exact reduced.unique (.ofOutcomes _)

theorem scanInPool?_eq_scanAlone? (pool : Pool) (root : String) :
    scan.scanInPool? pool root = scan.scanAlone? root := by
  unfold scanInPool? scanAlone?
  cases scan.walk root with
  | error problem => rfl
  | ok paths => exact congrArg Except.ok (scan.reduce_eq_summarise (pool.complete paths))

theorem scanAlone?_of_walk {root : String} {paths : List String}
    (walked : scan.walk root = .ok paths) :
    scan.scanAlone? root = .ok (scan.summarise paths) := by
  rw [scanAlone?, walked]
  rfl

theorem scanAlone?_of_walk_error {root : String} {problem : Problem}
    (failed : scan.walk root = .error problem) : scan.scanAlone? root = .error problem := by
  rw [scanAlone?, failed]
  rfl

theorem scanWith?_alone (pool : Pool) (root : String) :
    scan.scanWith? pool root = scan.scanAlone? root := by
  unfold scanWith?
  split
  · exact scan.scanInPool?_eq_scanAlone? pool root
  · rfl

theorem scanWith?_of_walk (pool : Pool) {root : String} {paths : List String}
    (walked : scan.walk root = .ok paths) :
    scan.scanWith? pool root = .ok (scan.summarise paths) :=
  (scan.scanWith?_alone pool root).trans (scan.scanAlone?_of_walk walked)

theorem scan?_of_walk {root : String} {paths : List String}
    (walked : scan.walk root = .ok paths) : scan.scan? root = .ok (scan.summarise paths) :=
  scan.scanWith?_of_walk _ walked

theorem scan?_of_walk_error {root : String} {problem : Problem}
    (failed : scan.walk root = .error problem) : scan.scan? root = .error problem :=
  (scan.scanWith?_alone _ root).trans (scan.scanAlone?_of_walk_error failed)

theorem run_of_walk {root : String} {paths : List String} (walked : scan.walk root = .ok paths) :
    scan.run root = scan.summarise paths := by
  rw [run, scan.scan?_of_walk walked]

theorem run_of_walk_error {root : String} {problem : Problem}
    (failed : scan.walk root = .error problem) : scan.run root = .empty := by
  rw [run, scan.scan?_of_walk_error failed]

/-- The tally of a summary counts the files of each sort. -/
theorem count_summarise (paths : List String) (sort : FileSort) :
    (scan.summarise paths).tally.count sort =
      paths.countP fun path => (scan.classify path).sort = sort := by
  have tabulates : (scan.summarise paths).Tabulates (paths.map scan.classify) := .ofOutcomes _
  rw [tabulates.tally sort, Multiset.coe_countP, List.countP_map]
  rfl

theorem filesSeen_summarise (paths : List String) :
    (scan.summarise paths).tally.filesSeen = paths.length := by
  have tabulates : (scan.summarise paths).Tabulates (paths.map scan.classify) := .ofOutcomes _
  rw [FileTally.filesSeen_eq_card tabulates.tally, Multiset.coe_card, List.length_map]

/-- For any number of jobs and any pool, a scan ends as the scan of one file after
another does: with the same summary, or with the problem that the walk met. -/
theorem scanWith?_eq_scanAlone? (jobs : Nat) (pool : Pool) (root : String) :
    (scan.withJobs jobs).scanWith? pool root = scan.scanAlone? root ∧
      scan.scanInPool? pool root = scan.scanAlone? root ∧
      ∀ problem, scan.walk root = .error problem →
        scan.scanInPool? pool root = .error problem ∧ scan.scanAlone? root = .error problem := by
  have pooled := scan.scanInPool?_eq_scanAlone? pool root
  refine ⟨(scan.withJobs jobs).scanWith?_alone pool root, pooled, ?_⟩
  intro problem failed
  have alone := scan.scanAlone?_of_walk_error failed
  exact ⟨pooled.trans alone, alone⟩

end Scan

end SourceLines
