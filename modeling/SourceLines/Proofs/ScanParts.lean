/-
# The parts of a scan

The scan of a directory falls into parts: the files that lie directly in it, and one
scan for each real directory in it, with this directory as the root. Merged in any
order, the summaries of the parts are the summary of the whole. The parts fit together
because the path of a directory, as a root, stands in front of the same paths as in
the walk of the whole, so the same files are found, read and skipped.

A root is not pruned for its own name. That makes no difference to a directory that
the walk of the whole prunes: all paths below it contain its name and are skipped. A
directory whose path is too long cannot be entered from above nor walked as a root.

The root must not be the same path as the standard input. Nothing is listed there, but
the directories in it have paths like any others and are scanned as roots.
-/

import SourceLines.Proofs.Pruning
import SourceLines.Proofs.PooledScan
import SourceLines.Run

namespace SourceLines

/-- The entry is a real directory. -/
def Entry.isDirectory : Entry → Bool
  | .directory _ _ => true
  | .file _ _ => false
  | .link _ _ => false

/-- From a list of lists those elements are left that are in a list of one sort. -/
theorem filter_flatMap_eq_flatMap_filter {α β : Type} {list : List α} {inside : α → List β}
    {sort : α → Bool} {keeps : β → Bool}
    (kept : ∀ item ∈ list, sort item = true → ∀ element ∈ inside item, keeps element = true)
    (dropped : ∀ item ∈ list, sort item = false → ∀ element ∈ inside item, keeps element = false) :
    (list.flatMap inside).filter keeps = (list.filter sort).flatMap inside := by
  rw [List.filter_flatMap]
  induction list with
  | nil => rfl
  | cons item rest ih =>
      rw [List.forall_mem_cons] at kept dropped
      rw [List.flatMap_cons, ih kept.2 dropped.2]
      by_cases sorted : sort item = true
      · rw [List.filter_cons_of_pos sorted, List.flatMap_cons,
          List.filter_eq_self.mpr (kept.1 sorted)]
      · have nothing : (inside item).filter keeps = [] := by
          rw [List.filter_eq_nil_iff]
          intro element member
          rw [dropped.1 (eq_false_of_ne_true sorted) element member]
          exact Bool.false_ne_true
        rw [List.filter_cons_of_neg sorted, nothing, List.nil_append]

namespace Walk

variable {system : FileSystem} {ignore : IgnoreList} {root path : String} {entries : List Entry}
  {entry : Entry}

/-- Those of the paths that are paths of entries of the root itself. -/
def directlyIn (root : String) (entries : List Entry) (paths : List String) : List String :=
  paths.filter fun path => path ∈ entries.map fun entry => PathName.join root entry.name

theorem ofEntries_eq_flatMap (entries : List Entry) :
    ofEntries system ignore root entries = entries.flatMap (ofEntry system ignore root) := by
  induction entries with
  | nil => rfl
  | cons entry entries ih => rw [ofEntries, ih, List.flatMap_cons]

/-- At an entry that is no directory only its own path is listed. -/
theorem eq_join_of_mem_ofEntry (leaf : entry.isDirectory = false)
    (listed : path ∈ ofEntry system ignore root entry) :
    path = PathName.join root entry.name := by
  cases entry with
  | file name content =>
      rw [ofEntry] at listed
      exact eq_of_mem_listed listed
  | link name text =>
      rw [ofEntry] at listed
      split at listed
      · exact eq_of_mem_listed listed
      · cases listed
  | directory name inner => cases leaf

/-- At a directory only paths are listed that have more than one name behind the root. -/
theorem not_mem_join_of_mem_ofEntry (notEmpty : root ≠ "") (wellNamed : Entry.AllWellNamed entries)
    (member : entry ∈ entries) (isDirectory : entry.isDirectory = true)
    (listed : path ∈ ofEntry system ignore root entry) :
    path ∉ entries.map fun entry => PathName.join root entry.name := by
  have named := wellNamed.each entry member
  cases entry with
  | file name content => cases isDirectory
  | link name text => cases isDirectory
  | directory name inner =>
      obtain ⟨directories, leaf, lists, rfl⟩ :=
        (mem_ofEntry_iff notEmpty _ named).mp listed
      have each : ∀ other ∈ [Entry.directory name inner], other.WellNamed := by
        intro other single
        exact List.mem_singleton.mp single ▸ named
      have noSlash := lists.noSlash each
      obtain ⟨rest, rfl, -⟩ := (lists_directory_iff named.isName).mp lists
      intro direct
      obtain ⟨other, otherMember, same⟩ := List.mem_map.mp direct
      rw [PathName.join_eq_below notEmpty] at same
      have otherNoSlash : ∀ text ∈ [other.name], '/' ∉ text.toList := by
        intro text single
        exact List.mem_singleton.mp single ▸ (wellNamed.each other otherMember).isName.noSlash
      have sameNames := PathName.below_injective root (List.cons_ne_nil _ _) (by simp) otherNoSlash
        noSlash same
      simpa using congrArg List.length sameNames

/-- What is listed at some entries lies directly in the root or is listed at one of the
directories. -/
theorem perm_directlyIn_append (notEmpty : root ≠ "") (wellNamed : Entry.AllWellNamed entries) :
    (directlyIn root entries (ofEntries system ignore root entries) ++
      (entries.filter Entry.isDirectory).flatMap (ofEntry system ignore root)).Perm
        (ofEntries system ignore root entries) := by
  have further : (ofEntries system ignore root entries).filter
      (fun path => !decide (path ∈ entries.map fun entry => PathName.join root entry.name)) =
        (entries.filter Entry.isDirectory).flatMap (ofEntry system ignore root) := by
    rw [ofEntries_eq_flatMap]
    apply filter_flatMap_eq_flatMap_filter
    · intro entry member isDirectory path listed
      have deeper := not_mem_join_of_mem_ofEntry notEmpty wellNamed member isDirectory listed
      rw [decide_eq_false deeper, Bool.not_false]
    · intro entry member leaf path listed
      have direct : path ∈ entries.map fun entry => PathName.join root entry.name :=
        eq_join_of_mem_ofEntry leaf listed ▸ List.mem_map_of_mem member
      rw [decide_eq_true direct, Bool.not_true]
  rw [← further]
  exact List.filter_append_perm ..

end Walk

/-! ## Summaries of parts -/

namespace Scan

variable (scan : Scan)

theorem reduce_ofShares (shares : List (List String)) :
    scan.reduce (.ofShares shares) = (shares.map scan.summarise).foldl Summary.merge .empty := by
  have onwards (before : Reduction) :
      scan.reduce (shares.foldl (fun reduction paths => .join reduction (.share paths)) before) =
        (shares.map scan.summarise).foldl Summary.merge (scan.reduce before) := by
    induction shares generalizing before with
    | nil => rfl
    | cons first rest ih => exact ih (.join before (.share first))
  exact onwards .idle

/-- The summaries of the shares of some files, merged in any order, are the summary of
the files. -/
theorem foldl_merge_eq_summarise {shares : List (List String)} {paths : List String}
    {summaries : List Summary} (all : shares.flatten.Perm paths)
    (ofShares : summaries.Perm (shares.map scan.summarise)) :
    summaries.foldl Summary.merge .empty = scan.summarise paths := by
  have each : List.Forall₂ (fun summary share => summary = scan.summarise share)
      (shares.map scan.summarise) shares := by
    rw [List.forall₂_map_left_iff, List.forall₂_same]
    exact fun share _ => rfl
  obtain ⟨reordered, eachReordered, samePlaces⟩ := List.perm_comp_forall₂ ofShares each
  have merged : summaries = reordered.map scan.summarise := by
    rw [← List.forall₂_eq_eq_eq, List.forall₂_map_right_iff]
    exact eachReordered
  rw [merged, ← scan.reduce_ofShares]
  apply scan.reduce_eq_summarise
  rw [Reduction.paths_ofShares]
  exact samePlaces.flatten.trans all

end Scan

/-! ## A directory as a root of its own -/

variable {system : FileSystem} {ignore : IgnoreList} {root name : String} {location : Location}
  {entries inner : List Entry}

/-- Something in a directory never has the same path as the standard input. -/
theorem PathName.parts_below_singleton_ne_standardInput (notEmpty : root ≠ "")
    (isName : Entry.IsName name) :
    parts (below root [name]) ≠ parts Walk.standardInput := by
  have dash : parts Walk.standardInput = [] ++ [.name "-"] := by decide
  rw [parts_below_singleton notEmpty isName, dash]
  intro same
  exact parts_ne_nil notEmpty (List.append_inj_left' same rfl)

/-- A directory that stands in the root, walked as a root, has the files that the walk of
the whole lists at it. For a name that contains a pattern these are none. -/
theorem walk_join_of_short (ignore : IgnoreList) (wellNamed : system.WellNamed)
    (toRoot : system.LeadsTo root (.directory location entries))
    (member : .directory name inner ∈ entries)
    (short : FileSystem.isTooLong (PathName.join root name) = false) :
    walk system ignore (PathName.join root name) =
      .ok (Walk.ofEntry system ignore root (.directory name inner)) := by
  have isName : Entry.IsName name := ((toRoot.allWellNamed wellNamed).each _ member).isName
  have different := PathName.parts_below_singleton_ne_standardInput toRoot.notEmpty isName
  have enters := toRoot.enter wellNamed member
  rw [← PathName.join_eq_below toRoot.notEmpty] at different enters
  rw [walk_of_directory ignore (enters (FileSystem.isTooLong_eq_false_iff.mp short)),
    if_neg different, Walk.ofEntry, short, Bool.or_false]
  by_cases pruned : ignore.prunesDirectory name = true
  · rw [if_pos pruned, Walk.ofEntries_eq_nil_of_marks (IgnoreList.marks_join_of_prunes pruned)]
  · rw [if_neg pruned]

/-- A directory whose path is too long cannot be walked as a root. -/
theorem walk_of_isTooLong (ignore : IgnoreList) (long : FileSystem.isTooLong root = true) :
    ∃ reason, walk system ignore root = .error (.unavailableDirectory root reason) := by
  apply walk_of_no_directory
  intro location entries toRoot
  rw [FileSystem.isTooLong_eq_false_iff.mpr toRoot.short] at long
  exact Bool.false_ne_true long

/-- A directory that stands in the root, scanned as a root, has the summary of what the
walk of the whole lists at it. -/
theorem run_join {scan : Scan} (walks : scan.walk = walk system ignore)
    (wellNamed : system.WellNamed) (toRoot : system.LeadsTo root (.directory location entries))
    (member : .directory name inner ∈ entries) :
    scan.run (PathName.join root name) =
      scan.summarise (Walk.ofEntry system ignore root (.directory name inner)) := by
  cases length : FileSystem.isTooLong (PathName.join root name) with
  | false =>
      have walked := walk_join_of_short ignore wellNamed toRoot member length
      exact scan.run_of_walk (walks ▸ walked)
  | true =>
      obtain ⟨reason, failed⟩ : ∃ reason, walk system ignore (PathName.join root name) =
          .error (.unavailableDirectory _ reason) := walk_of_isTooLong ignore length
      rw [scan.run_of_walk_error (walks ▸ failed), Walk.ofEntry, length, Bool.or_true, if_pos rfl]
      rfl

/-- The summaries of the parts of a scan with these candidates: that of the candidates
directly in the root, and those of the scans of the directories in it. -/
def Scan.partSummaries (scan : Scan) (root : String) (entries : List Entry) (paths : List String) :
    List Summary :=
  scan.summarise (Walk.directlyIn root entries paths) ::
    (entries.filter Entry.isDirectory).map fun directory =>
      scan.run (PathName.join root directory.name)

/-- The parts are the summaries of shares of the candidates. -/
theorem partSummaries_eq_map {scan : Scan} (walks : scan.walk = walk system ignore)
    (wellNamed : system.WellNamed) (toRoot : system.LeadsTo root (.directory location entries))
    (paths : List String) :
    scan.partSummaries root entries paths =
      (Walk.directlyIn root entries paths ::
        (entries.filter Entry.isDirectory).map (Walk.ofEntry system ignore root)).map
          scan.summarise := by
  rw [Scan.partSummaries, List.map_cons, List.map_map]
  apply congrArg (List.cons _)
  apply List.map_congr_left
  intro entry among
  obtain ⟨member, isDirectory⟩ := List.mem_filter.mp among
  cases entry with
  | file name content => cases isDirectory
  | link name text => cases isDirectory
  | directory name inner => exact run_join walks wellNamed toRoot member

/-- The parts, merged in any order, are the summary of what the walk lists. -/
theorem foldl_merge_partSummaries {scan : Scan} (walks : scan.walk = walk system ignore)
    (wellNamed : system.WellNamed) (toRoot : system.LeadsTo root (.directory location entries))
    {parts : List Summary}
    (inAnyOrder : parts.Perm
      (scan.partSummaries root entries (Walk.ofEntries system ignore root entries))) :
    parts.foldl Summary.merge .empty =
      scan.summarise (Walk.ofEntries system ignore root entries) := by
  rw [partSummaries_eq_map walks wellNamed toRoot] at inAnyOrder
  refine scan.foldl_merge_eq_summarise ?_ inAnyOrder
  rw [List.flatten_cons, ← List.flatMap_def]
  exact Walk.perm_directlyIn_append toRoot.notEmpty (toRoot.allWellNamed wellNamed)

namespace Settings

/-- The summary of a directory is that of the candidates directly in it, merged in any
order with the summaries of the directories in it, each scanned as a root. One of these
whose name contains a pattern has the empty summary, and no candidate is below it. -/
theorem scan_splits_along_directories (settings : Settings) (detect : Detector) (jobs : Nat)
    (pool : Pool) (wellNamed : system.WellNamed)
    (toRoot : system.LeadsTo root (.directory location entries))
    (different : PathName.parts root ≠ PathName.parts Walk.standardInput) :
    ∃ paths, walk system settings.ignore root = .ok paths ∧
      (∀ parts : List Summary,
        parts.Perm (((settings.scanWith system detect).withJobs jobs).partSummaries
          root entries paths) →
        ((settings.scanWith system detect).withJobs jobs).scanWith? pool root =
          .ok (parts.foldl Summary.merge .empty)) ∧
      ∀ name inner, .directory name inner ∈ entries → settings.ignore.prunesDirectory name = true →
        ((settings.scanWith system detect).withJobs jobs).run (PathName.join root name) = .empty ∧
          ∀ path ∈ paths, ¬ (PathName.join root name).toList <+: path.toList := by
  have walks : ((settings.scanWith system detect).withJobs jobs).walk =
      walk system settings.ignore := rfl
  generalize (settings.scanWith system detect).withJobs jobs = scan at walks ⊢
  have walked := walk_of_directory settings.ignore toRoot
  rw [if_neg different] at walked
  refine ⟨_, walked, ?_, ?_⟩
  · intro parts inAnyOrder
    rw [foldl_merge_partSummaries walks wellNamed toRoot inAnyOrder]
    exact scan.scanWith?_of_walk pool (walks ▸ walked)
  · intro name inner member pruned
    constructor
    · rw [run_join walks wellNamed toRoot member, Walk.ofEntry, pruned, Bool.true_or, if_pos rfl]
      rfl
    · intro path listed below
      have marks : settings.ignore.Marks (PathName.join root name) :=
        IgnoreList.marks_join_of_prunes pruned
      exact Walk.not_marks_of_mem_ofEntries listed (marks.of_isInfix below.isInfix)

/-- The standard settings with another list of ignore patterns. -/
def standardIgnoring (patterns : List String) : Settings :=
  { standard with ignore := ⟨patterns⟩ }

/-- The small directory, in which `sub` is pruned, has a file and a link to it directly
inside, and one more file is in the other directory. -/
theorem scan_splits_along_smallDirectory :
    Walk.smallSystem.WellNamed ∧
      Walk.smallSystem.LeadsTo "." (.directory ["work"] Walk.smallDirectory) ∧
      PathName.parts "." ≠ PathName.parts Walk.standardInput ∧
      ∃ paths, walk Walk.smallSystem ⟨["su"]⟩ "." = .ok paths ∧
        Walk.directlyIn "." Walk.smallDirectory paths = ["./main.py", "./b"] ∧
        (((standardIgnoring ["su"]).scan Walk.smallSystem).withJobs 2).scanWith? (.dealing 2) "." =
          .ok ((((standardIgnoring ["su"]).scan Walk.smallSystem).withJobs 2).partSummaries "."
            Walk.smallDirectory paths |>.foldl Summary.merge .empty) ∧
        (((standardIgnoring ["su"]).scan Walk.smallSystem).withJobs 2).run "./sub" = .empty ∧
        "./sub/d" ∉ paths := by
  have wellNamed := Walk.smallSystem_wellNamed
  have toRoot : Walk.smallSystem.LeadsTo "." (.directory ["work"] Walk.smallDirectory) :=
    FileSystem.resolve_eq_ok_iff.mp rfl
  have different : PathName.parts "." ≠ PathName.parts Walk.standardInput := by decide
  obtain ⟨paths, walked, splits, prunes⟩ :=
    scan_splits_along_directories (standardIgnoring ["su"]) (.generic Walk.smallSystem) 2
      (.dealing 2) wellNamed toRoot different
  have listed : paths = ["./main.py", "./b", "./-/e"] := (Except.ok.inj walked).symm
  obtain ⟨empty, noneBelow⟩ := prunes "sub" [.file "d" []] (by simp [Walk.smallDirectory]) rfl
  refine ⟨wellNamed, toRoot, different, paths, walked, ?_, splits _ (.refl _), empty, ?_⟩
  · rw [listed]
    decide
  · intro below
    exact noneBelow _ below (by decide)

/-- The path of the standard input with a slash behind it leads to a directory in which
a line of code stands further inside. The scan of the directory misses the line, and the
scan of the directory inside counts it. -/
theorem scan_misses_part_of_dash :
    "-/" ≠ Walk.standardInput ∧
      Walk.dashSystem.LeadsTo "-/" (.directory ["work", "-"]
        [.directory "sub" [.file "main.py" (stringBytes "x = 1\n")]]) ∧
      walk Walk.dashSystem standard.ignore "-/" = .ok [] ∧
      (standard.scan Walk.dashSystem).scan? "-/" ≠
        .ok (((standard.scan Walk.dashSystem).partSummaries "-/"
          [.directory "sub" [.file "main.py" (stringBytes "x = 1\n")]] []).foldl
            Summary.merge .empty) := by
  refine ⟨by decide, FileSystem.resolve_eq_ok_iff.mp rfl, rfl, ?_⟩
  intro same
  have codes := congrArg Summary.totalCode (Except.ok.inj same)
  revert codes
  decide +kernel

end Settings

end SourceLines
