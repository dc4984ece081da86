/-
# Pruning leaves nothing out

A directory whose name contains an ignore pattern is not entered, and a path that
contains one is not listed. The second rule is enough: the name of a directory is part
of every path below it, so whatever stands in a directory that is passed over for its
name would be skipped anyway. The walk with pruning lists what the walk without any
patterns lists, in the same order, but for the paths that are skipped.

Both walks stop at a directory whose path is too long to be followed, and at a root
that is the same path as the standard input.
-/

import SourceLines.Proofs.Candidates

namespace SourceLines

/-! ## Names in paths -/

/-- What contains a marked text is marked. -/
theorem IgnoreList.Marks.of_isInfix {ignore : IgnoreList} {name path : String}
    (marks : ignore.Marks name) (inside : name.toList <:+: path.toList) : ignore.Marks path := by
  obtain ⟨pattern, member, found⟩ := marks
  exact ⟨pattern, member, found.trans inside⟩

namespace PathName

/-- The text of a directory stands in front of the paths in it. -/
theorem isPrefix_join (directory name : String) :
    directory.toList <+: (join directory name).toList := by
  unfold join
  split
  · rw [String.toList_append]
    exact List.prefix_append ..
  · rw [String.append_assoc, String.toList_append]
    exact List.prefix_append ..

/-- A path ends with the name of what it is the path of. -/
theorem isSuffix_join (directory name : String) : name.toList <:+ (join directory name).toList := by
  unfold join
  split
  · rw [String.toList_append]
    exact List.suffix_append ..
  · rw [String.toList_append]
    exact List.suffix_append ..

end PathName

/-- The path of a directory that is pruned for its name is marked. -/
theorem IgnoreList.marks_join_of_prunes {ignore : IgnoreList} {directory name : String}
    (pruned : ignore.prunesDirectory name = true) : ignore.Marks (PathName.join directory name) :=
  (matchesText_iff.mp pruned).of_isInfix (PathName.isSuffix_join ..).isInfix

namespace Walk

variable {system : FileSystem} {ignore : IgnoreList}

theorem eq_of_mem_listed {path other : String} (listed : path ∈ ofEntry.listed ignore other) :
    path = other :=
  (mem_listed_iff.mp listed).1

mutual

/-- What is listed at an entry of a directory has the directory's path in front. -/
theorem isPrefix_of_mem_ofEntry {directory path : String} :
    (entry : Entry) → path ∈ ofEntry system ignore directory entry →
      directory.toList <+: path.toList
  | .file name content, listed => by
      rw [ofEntry] at listed
      rw [eq_of_mem_listed listed]
      exact PathName.isPrefix_join directory name
  | .link name text, listed => by
      rw [ofEntry] at listed
      split at listed
      · rw [eq_of_mem_listed listed]
        exact PathName.isPrefix_join directory name
      · cases listed
  | .directory name inner, listed => by
      rw [ofEntry] at listed
      split at listed
      · cases listed
      · exact (PathName.isPrefix_join directory name).trans (isPrefix_of_mem_ofEntries inner listed)

/-- What is listed at the entries of a directory has the directory's path in front. -/
theorem isPrefix_of_mem_ofEntries {directory path : String} :
    (entries : List Entry) → path ∈ ofEntries system ignore directory entries →
      directory.toList <+: path.toList
  | [], listed => by cases listed
  | entry :: entries, listed => by
      rw [ofEntries, List.mem_append] at listed
      rcases listed with here | there
      · exact isPrefix_of_mem_ofEntry entry here
      · exact isPrefix_of_mem_ofEntries entries there

end

/-- The paths that are not to be skipped. -/
def unskipped (ignore : IgnoreList) (paths : List String) : List String :=
  paths.filter fun path => !ignore.skipsPath path

theorem mem_unskipped_iff {paths : List String} {path : String} :
    path ∈ unskipped ignore paths ↔ path ∈ paths ∧ ¬ ignore.Marks path := by
  rw [unskipped, List.mem_filter, Bool.not_eq_true', IgnoreList.skipsPath, ← Bool.not_eq_true,
    IgnoreList.matchesText_iff]

theorem listed_eq_unskipped (path : String) :
    ofEntry.listed ignore path = unskipped ignore (ofEntry.listed ⟨[]⟩ path) := by
  have whole : ofEntry.listed ⟨[]⟩ path = [path] := rfl
  rw [whole, unskipped, ofEntry.listed]
  cases skipped : ignore.skipsPath path <;> simp [skipped]

/-- Of the paths below a marked one none is left. -/
theorem unskipped_eq_nil_of_marks {directory : String} (marks : ignore.Marks directory)
    {paths : List String} (below : ∀ path ∈ paths, directory.toList <+: path.toList) :
    unskipped ignore paths = [] := by
  rw [List.eq_nil_iff_forall_not_mem]
  intro path member
  obtain ⟨listed, unmarked⟩ := mem_unskipped_iff.mp member
  exact unmarked (marks.of_isInfix (below path listed).isInfix)

-- The recursion is that of the walk. At a directory that is pruned the walk stops, while
-- the walk without patterns goes on and lists paths that all contain the directory's name.
mutual

/-- Pruning or not, the same unskipped paths are listed at an entry. -/
theorem ofEntry_eq_unskipped (directory : String) :
    (entry : Entry) → ofEntry system ignore directory entry =
      unskipped ignore (ofEntry system ⟨[]⟩ directory entry)
  | .file name content => by
      rw [ofEntry, ofEntry]
      exact listed_eq_unskipped _
  | .link name text => by
      rw [ofEntry, ofEntry]
      split
      · exact listed_eq_unskipped _
      · rfl
  | .directory name inner => by
      have entered : (IgnoreList.mk []).prunesDirectory name = false := rfl
      rw [ofEntry, ofEntry, entered, Bool.false_or]
      by_cases long : FileSystem.isTooLong (PathName.join directory name) = true
      · rw [if_pos long, if_pos (by rw [long, Bool.or_true])]
        rfl
      rw [if_neg long]
      by_cases pruned : ignore.prunesDirectory name = true
      · have marks : ignore.Marks (PathName.join directory name) :=
          IgnoreList.marks_join_of_prunes pruned
        rw [if_pos (by rw [pruned, Bool.true_or]), unskipped_eq_nil_of_marks marks]
        exact fun path => isPrefix_of_mem_ofEntries inner
      · rw [if_neg (by simp [long, pruned])]
        exact ofEntries_eq_unskipped (PathName.join directory name) inner

/-- Pruning or not, the same unskipped paths are listed at the entries of a directory. -/
theorem ofEntries_eq_unskipped (directory : String) :
    (entries : List Entry) → ofEntries system ignore directory entries =
      unskipped ignore (ofEntries system ⟨[]⟩ directory entries)
  | [] => rfl
  | entry :: entries => by
      rw [ofEntries, ofEntries, unskipped, List.filter_append, ← unskipped, ← unskipped,
        ← ofEntry_eq_unskipped directory entry, ← ofEntries_eq_unskipped directory entries]

end

/-- Nothing is listed below a marked path. -/
theorem ofEntries_eq_nil_of_marks {directory : String} (marks : ignore.Marks directory)
    (entries : List Entry) : ofEntries system ignore directory entries = [] := by
  rw [ofEntries_eq_unskipped]
  exact unskipped_eq_nil_of_marks marks fun path => isPrefix_of_mem_ofEntries entries

/-- No marked path is listed. -/
theorem not_marks_of_mem_ofEntries {directory path : String} {entries : List Entry}
    (listed : path ∈ ofEntries system ignore directory entries) : ¬ ignore.Marks path := by
  rw [ofEntries_eq_unskipped] at listed
  exact (mem_unskipped_iff.mp listed).2

/-- Real directories lead to a file, or to a link that leads to one, and their paths can
be followed. This is what a walk finds that prunes no directory. -/
def IsFound (system : FileSystem) (root : String) (entries : List Entry) (path : String) : Prop :=
  ∃ directories entry, Entry.Reaches entries directories entry ∧
    path = PathName.below root (directories ++ [entry.name]) ∧ StandsForFile system path entry ∧
      (directories ≠ [] →
        (PathName.below root directories).utf8ByteSize ≤ FileSystem.maxPathBytes)

/-- Without patterns everything that is found is listed. -/
theorem isListed_of_no_patterns_iff {root : String} {entries : List Entry} {path : String} :
    IsListed system ⟨[]⟩ root entries path ↔ IsFound system root entries path := by
  constructor
  · rintro ⟨directories, entry, lists, rfl⟩
    exact ⟨directories, entry, lists.reaches, rfl, lists.standsForFile, lists.short⟩
  · rintro ⟨directories, entry, reaches, rfl, standsForFile, short⟩
    exact ⟨directories, entry, ⟨reaches, standsForFile,
      fun name _ => IgnoreList.not_marks_of_no_patterns name, short,
      IgnoreList.not_marks_of_no_patterns _⟩, rfl⟩

end Walk

/-! ## The walk of a root -/

variable {system : FileSystem} {root : String} {location : Location} {entries : List Entry}

/-- The walk with pruning and the walk without patterns fail alike, and what the one
lists is what the other lists and is not to be skipped. -/
theorem walk_eq_map_unskipped (system : FileSystem) (ignore : IgnoreList) (root : String) :
    walk system ignore root = (walk system ⟨[]⟩ root).map (Walk.unskipped ignore) := by
  unfold walk
  split
  · rfl
  · rfl
  · split
    · rfl
    · exact congrArg Except.ok (Walk.ofEntries_eq_unskipped root _)

/-- The walk of a directory that is not the standard input lists what is found in and
below it when no directory is pruned, unless the path is to be skipped. In this order
and no other the walk without patterns lists the same paths. -/
theorem walk_lists_unskipped (ignore : IgnoreList) (wellNamed : system.WellNamed)
    (toRoot : system.LeadsTo root (.directory location entries))
    (different : PathName.parts root ≠ PathName.parts Walk.standardInput) :
    ∃ found paths, walk system ⟨[]⟩ root = .ok found ∧ walk system ignore root = .ok paths ∧
      paths = found.filter (fun path => !ignore.skipsPath path) ∧
      (∀ path, path ∈ found ↔ Walk.IsFound system root entries path) ∧
      ∀ path, path ∈ paths ↔
        Walk.IsFound system root entries path ∧ ignore.skipsPath path = false := by
  have walked := walk_of_directory ⟨[]⟩ toRoot
  rw [if_neg different] at walked
  have found : ∀ path, path ∈ Walk.ofEntries system ⟨[]⟩ root entries ↔
      Walk.IsFound system root entries path := by
    intro path
    rw [Walk.mem_ofEntries_iff toRoot.notEmpty entries (toRoot.allWellNamed wellNamed).each]
    exact Walk.isListed_of_no_patterns_iff
  refine ⟨_, _, walked, ?_, rfl, found, ?_⟩
  · rw [walk_eq_map_unskipped, walked]
    rfl
  · intro path
    rw [List.mem_filter, found, Bool.not_eq_true']

/-- In the small directory the files of `sub` are found, and with the name of the
directory as a pattern they are not listed. -/
theorem walk_lists_unskipped_smallSystem :
    Walk.smallSystem.WellNamed ∧
      Walk.smallSystem.LeadsTo "." (.directory ["work"] Walk.smallDirectory) ∧
      PathName.parts "." ≠ PathName.parts Walk.standardInput ∧
      ∃ found paths, walk Walk.smallSystem ⟨[]⟩ "." = .ok found ∧
        walk Walk.smallSystem ⟨["su"]⟩ "." = .ok paths ∧ "./sub/d" ∈ found ∧
        "./sub/d" ∉ paths ∧ "./b" ∈ paths := by
  have wellNamed := Walk.smallSystem_wellNamed
  have toRoot : Walk.smallSystem.LeadsTo "." (.directory ["work"] Walk.smallDirectory) :=
    FileSystem.resolve_eq_ok_iff.mp rfl
  have different : PathName.parts "." ≠ PathName.parts Walk.standardInput := by decide
  obtain ⟨found, paths, walked, pruned, _, finds, lists⟩ :=
    walk_lists_unskipped ⟨["su"]⟩ wellNamed toRoot different
  have inside : Walk.IsFound Walk.smallSystem "." Walk.smallDirectory "./sub/d" :=
    ⟨["sub"], .file "d" [], Walk.reaches_smallDirectory, by decide, trivial, by decide⟩
  have link : Walk.IsFound Walk.smallSystem "." Walk.smallDirectory "./b" := by
    refine ⟨[], .link "b" "main.py", .here (by simp [Walk.smallDirectory]), by decide, ?_, by simp⟩
    exact FileSystem.isFile_iff.mp rfl
  refine ⟨wellNamed, toRoot, different, found, paths, walked, pruned, (finds _).mpr inside, ?_,
    (lists _).mpr ⟨link, by decide⟩⟩
  intro listed
  exact absurd ((lists _).mp listed).2 (by decide)

namespace Walk

/-- A directory of the same name as the standard input, with a file further inside. -/
def dashDirectory : List Entry :=
  [.directory "-" [.directory "sub" [.file "main.py" (stringBytes "x = 1\n")]]]

/-- The file system in which one works beside this directory. -/
def dashSystem : FileSystem :=
  ⟨[.directory "work" dashDirectory], ["work"]⟩

theorem ofEntries_dashDirectory {root : String} (notEmpty : root ≠ "")
    (long : 4092 ≤ root.utf8ByteSize) : ofEntries dashSystem ⟨[]⟩ root dashDirectory = [] := by
  have tooLong : FileSystem.isTooLong (PathName.join (PathName.join root "-") "sub") = true := by
    have dash := PathName.utf8ByteSize_add_le_below_singleton root "-"
    have sub := PathName.utf8ByteSize_add_le_below_singleton (PathName.below root ["-"]) "sub"
    have dashSize : "-".utf8ByteSize = 1 := rfl
    have subSize : "sub".utf8ByteSize = 3 := rfl
    have limit : FileSystem.maxPathBytes = 4095 := rfl
    rw [PathName.join_eq_below notEmpty,
      PathName.join_eq_below (PathName.below_ne_empty notEmpty ["-"])]
    exact decide_eq_true (by omega)
  simp only [dashDirectory, ofEntries, ofEntry, tooLong, Bool.or_true, if_true, List.append_nil,
    ite_self]

end Walk

/-- Without patterns no directory is pruned and no path is skipped, and still a file is
not listed to which real directories lead: when the root is the path of the standard
input with a slash behind it, and when the path of a directory on the way is too long. -/
theorem walk_misses_found_files :
    ("-/" ≠ Walk.standardInput ∧
      Walk.dashSystem.LeadsTo "-/" (.directory ["work", "-"]
        [.directory "sub" [.file "main.py" (stringBytes "x = 1\n")]]) ∧
      Entry.Reaches [.directory "sub" [.file "main.py" (stringBytes "x = 1\n")]] ["sub"]
        (.file "main.py" (stringBytes "x = 1\n")) ∧
      (IgnoreList.mk []).skipsPath "-/sub/main.py" = false ∧
      walk Walk.dashSystem ⟨[]⟩ "-/" = .ok []) ∧
    PathName.dotSlashes 4093 ≠ Walk.standardInput ∧
      Walk.dashSystem.LeadsTo (PathName.dotSlashes 4093)
        (.directory ["work"] Walk.dashDirectory) ∧
      Entry.Reaches Walk.dashDirectory ["-", "sub"] (.file "main.py" (stringBytes "x = 1\n")) ∧
      (IgnoreList.mk []).skipsPath
        (PathName.below (PathName.dotSlashes 4093) ["-", "sub", "main.py"]) = false ∧
      walk Walk.dashSystem ⟨[]⟩ (PathName.dotSlashes 4093) = .ok [] := by
  have inside : Entry.Reaches [.directory "sub" [.file "main.py" (stringBytes "x = 1\n")]] ["sub"]
      (.file "main.py" (stringBytes "x = 1\n")) :=
    .inside (List.mem_singleton_self _) (.here (List.mem_singleton_self _))
  have toRoot : Walk.dashSystem.LeadsTo (PathName.dotSlashes 4093)
      (.directory ["work"] Walk.dashDirectory) :=
    FileSystem.leadsTo_dotSlashes rfl (by decide)
  have different := Walk.parts_dotSlashes_ne 4092
  refine ⟨⟨by decide, FileSystem.resolve_eq_ok_iff.mp rfl, inside, rfl, rfl⟩,
    fun same => different (congrArg _ same), toRoot,
    .inside (List.mem_singleton_self _) inside, rfl, ?_⟩
  have size : (PathName.dotSlashes 4093).utf8ByteSize = 4094 :=
    PathName.utf8ByteSize_dotSlashes 4092
  have nothing := Walk.ofEntries_dashDirectory toRoot.notEmpty (size.symm ▸ by decide)
  have walked := walk_of_directory ⟨[]⟩ toRoot
  rw [if_neg different] at walked
  exact walked.trans (congrArg Except.ok nothing)

end SourceLines
