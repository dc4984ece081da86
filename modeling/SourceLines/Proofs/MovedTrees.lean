/-
# Walks of a tree that is moved

When the same tree lies below two roots, the walks of the two list the same files by the
names that lead to them, although what is listed carries the text of the root. Patterns
are looked for in the whole path, so this is so for patterns without slashes only: where
such a pattern occurs in a path, it occurs in one piece between slashes, which is a piece
of the root or one of the names. A root whose own text contains a pattern lists nothing.

Whether a directory can be entered depends on the length of its path, and with it on the
root; of files in directories that can be entered from one root only nothing is said.
Neither may a root be the same path as the standard input.
-/

import SourceLines.Proofs.ScanParts

namespace SourceLines

/-! ## Patterns in the pieces of a path -/

/-- Without the separator in it, what occurs on both sides of one occurs on one side. -/
theorem isInfix_append_cons_iff {α : Type} {needle first second : List α} {separator : α}
    (absent : separator ∉ needle) :
    needle <:+: first ++ separator :: second ↔ needle <:+: first ∨ needle <:+: second := by
  constructor
  · rintro ⟨before, after, same⟩
    rw [List.append_assoc] at same
    rcases List.append_eq_append_iff.mp same with ⟨middle, rfl, rest⟩ | ⟨middle, -, rest⟩
    · rcases List.append_eq_append_iff.mp rest with ⟨gap, rfl, -⟩ | ⟨gap, rfl, behind⟩
      · rw [← List.append_assoc]
        exact .inl (List.infix_append ..)
      · cases gap with
        | nil =>
            rw [List.append_nil]
            exact .inl (List.suffix_append ..).isInfix
        | cons c gap =>
            cases behind
            exact absurd (List.mem_append_right middle List.mem_cons_self) absent
    · rcases List.cons_eq_append_iff.mp rest with ⟨-, starts⟩ | ⟨others, -, rfl⟩
      · cases needle with
        | nil => exact .inl List.nil_infix
        | cons c needle =>
            cases starts
            exact absurd List.mem_cons_self absent
      · exact .inr (List.infix_append' ..)
  · rintro (inFirst | inSecond)
    · exact inFirst.trans (List.prefix_append ..).isInfix
    · exact inSecond.trans ((List.suffix_cons ..).trans (List.suffix_append ..)).isInfix

namespace PathName

/-- What holds no separator occurs in a text just when it occurs in one of the pieces. -/
theorem isInfix_iff_mem_cutAt {separator : Char} {needle : Text} (absent : separator ∉ needle)
    (text : Text) : needle <:+: text ↔ ∃ piece ∈ cutAt separator text, needle <:+: piece := by
  by_cases cut : separator ∈ text
  · obtain ⟨first, second, rfl, unbroken⟩ := List.eq_append_cons_of_mem cut
    rw [isInfix_append_cons_iff absent, cutAt_append_cons, cutAt_of_not_mem unbroken,
      isInfix_iff_mem_cutAt absent second]
    simp
  · rw [cutAt_of_not_mem cut]
    simp
termination_by text.length
decreasing_by
  subst_vars
  simp only [List.length_append, List.length_cons]
  omega

end PathName

namespace IgnoreList

variable {ignore : IgnoreList}

/-- No pattern reaches from one piece of a path into the next one. -/
def HasNoSlash (ignore : IgnoreList) : Prop :=
  ∀ pattern ∈ ignore.patterns, '/' ∉ pattern.toList

instance (ignore : IgnoreList) : Decidable ignore.HasNoSlash :=
  inferInstanceAs (Decidable (∀ pattern ∈ ignore.patterns, '/' ∉ pattern.toList))

/-- Only the pattern without characters occurs in the empty text, and it occurs in every
other text as well. -/
theorem Marks.of_empty (marks : ignore.Marks "") (text : String) : ignore.Marks text :=
  marks.of_isInfix List.nil_infix

theorem HasNoSlash.marks_iff_mem_pieces (noSlash : ignore.HasNoSlash) (path : String) :
    ignore.Marks path ↔ ∃ piece ∈ PathName.pieces path, ignore.Marks piece := by
  simp only [PathName.pieces, List.mem_map, exists_exists_and_eq_and, Marks,
    String.toList_ofList]
  constructor
  · rintro ⟨pattern, member, inside⟩
    obtain ⟨piece, among, found⟩ :=
      (PathName.isInfix_iff_mem_cutAt (noSlash pattern member) _).mp inside
    exact ⟨piece, among, pattern, member, found⟩
  · rintro ⟨piece, among, pattern, member, found⟩
    exact ⟨pattern, member,
      (PathName.isInfix_iff_mem_cutAt (noSlash pattern member) _).mpr ⟨piece, among, found⟩⟩

/-- A path below a root is marked when the root is, or one of the names behind it. -/
theorem HasNoSlash.marks_below_iff (noSlash : ignore.HasNoSlash) (root : String)
    {names : List String} (notNil : names ≠ []) (named : ∀ name ∈ names, Entry.IsName name) :
    ignore.Marks (PathName.below root names) ↔
      ignore.Marks root ∨ ∃ name ∈ names, ignore.Marks name := by
  obtain ⟨front, frontNotNil, cut, whole⟩ :=
    PathName.pieces_below root notNil fun name member => (named name member).noSlash
  have inRoot : ignore.Marks root ↔ ∃ piece ∈ front, ignore.Marks piece := by
    rw [noSlash.marks_iff_mem_pieces]
    rcases whole with whole | whole
    · rw [whole]
    · -- The piece behind a slash at the end is empty; if that is marked, all pieces are.
      obtain ⟨first, member⟩ := List.exists_mem_of_ne_nil front frontNotNil
      rw [whole]
      constructor
      · rintro ⟨piece, among, marks⟩
        rcases List.mem_append.mp among with inFront | last
        · exact ⟨piece, inFront, marks⟩
        · rw [List.mem_singleton.mp last] at marks
          exact ⟨first, member, marks.of_empty first⟩
      · rintro ⟨piece, inFront, marks⟩
        exact ⟨piece, List.mem_append_left _ inFront, marks⟩
  rw [noSlash.marks_iff_mem_pieces, cut, inRoot]
  simp only [List.mem_append, or_and_right, exists_or]

end IgnoreList

/-! ## The same tree below two roots -/

namespace Walk

/-- A directory with these entries, from which a walk starts. -/
structure StartsFrom (system : FileSystem) (root : String) (entries : List Entry) : Prop where
  wellNamed : system.WellNamed
  toRoot : ∃ location, system.LeadsTo root (.directory location entries)
  notInput : PathName.parts root ≠ PathName.parts standardInput

/-- The directory to which names lead from a root can be entered, as far as the length of
its path goes. -/
def CanEnter (root : String) (directories : List String) : Prop :=
  directories ≠ [] → (PathName.below root directories).utf8ByteSize ≤ FileSystem.maxPathBytes

/-- The same tree lies below two roots: the same files and links stand at the same places,
and the path of each link leads to a file below both roots or below neither. -/
structure SameBelow (system other : FileSystem) (root otherRoot : String)
    (entries others : List Entry) : Prop where
  leaves : ∀ directories entry, entry.isDirectory = false →
    (Entry.Reaches entries directories entry ↔ Entry.Reaches others directories entry)
  links : ∀ directories name text, Entry.Reaches entries directories (.link name text) →
    (system.isFile (PathName.below root (directories ++ [name])) = true ↔
      other.isFile (PathName.below otherRoot (directories ++ [name])) = true)

variable {system other : FileSystem} {ignore : IgnoreList} {root otherRoot : String}
  {entries others : List Entry}

theorem SameBelow.symm (same : SameBelow system other root otherRoot entries others) :
    SameBelow other system otherRoot root others entries where
  leaves directories entry leaf := (same.leaves directories entry leaf).symm
  links directories name text reaches :=
    (same.links directories name text ((same.leaves _ _ rfl).mpr reaches)).symm

theorem StandsForFile.isDirectory {path : String} {entry : Entry}
    (standsForFile : StandsForFile system path entry) : entry.isDirectory = false := by
  cases entry with
  | file name content => rfl
  | link name text => rfl
  | directory name inner => exact standsForFile.elim

/-- What stands for a file below one root stands for one below the other. -/
theorem SameBelow.standsForFile (same : SameBelow system other root otherRoot entries others)
    {directories : List String} {entry : Entry}
    (reaches : Entry.Reaches entries directories entry)
    (standsForFile :
      StandsForFile system (PathName.below root (directories ++ [entry.name])) entry) :
    StandsForFile other (PathName.below otherRoot (directories ++ [entry.name])) entry := by
  cases entry with
  | file name content => trivial
  | link name text =>
      have alike := same.links directories name text reaches
      exact FileSystem.isFile_iff.mp (alike.mp (FileSystem.isFile_iff.mpr standsForFile))
  | directory name inner => exact standsForFile.elim

/-- What is listed below one root is listed below the other, if the directory can be
entered there too. The names on the way hold no pattern, and neither does the root. -/
theorem SameBelow.lists (same : SameBelow system other root otherRoot entries others)
    (noSlash : ignore.HasNoSlash) (unmarked : ¬ ignore.Marks otherRoot)
    (named : ∀ first ∈ entries, first.WellNamed) {directories : List String} {entry : Entry}
    (enters : CanEnter otherRoot directories)
    (lists : Lists system ignore root entries directories entry) :
    Lists other ignore otherRoot others directories entry where
  reaches := (same.leaves _ _ lists.standsForFile.isDirectory).mp lists.reaches
  standsForFile := same.standsForFile lists.reaches lists.standsForFile
  unmarked := lists.unmarked
  short := enters
  notSkipped marks := by
    have notNil : directories ++ [entry.name] ≠ [] :=
      List.append_ne_nil_of_right_ne_nil _ (List.cons_ne_nil _ _)
    have isName := lists.reaches.isName named
    rcases (noSlash.marks_below_iff otherRoot notNil isName).mp marks with inRoot | inName
    · exact unmarked inRoot
    · exact lists.notSkipped ((noSlash.marks_below_iff root notNil isName).mpr (.inr inName))

/-- The names that lead to a listed path are told by the path. -/
theorem lists_of_isListed_below (each : ∀ entry ∈ entries, entry.WellNamed)
    {directories : List String} {name : String}
    (named : ∀ other ∈ directories ++ [name], Entry.IsName other)
    (listed : IsListed system ignore root entries (PathName.below root (directories ++ [name]))) :
    ∃ entry, entry.name = name ∧ Lists system ignore root entries directories entry := by
  obtain ⟨way, entry, lists, same⟩ := listed
  have sameNames : directories ++ [name] = way ++ [entry.name] :=
    PathName.below_injective root (by simp) (by simp)
      (fun other member => (named other member).noSlash) (lists.noSlash each) same
  obtain ⟨rfl, sameName⟩ := List.append_inj' sameNames rfl
  cases sameName
  exact ⟨entry, rfl, lists⟩

theorem SameBelow.isListed (same : SameBelow system other root otherRoot entries others)
    (noSlash : ignore.HasNoSlash) (unmarked : ¬ ignore.Marks otherRoot)
    (each : ∀ entry ∈ entries, entry.WellNamed) {directories : List String} {name : String}
    (named : ∀ other ∈ directories ++ [name], Entry.IsName other)
    (enters : CanEnter otherRoot directories)
    (listed : IsListed system ignore root entries (PathName.below root (directories ++ [name]))) :
    IsListed other ignore otherRoot others (PathName.below otherRoot (directories ++ [name])) := by
  obtain ⟨entry, rfl, lists⟩ := lists_of_isListed_below each named listed
  exact ⟨directories, entry, same.lists noSlash unmarked each enters lists, rfl⟩

/-- The walk of a root lists what is to be listed, by names that lead to it from the root
through directories that can be entered. -/
theorem StartsFrom.walk_eq (starts : StartsFrom system root entries) (ignore : IgnoreList) :
    ∃ paths, walk system ignore root = .ok paths ∧
      (∀ path, path ∈ paths ↔ IsListed system ignore root entries path) ∧
      ∀ path ∈ paths, ∃ directories name, path = PathName.below root (directories ++ [name]) ∧
        (∀ other ∈ directories ++ [name], Entry.IsName other) ∧ CanEnter root directories := by
  obtain ⟨location, toRoot⟩ := starts.toRoot
  have each := (toRoot.allWellNamed starts.wellNamed).each
  have walked := walk_of_directory ignore toRoot
  rw [if_neg starts.notInput] at walked
  refine ⟨_, walked, fun path => mem_ofEntries_iff toRoot.notEmpty entries each, ?_⟩
  intro path listed
  obtain ⟨directories, entry, lists, rfl⟩ :=
    (mem_ofEntries_iff toRoot.notEmpty entries each).mp listed
  exact ⟨directories, entry.name, rfl, lists.reaches.isName each, lists.short⟩

theorem StartsFrom.each (starts : StartsFrom system root entries) :
    ∀ entry ∈ entries, entry.WellNamed := by
  obtain ⟨location, toRoot⟩ := starts.toRoot
  exact (toRoot.allWellNamed starts.wellNamed).each

end Walk

/-- A root that is marked lists nothing. Two roots that are not, below which the same tree
lies, list the same names, but for files in directories that can be entered from one of
the roots only because of the length of their paths. -/
theorem walk_moves_with_tree (ignore : IgnoreList) (noSlash : ignore.HasNoSlash) :
    (∀ (system : FileSystem) (root : String) (location : Location) (entries : List Entry),
      system.LeadsTo root (.directory location entries) → ignore.Marks root →
      walk system ignore root = .ok []) ∧
    ∀ (system other : FileSystem) (root otherRoot : String) (entries others : List Entry),
      Walk.StartsFrom system root entries → Walk.StartsFrom other otherRoot others →
      Walk.SameBelow system other root otherRoot entries others →
      ¬ ignore.Marks root → ¬ ignore.Marks otherRoot →
      ∃ paths otherPaths, walk system ignore root = .ok paths ∧
        walk other ignore otherRoot = .ok otherPaths ∧
        (∀ path ∈ paths, ∃ directories name,
          path = PathName.below root (directories ++ [name]) ∧
          (∀ part ∈ directories ++ [name], Entry.IsName part) ∧ Walk.CanEnter root directories) ∧
        (∀ path ∈ otherPaths, ∃ directories name,
          path = PathName.below otherRoot (directories ++ [name]) ∧
          (∀ part ∈ directories ++ [name], Entry.IsName part) ∧
            Walk.CanEnter otherRoot directories) ∧
        ∀ directories name, (∀ part ∈ directories ++ [name], Entry.IsName part) →
          Walk.CanEnter root directories → Walk.CanEnter otherRoot directories →
          (PathName.below root (directories ++ [name]) ∈ paths ↔
            PathName.below otherRoot (directories ++ [name]) ∈ otherPaths) := by
  constructor
  · intro system root location entries toRoot marks
    rw [walk_of_directory ignore toRoot, Walk.ofEntries_eq_nil_of_marks marks, ite_self]
  · intro system other root otherRoot entries others starts otherStarts same unmarked otherUnmarked
    obtain ⟨paths, walked, lists, names⟩ := starts.walk_eq ignore
    obtain ⟨otherPaths, otherWalked, otherLists, otherNames⟩ := otherStarts.walk_eq ignore
    refine ⟨paths, otherPaths, walked, otherWalked, names, otherNames, ?_⟩
    intro directories name named enters otherEnters
    rw [lists, otherLists]
    constructor
    · exact same.isListed noSlash otherUnmarked starts.each named otherEnters
    · exact same.symm.isListed noSlash unmarked otherStarts.each named enters

namespace Walk

/-- Nothing in or below a directory with these entries is a link. -/
def HoldsNoLink (entries : List Entry) : Prop :=
  ∀ directories name text, ¬ Entry.Reaches entries directories (.link name text)

theorem HoldsNoLink.file (name : String) (content : Bytes) :
    HoldsNoLink [.file name content] := by
  intro directories link text reaches
  cases reaches with
  | here member => cases List.mem_singleton.mp member
  | inside member rest => cases List.mem_singleton.mp member

theorem HoldsNoLink.directory {name : String} {inner : List Entry} (inside : HoldsNoLink inner) :
    HoldsNoLink [.directory name inner] := by
  intro directories link text reaches
  cases reaches with
  | here member => cases List.mem_singleton.mp member
  | inside member rest =>
      cases List.mem_singleton.mp member
      exact inside _ _ _ rest

/-- Without links any two roots will do. -/
theorem HoldsNoLink.sameBelow (noLink : HoldsNoLink entries) :
    SameBelow system other root otherRoot entries entries where
  leaves _ _ _ := .rfl
  links directories name text reaches := absurd reaches (noLink directories name text)

/-- The links in the small directory lead to a file, or nowhere, by both paths of the
working directory. -/
theorem sameBelow_smallDirectory :
    SameBelow smallSystem smallSystem "." "../work/" smallDirectory smallDirectory where
  leaves _ _ _ := .rfl
  links directories name text reaches := by
    cases reaches with
    | here member =>
        simp only [smallDirectory, List.mem_cons, reduceCtorEq, Entry.link.injEq, List.not_mem_nil,
          false_or, or_false] at member
        rcases member with ⟨rfl, rfl⟩ | ⟨rfl, rfl⟩
        · decide +kernel
        · decide +kernel
    | inside member rest =>
        simp only [smallDirectory, List.mem_cons, reduceCtorEq, Entry.directory.injEq,
          List.not_mem_nil, false_or, or_false] at member
        rcases member with ⟨rfl, rfl⟩ | ⟨rfl, rfl⟩
        · exact absurd rest (HoldsNoLink.file "d" [] _ _ _)
        · exact absurd rest (HoldsNoLink.file "e" [] _ _ _)

theorem startsFrom_smallDirectory :
    StartsFrom smallSystem "." smallDirectory ∧ StartsFrom smallSystem "../work/" smallDirectory :=
  ⟨⟨smallSystem_wellNamed, ⟨["work"], FileSystem.resolve_eq_ok_iff.mp rfl⟩, by decide⟩,
    smallSystem_wellNamed, ⟨["work"], FileSystem.resolve_eq_ok_iff.mp rfl⟩, by decide⟩

end Walk

/-- By another path of the working directory the same link is listed, but not the files in
a directory with a marked name; and with a piece of this path as a pattern nothing is. -/
theorem walk_moves_with_smallDirectory :
    (IgnoreList.mk ["su"]).HasNoSlash ∧
      Walk.StartsFrom Walk.smallSystem "." Walk.smallDirectory ∧
      Walk.StartsFrom Walk.smallSystem "../work/" Walk.smallDirectory ∧
      Walk.SameBelow Walk.smallSystem Walk.smallSystem "." "../work/" Walk.smallDirectory
        Walk.smallDirectory ∧
      (∃ paths otherPaths, walk Walk.smallSystem ⟨["su"]⟩ "." = .ok paths ∧
        walk Walk.smallSystem ⟨["su"]⟩ "../work/" = .ok otherPaths ∧
        ("./b" ∈ paths ↔ "../work/b" ∈ otherPaths) ∧
        ("./sub/d" ∈ paths ↔ "../work/sub/d" ∈ otherPaths)) ∧
      (IgnoreList.mk ["wor"]).HasNoSlash ∧ (IgnoreList.mk ["wor"]).Marks "../work/" ∧
      walk Walk.smallSystem ⟨["wor"]⟩ "../work/" = .ok [] := by
  obtain ⟨starts, otherStarts⟩ := Walk.startsFrom_smallDirectory
  have same := Walk.sameBelow_smallDirectory
  obtain ⟨-, moves⟩ := walk_moves_with_tree ⟨["su"]⟩ (by decide)
  obtain ⟨nothing, -⟩ := walk_moves_with_tree ⟨["wor"]⟩ (by decide)
  obtain ⟨paths, otherPaths, walked, otherWalked, -, -, alike⟩ :=
    moves _ _ _ _ _ _ starts otherStarts same (by decide) (by decide)
  obtain ⟨location, toRoot⟩ := otherStarts.toRoot
  refine ⟨by decide, starts, otherStarts, same, ?_, by decide, by decide, ?_⟩
  · refine ⟨paths, otherPaths, walked, otherWalked, ?_, ?_⟩
    · exact alike [] "b" (by decide) (by simp [Walk.CanEnter]) (by simp [Walk.CanEnter])
    · exact alike ["sub"] "d" (by decide) (fun _ => by decide) (fun _ => by decide)
  · exact nothing _ _ _ _ toRoot (by decide)

/-- Without patterns nothing is marked, and still one and the same directory is walked with
different results by two of its paths: one of them is the path of the standard input with
a slash behind it, or has so many slashes that no directory below it can be entered. -/
theorem walk_changes_with_root :
    ("-/" ≠ Walk.standardInput ∧ "./-" ≠ Walk.standardInput ∧
      (∃ entries, Walk.dashSystem.LeadsTo "-/" (.directory ["work", "-"] entries) ∧
        Walk.dashSystem.LeadsTo "./-" (.directory ["work", "-"] entries) ∧
        Walk.SameBelow Walk.dashSystem Walk.dashSystem "-/" "./-" entries entries) ∧
      walk Walk.dashSystem ⟨[]⟩ "-/" = .ok [] ∧
      walk Walk.dashSystem ⟨[]⟩ "./-" = .ok ["./-/sub/main.py"]) ∧
    PathName.dotSlashes 4093 ≠ Walk.standardInput ∧ "." ≠ Walk.standardInput ∧
      (∃ entries, Walk.dashSystem.LeadsTo (PathName.dotSlashes 4093) (.directory ["work"] entries) ∧
        Walk.dashSystem.LeadsTo "." (.directory ["work"] entries) ∧
        Walk.SameBelow Walk.dashSystem Walk.dashSystem (PathName.dotSlashes 4093) "." entries
          entries) ∧
      walk Walk.dashSystem ⟨[]⟩ (PathName.dotSlashes 4093) = .ok [] ∧
      walk Walk.dashSystem ⟨[]⟩ "." = .ok ["./-/sub/main.py"] := by
  have noLink : Walk.HoldsNoLink
      [.directory "sub" [.file "main.py" (stringBytes "x = 1\n")]] :=
    (Walk.HoldsNoLink.file _ _).directory
  have toRoot : Walk.dashSystem.LeadsTo (PathName.dotSlashes 4093)
      (.directory ["work"] Walk.dashDirectory) :=
    FileSystem.leadsTo_dotSlashes rfl (by decide)
  have different := Walk.parts_dotSlashes_ne 4092
  have size : (PathName.dotSlashes 4093).utf8ByteSize = 4094 :=
    PathName.utf8ByteSize_dotSlashes 4092
  have walked := walk_of_directory ⟨[]⟩ toRoot
  rw [if_neg different, Walk.ofEntries_dashDirectory toRoot.notEmpty (size.symm ▸ by decide)]
    at walked
  refine ⟨⟨by decide, by decide, ⟨_, FileSystem.resolve_eq_ok_iff.mp rfl,
    FileSystem.resolve_eq_ok_iff.mp rfl, noLink.sameBelow⟩, rfl, rfl⟩, ?_⟩
  exact ⟨fun same => different (congrArg _ same), by decide, ⟨_, toRoot,
    FileSystem.resolve_eq_ok_iff.mp rfl, noLink.directory.sameBelow⟩, walked, rfl⟩

end SourceLines
