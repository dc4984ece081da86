/-
# What a walk lists

A walk from a directory lists the files in and below it, each once: a file is
listed when real directories lead to it, none of which has a name that contains an
ignore pattern, and when its whole path contains no pattern either. A link is
listed in the same way if its path leads to a file; links are never entered.

Two limits show in what is listed. A directory whose path is longer than a path may
be is not entered, and a root that is the same path as the standard input has no
files. The order of the list is not described.
-/

import SourceLines.Files.Walk
import SourceLines.Proofs.PathResolution

namespace SourceLines

/-- The text contains one of the patterns. -/
def IgnoreList.Marks (ignore : IgnoreList) (text : String) : Prop :=
  ∃ pattern ∈ ignore.patterns, pattern.toList <:+: text.toList

theorem IgnoreList.matchesText_iff {ignore : IgnoreList} {text : String} :
    ignore.matchesText text = true ↔ ignore.Marks text := by
  simp only [matchesText, List.any_eq_true, containsString, containsList_iff_isInfix, Marks]

instance (ignore : IgnoreList) (text : String) : Decidable (ignore.Marks text) :=
  decidable_of_iff _ IgnoreList.matchesText_iff

theorem IgnoreList.not_marks_of_no_patterns (text : String) : ¬ (IgnoreList.mk []).Marks text := by
  rintro ⟨pattern, member, _⟩
  cases member

namespace Walk

/-- The entry with this path is a file, or a link that leads to one. -/
def StandsForFile (system : FileSystem) (path : String) : Entry → Prop
  | .file _ _ => True
  | .link _ _ => ∃ location content, system.LeadsTo path (.file location content)
  | .directory _ _ => False

/-- The walk gets from the entries of a root to an entry and lists it. -/
structure Lists (system : FileSystem) (ignore : IgnoreList) (root : String)
    (entries : List Entry) (directories : List String) (entry : Entry) : Prop where
  /-- Real directories lead to the entry. -/
  reaches : Entry.Reaches entries directories entry
  standsForFile : StandsForFile system (PathName.below root (directories ++ [entry.name])) entry
  unmarked : ∀ name ∈ directories, ¬ ignore.Marks name
  /-- The path of the last directory, and so of each one, can be followed. -/
  short : directories ≠ [] →
    (PathName.below root directories).utf8ByteSize ≤ FileSystem.maxPathBytes
  notSkipped : ¬ ignore.Marks (PathName.below root (directories ++ [entry.name]))

/-- The path is that of an entry that the walk lists. -/
def IsListed (system : FileSystem) (ignore : IgnoreList) (root : String) (entries : List Entry)
    (path : String) : Prop :=
  ∃ directories entry, Lists system ignore root entries directories entry ∧
    path = PathName.below root (directories ++ [entry.name])

variable {system : FileSystem} {ignore : IgnoreList} {root : String}

/-! ## One entry -/

theorem not_isListed_nil (path : String) : ¬ IsListed system ignore root [] path := by
  rintro ⟨directories, entry, lists, same⟩
  cases lists.reaches with
  | here member => cases member
  | inside member rest => cases member

theorem lists_cons_iff {head entry : Entry} {rest : List Entry} {directories : List String} :
    Lists system ignore root (head :: rest) directories entry ↔
      Lists system ignore root [head] directories entry ∨
        Lists system ignore root rest directories entry := by
  constructor
  · rintro ⟨reaches, standsForFile, unmarked, short, notSkipped⟩
    rcases Entry.reaches_cons_iff.mp reaches with reaches | reaches
    · exact .inl ⟨reaches, standsForFile, unmarked, short, notSkipped⟩
    · exact .inr ⟨reaches, standsForFile, unmarked, short, notSkipped⟩
  · rintro (lists | lists)
    · exact { lists with reaches := Entry.reaches_cons_iff.mpr (.inl lists.reaches) }
    · exact { lists with reaches := Entry.reaches_cons_iff.mpr (.inr lists.reaches) }

theorem isListed_cons_iff {head : Entry} {rest : List Entry} {path : String} :
    IsListed system ignore root (head :: rest) path ↔
      IsListed system ignore root [head] path ∨ IsListed system ignore root rest path := by
  constructor
  · rintro ⟨directories, entry, lists, same⟩
    rcases lists_cons_iff.mp lists with lists | lists
    · exact .inl ⟨directories, entry, lists, same⟩
    · exact .inr ⟨directories, entry, lists, same⟩
  · rintro (⟨directories, entry, lists, same⟩ | ⟨directories, entry, lists, same⟩)
    · exact ⟨directories, entry, lists_cons_iff.mpr (.inl lists), same⟩
    · exact ⟨directories, entry, lists_cons_iff.mpr (.inr lists), same⟩

theorem Lists.ofFile {entries : List Entry} {name : String} {content : Bytes}
    (member : .file name content ∈ entries)
    (notSkipped : ¬ ignore.Marks (PathName.below root [name])) :
    Lists system ignore root entries [] (.file name content) where
  reaches := .here member
  standsForFile := trivial
  unmarked := by simp
  short := by simp
  notSkipped := notSkipped

/-- What is listed at an entry that is no directory is the entry itself. -/
theorem isListed_leaf_iff {leaf : Entry} {path : String}
    (notDirectory : ∀ name entries, leaf ≠ .directory name entries) :
    IsListed system ignore root [leaf] path ↔
      StandsForFile system (PathName.below root [leaf.name]) leaf ∧
        path = PathName.below root [leaf.name] ∧
          ¬ ignore.Marks (PathName.below root [leaf.name]) := by
  constructor
  · rintro ⟨directories, entry, ⟨reaches, standsForFile, unmarked, short, notSkipped⟩, rfl⟩
    cases reaches with
    | here member =>
        cases List.mem_singleton.mp member
        exact ⟨standsForFile, rfl, notSkipped⟩
    | inside member rest => exact absurd (List.mem_singleton.mp member).symm (notDirectory _ _)
  · rintro ⟨standsForFile, rfl, notSkipped⟩
    exact ⟨[], leaf, ⟨.here (List.mem_singleton_self _), standsForFile, by simp, by simp,
      notSkipped⟩, rfl⟩

/-- What is listed at a directory is what is listed from its entries, if the
directory is entered. -/
theorem lists_directory_iff {name : String} (isName : Entry.IsName name) {inner : List Entry}
    {directories : List String} {entry : Entry} :
    Lists system ignore root [.directory name inner] directories entry ↔
      ∃ rest, directories = name :: rest ∧ ¬ ignore.Marks name ∧
        (PathName.below root [name]).utf8ByteSize ≤ FileSystem.maxPathBytes ∧
          Lists system ignore (PathName.below root [name]) inner rest entry := by
  have deeper (rest : List String) :
      PathName.below (PathName.below root [name]) (rest ++ [entry.name]) =
        PathName.below root (name :: rest ++ [entry.name]) :=
    PathName.below_below root isName (List.append_ne_nil_of_right_ne_nil _ (List.cons_ne_nil _ _))
  constructor
  · rintro ⟨reaches, standsForFile, unmarked, short, notSkipped⟩
    cases reaches with
    | here member =>
        cases List.mem_singleton.mp member
        exact standsForFile.elim
    | @inside _ _ _ rest _ member reaches =>
        cases List.mem_singleton.mp member
        have shortHere := Nat.le_trans (PathName.utf8ByteSize_below_singleton_le root name rest)
          (short (List.cons_ne_nil name rest))
        refine ⟨rest, rfl, unmarked name List.mem_cons_self, shortHere, reaches, ?_, ?_, ?_, ?_⟩
        · rw [deeper]
          exact standsForFile
        · intro other member
          exact unmarked other (List.mem_cons_of_mem name member)
        · intro notNil
          rw [PathName.below_below root isName notNil]
          exact short (List.cons_ne_nil name rest)
        · rw [deeper]
          exact notSkipped
  · rintro ⟨rest, rfl, unmarkedHere, shortHere, reaches, standsForFile, unmarked, short,
      notSkipped⟩
    rw [deeper] at standsForFile notSkipped
    refine ⟨.inside (List.mem_singleton_self _) reaches, standsForFile, ?_, ?_, notSkipped⟩
    · intro other member
      rcases List.mem_cons.mp member with rfl | member
      · exact unmarkedHere
      · exact unmarked other member
    · intro _
      by_cases last : rest = []
      · rw [last]
        exact shortHere
      · rw [← PathName.below_below root isName last]
        exact short last

/-- The path of what is listed at a directory is below the directory's own. -/
theorem isListed_directory_iff {name : String} (isName : Entry.IsName name)
    {inner : List Entry} {path : String} :
    IsListed system ignore root [.directory name inner] path ↔
      (¬ ignore.Marks name ∧
          (PathName.below root [name]).utf8ByteSize ≤ FileSystem.maxPathBytes) ∧
        IsListed system ignore (PathName.below root [name]) inner path := by
  constructor
  · rintro ⟨directories, entry, lists, rfl⟩
    obtain ⟨rest, rfl, unmarked, short, inside⟩ := (lists_directory_iff isName).mp lists
    refine ⟨⟨unmarked, short⟩, rest, entry, inside, ?_⟩
    rw [PathName.below_below root isName (by simp), List.cons_append]
  · rintro ⟨⟨unmarked, short⟩, rest, entry, inside, rfl⟩
    have lists := (lists_directory_iff isName).mpr ⟨rest, rfl, unmarked, short, inside⟩
    refine ⟨name :: rest, entry, lists, ?_⟩
    rw [PathName.below_below root isName (by simp), List.cons_append]

/-! ## What the walk lists -/

theorem mem_listed_iff {path other : String} :
    path ∈ ofEntry.listed ignore other ↔ path = other ∧ ¬ ignore.Marks other := by
  rw [ofEntry.listed, IgnoreList.skipsPath, ← IgnoreList.matchesText_iff]
  split <;> simp_all

theorem nodup_listed {path : String} : (ofEntry.listed ignore path).Nodup := by
  unfold ofEntry.listed
  split
  · exact List.nodup_nil
  · exact List.nodup_cons.mpr ⟨List.not_mem_nil, List.nodup_nil⟩

/-- A directory is passed over for its name or for the length of its path. -/
theorem closed_iff {name path : String} :
    (ignore.prunesDirectory name || FileSystem.isTooLong path) = true ↔
      ¬ (¬ ignore.Marks name ∧ path.utf8ByteSize ≤ FileSystem.maxPathBytes) := by
  rw [Bool.or_eq_true, IgnoreList.prunesDirectory, IgnoreList.matchesText_iff,
    ← FileSystem.isTooLong_eq_false_iff, Classical.not_and_iff_not_or_not, Classical.not_not,
    Bool.not_eq_false]

-- The recursion is that of the walk. Inside a directory its path takes the place of
-- the root, so the statements are about every root that is not empty.
mutual

/-- The walk lists the paths of what it is to list at an entry. -/
theorem mem_ofEntry_iff {root path : String} (notEmpty : root ≠ "") :
    (entry : Entry) → entry.WellNamed →
      (path ∈ ofEntry system ignore root entry ↔ IsListed system ignore root [entry] path)
  | .file name content, wellNamed => by
      rw [isListed_leaf_iff (by simp), ofEntry, mem_listed_iff, PathName.join_eq_below notEmpty]
      simp [StandsForFile, Entry.name]
  | .link name text, wellNamed => by
      rw [isListed_leaf_iff (by simp), ofEntry, PathName.join_eq_below notEmpty]
      by_cases isFile : system.isFile (PathName.below root [name]) = true
      · have leads := FileSystem.isFile_iff.mp isFile
        rw [if_pos isFile, mem_listed_iff]
        exact (and_iff_right leads).symm
      · rw [if_neg isFile]
        apply iff_of_false List.not_mem_nil
        rintro ⟨leads, _⟩
        exact isFile (FileSystem.isFile_iff.mpr leads)
  | .directory name inner, wellNamed => by
      have isName : Entry.IsName name := wellNamed.isName
      have insideNamed := wellNamed.inside.each
      have deeper := PathName.below_ne_empty notEmpty [name]
      rw [isListed_directory_iff isName, ofEntry, PathName.join_eq_below notEmpty]
      split
      · next closed =>
        apply iff_of_false List.not_mem_nil
        rintro ⟨entered, _⟩
        exact closed_iff.mp closed entered
      · next notClosed =>
        rw [mem_ofEntries_iff deeper inner insideNamed]
        apply (and_iff_right _).symm
        apply Classical.not_not.mp
        intro closed
        exact notClosed (closed_iff.mpr closed)

/-- The walk lists the paths of what it is to list at some entries. -/
theorem mem_ofEntries_iff {root path : String} (notEmpty : root ≠ "") :
    (entries : List Entry) → (∀ entry ∈ entries, entry.WellNamed) →
      (path ∈ ofEntries system ignore root entries ↔ IsListed system ignore root entries path)
  | [], wellNamed => iff_of_false List.not_mem_nil (not_isListed_nil path)
  | entry :: entries, wellNamed => by
      have othersNamed : ∀ other ∈ entries, other.WellNamed := by
        intro other member
        exact wellNamed other (List.mem_cons_of_mem entry member)
      rw [ofEntries, List.mem_append, isListed_cons_iff,
        mem_ofEntry_iff notEmpty entry (wellNamed entry List.mem_cons_self),
        mem_ofEntries_iff notEmpty entries othersNamed]

end

theorem Lists.noSlash {entries : List Entry} {directories : List String} {entry : Entry}
    (lists : Lists system ignore root entries directories entry)
    (each : ∀ entry ∈ entries, entry.WellNamed) :
    ∀ name ∈ directories ++ [entry.name], '/' ∉ name.toList := by
  intro name member
  exact (lists.reaches.isName each name member).noSlash

/-- What is listed leads to a file when its path can be followed. -/
theorem Lists.leadsTo {location : Location} {entries : List Entry} {directories : List String}
    {entry : Entry} (lists : Lists system ignore root entries directories entry)
    (toRoot : system.LeadsTo root (.directory location entries)) (wellNamed : system.WellNamed)
    (short : (PathName.below root (directories ++ [entry.name])).utf8ByteSize ≤
      FileSystem.maxPathBytes) :
    ∃ place content,
      system.LeadsTo (PathName.below root (directories ++ [entry.name])) (.file place content) := by
  cases entry with
  | file name content =>
      obtain ⟨place, leadsTo⟩ := toRoot.below wellNamed lists.reaches short
      exact ⟨place, content, leadsTo⟩
  | link name text => exact lists.standsForFile
  | directory name inner => exact lists.standsForFile.elim

/-- What is listed at an entry is not listed at the entries that come after it. -/
theorem disjoint_ofEntry_ofEntries (notEmpty : root ≠ "") {entry : Entry} {entries : List Entry}
    (wellNamed : Entry.AllWellNamed (entry :: entries)) {path : String}
    (here : path ∈ ofEntry system ignore root entry) :
    path ∉ ofEntries system ignore root entries := by
  intro there
  have entryNamed : ∀ other ∈ [entry], other.WellNamed := by
    intro other member
    apply wellNamed.each other
    exact List.mem_cons.mpr (.inl (List.mem_singleton.mp member))
  have othersNamed := wellNamed.tail.each
  obtain ⟨directories, leaf, lists, rfl⟩ :=
    (mem_ofEntry_iff notEmpty entry (entryNamed entry (List.mem_singleton_self entry))).mp here
  obtain ⟨others, otherLeaf, listsToo, same⟩ :=
    (mem_ofEntries_iff notEmpty entries othersNamed).mp there
  -- Equal paths mean equal names from the first one on, and that is an entry's own.
  have sameNames := PathName.below_injective root (by simp) (by simp) (lists.noSlash entryNamed)
    (listsToo.noSlash othersNamed) same
  obtain ⟨first, firstMember, rest, begins⟩ := lists.reaches.exists_head
  obtain ⟨second, secondMember, otherRest, otherBegins⟩ := listsToo.reaches.exists_head
  rw [begins, otherBegins, List.cons.injEq] at sameNames
  have distinct := (List.nodup_cons.mp wellNamed.distinct).1
  rw [List.mem_singleton.mp firstMember] at sameNames
  exact distinct (sameNames.1 ▸ List.mem_map_of_mem secondMember)

mutual

theorem nodup_ofEntry {root : String} (notEmpty : root ≠ "") :
    (entry : Entry) → entry.WellNamed → (ofEntry system ignore root entry).Nodup
  | .file name content, wellNamed => by
      rw [ofEntry]
      exact nodup_listed
  | .link name text, wellNamed => by
      rw [ofEntry]
      split
      · exact nodup_listed
      · exact List.nodup_nil
  | .directory name inner, wellNamed => by
      have deeper := PathName.below_ne_empty notEmpty [name]
      rw [ofEntry, PathName.join_eq_below notEmpty]
      split
      · exact List.nodup_nil
      · exact nodup_ofEntries deeper inner wellNamed.inside

/-- The walk lists no path twice. -/
theorem nodup_ofEntries {root : String} (notEmpty : root ≠ "") :
    (entries : List Entry) → Entry.AllWellNamed entries →
      (ofEntries system ignore root entries).Nodup
  | [], wellNamed => List.nodup_nil
  | entry :: entries, wellNamed => by
      have first : (ofEntry system ignore root entry).Nodup :=
        nodup_ofEntry notEmpty entry (wellNamed.each entry List.mem_cons_self)
      have others : (ofEntries system ignore root entries).Nodup :=
        nodup_ofEntries notEmpty entries wellNamed.tail
      rw [ofEntries, List.nodup_append]
      refine ⟨first, others, ?_⟩
      intro path here other there same
      subst same
      exact disjoint_ofEntry_ofEntries notEmpty wellNamed here there

end

end Walk

/-! ## The walk of a root -/

variable {system : FileSystem} {root : String}

theorem walk_of_directory (ignore : IgnoreList) {location : Location} {entries : List Entry}
    (toRoot : system.LeadsTo root (.directory location entries)) :
    walk system ignore root = .ok
      (if PathName.parts root = PathName.parts Walk.standardInput then []
      else Walk.ofEntries system ignore root entries) := by
  rw [walk, FileSystem.resolve_eq_ok_iff.mpr toRoot]
  exact (apply_ite Except.ok ..).symm

/-- The root of a walk that succeeds is a directory. -/
theorem leadsTo_of_walk {ignore : IgnoreList} {paths : List String}
    (walked : walk system ignore root = .ok paths) :
    ∃ location entries, system.LeadsTo root (.directory location entries) := by
  unfold walk at walked
  split at walked
  · cases walked
  · cases walked
  · next resolved => exact ⟨_, _, FileSystem.resolve_eq_ok_iff.mp resolved⟩

theorem walk_of_no_directory (ignore : IgnoreList)
    (nowhere : ∀ location entries, ¬ system.LeadsTo root (.directory location entries)) :
    ∃ reason, walk system ignore root = .error (.unavailableDirectory root reason) := by
  unfold walk
  cases resolved : system.resolve root with
  | error error => exact ⟨_, rfl⟩
  | ok target =>
      cases target with
      | file location content => exact ⟨_, rfl⟩
      | directory location entries =>
          exact absurd (FileSystem.resolve_eq_ok_iff.mp resolved) (nowhere location entries)

/-- The path of everything that a walk lists leads to a file, unless it is too long. -/
theorem leadsTo_of_mem_walk {ignore : IgnoreList} {paths : List String}
    (wellNamed : system.WellNamed) (walked : walk system ignore root = .ok paths) {path : String}
    (listed : path ∈ paths) (short : path.utf8ByteSize ≤ FileSystem.maxPathBytes) :
    ∃ location content, system.LeadsTo path (.file location content) := by
  obtain ⟨location, entries, toRoot⟩ := leadsTo_of_walk walked
  have named := toRoot.allWellNamed wellNamed
  rw [walk_of_directory ignore toRoot] at walked
  cases walked
  split at listed
  · cases listed
  · obtain ⟨directories, entry, lists, rfl⟩ :=
      (Walk.mem_ofEntries_iff toRoot.notEmpty entries named.each).mp listed
    exact lists.leadsTo toRoot wellNamed short

/-- A walk succeeds when its root is a directory. It then lists the paths of the
files in and below the root, as `Walk.IsListed` describes them, and each of them
once. Otherwise it fails because of the root. -/
theorem walk_lists (ignore : IgnoreList) (root : String) (wellNamed : system.WellNamed) :
    (∀ location entries, system.LeadsTo root (.directory location entries) →
      ∃ paths, walk system ignore root = .ok paths ∧ paths.Nodup ∧
        ∀ path, path ∈ paths ↔
          PathName.parts root ≠ PathName.parts Walk.standardInput ∧
            Walk.IsListed system ignore root entries path) ∧
      ((∀ location entries, ¬ system.LeadsTo root (.directory location entries)) →
        ∃ reason, walk system ignore root = .error (.unavailableDirectory root reason)) := by
  refine ⟨?_, walk_of_no_directory ignore⟩
  intro location entries toRoot
  have named := toRoot.allWellNamed wellNamed
  refine ⟨_, walk_of_directory ignore toRoot, ?_, ?_⟩
  · split
    · exact List.nodup_nil
    · exact Walk.nodup_ofEntries toRoot.notEmpty entries named
  · intro path
    split
    · next same =>
      apply iff_of_false List.not_mem_nil
      rintro ⟨different, _⟩
      exact different same
    · next different =>
      rw [and_iff_right different]
      exact Walk.mem_ofEntries_iff toRoot.notEmpty entries named.each

namespace Walk

/-- A small directory: a file, a link to it, a link to itself, and two directories. -/
def smallDirectory : List Entry :=
  [ .file "main.py" (stringBytes "x = 1\n"), .link "b" "main.py", .link "c" "c",
    .directory "sub" [.file "d" []], .directory "-" [.file "e" []] ]

/-- The file system in which one works in the small directory. -/
def smallSystem : FileSystem :=
  ⟨[.directory "work" smallDirectory], ["work"]⟩

theorem smallSystem_wellNamed : smallSystem.WellNamed := by
  have inside (directory file : String) (isName : Entry.IsName directory ∧ Entry.IsName file) :
      (Entry.directory directory [.file file []]).WellNamed :=
    Entry.AllWellNamed.directory isName.1 (.cons (.file isName.2) (by simp) .nil)
  have small : Entry.AllWellNamed smallDirectory := by
    refine .cons (.file (by decide)) (by decide) ?_
    refine .cons (.link (by decide)) (by decide) ?_
    refine .cons (.link (by decide)) (by decide) ?_
    refine .cons (inside "sub" "d" (by decide)) (by decide) ?_
    exact .cons (inside "-" "e" (by decide)) (by simp) .nil
  exact .cons (Entry.AllWellNamed.directory (by decide) small) (by simp) .nil

theorem parts_dotSlashes_ne (count : Nat) :
    PathName.parts (PathName.dotSlashes (count + 1)) ≠ PathName.parts standardInput := by
  intro same
  have dash : .name "-" ∈ PathName.parts standardInput := by decide
  rw [← same] at dash
  rcases PathName.eq_of_mem_pieces_dotSlashes (PathName.mem_pieces_of_mem_parts dash) with
    empty | dot
  · exact absurd empty (by decide)
  · exact absurd dot (by decide)

theorem leadsTo_smallDirectory :
    smallSystem.LeadsTo (PathName.dotSlashes 4093) (.directory ["work"] smallDirectory) :=
  FileSystem.leadsTo_dotSlashes rfl (by decide)

theorem reaches_smallDirectory : Entry.Reaches smallDirectory ["sub"] (.file "d" []) :=
  .inside (by simp [smallDirectory]) (.here (List.mem_singleton_self _))

end Walk

/-- In the small directory the walk finds the file that is further inside, and it
does not start from the link that leads nowhere. -/
theorem walk_lists_smallSystem :
    Walk.smallSystem.WellNamed ∧
      (∃ paths, walk Walk.smallSystem .standard "." = .ok paths ∧ paths.Nodup ∧
        "./sub/d" ∈ paths) ∧
      ∃ reason,
        walk Walk.smallSystem .standard "c" = .error (.unavailableDirectory "c" reason) := by
  have wellNamed := Walk.smallSystem_wellNamed
  refine ⟨wellNamed, ?_, ?_⟩
  · have toRoot : Walk.smallSystem.LeadsTo "." (.directory ["work"] Walk.smallDirectory) :=
      FileSystem.resolve_eq_ok_iff.mp rfl
    have lists : Walk.Lists Walk.smallSystem .standard "." Walk.smallDirectory ["sub"]
        (.file "d" []) :=
      ⟨Walk.reaches_smallDirectory, trivial, by decide, by decide, by decide⟩
    obtain ⟨paths, walked, nodup, listed⟩ := (walk_lists .standard "." wellNamed).1 _ _ toRoot
    exact ⟨paths, walked, nodup, (listed _).mpr ⟨by decide, _, _, lists, by decide⟩⟩
  · apply (walk_lists .standard "c" wellNamed).2
    intro location entries leadsTo
    have resolved := FileSystem.resolve_eq_ok_iff.mpr leadsTo
    have circle : Walk.smallSystem.resolve "c" = .error .tooManyLinks := rfl
    rw [circle] at resolved
    cases resolved

/-- A directory whose path is too long is not entered, although the path of the root
is not too long and there are no patterns; and a slash at its end does not keep the
path of a directory from being the path of the standard input. -/
theorem walk_passes_over_directories :
    (PathName.dotSlashes 4093 ≠ Walk.standardInput ∧
      Walk.smallSystem.LeadsTo (PathName.dotSlashes 4093)
        (.directory ["work"] Walk.smallDirectory) ∧
      Entry.Reaches Walk.smallDirectory ["sub"] (.file "d" []) ∧
      ∃ paths, walk Walk.smallSystem ⟨[]⟩ (PathName.dotSlashes 4093) = .ok paths ∧
        PathName.below (PathName.dotSlashes 4093) ["sub", "d"] ∉ paths) ∧
      "-/" ≠ Walk.standardInput ∧
        Walk.smallSystem.LeadsTo "-/" (.directory ["work", "-"] [.file "e" []]) ∧
        walk Walk.smallSystem ⟨[]⟩ "-/" = .ok [] := by
  have size : (PathName.dotSlashes 4093).utf8ByteSize = 4094 :=
    PathName.utf8ByteSize_dotSlashes 4092
  have toRoot := Walk.leadsTo_smallDirectory
  have named := toRoot.allWellNamed Walk.smallSystem_wellNamed
  have different := Walk.parts_dotSlashes_ne 4092
  have walked := walk_of_directory ⟨[]⟩ toRoot
  rw [if_neg different] at walked
  refine ⟨⟨fun same => different (congrArg _ same), toRoot, Walk.reaches_smallDirectory, _, walked,
    ?_⟩, by decide, FileSystem.resolve_eq_ok_iff.mp rfl, rfl⟩
  · intro listed
    obtain ⟨directories, leaf, lists, same⟩ :=
      (Walk.mem_ofEntries_iff toRoot.notEmpty _ named.each).mp listed
    have sameNames : ["sub"] ++ ["d"] = directories ++ [leaf.name] :=
      PathName.below_injective _ (by simp) (by simp) (by decide) (lists.noSlash named.each) same
    have entered : directories = ["sub"] := (List.append_inj_left' sameNames rfl).symm
    have short := lists.short (entered ▸ List.cons_ne_nil _ _)
    have long := PathName.utf8ByteSize_add_le_below_singleton (PathName.dotSlashes 4093) "sub"
    rw [entered] at short
    rw [size] at long
    exact absurd (Nat.le_trans long short) (by decide)

end SourceLines
