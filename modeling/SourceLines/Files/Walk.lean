/-
# Walking a directory

A walk lists the files below a root. It enters every directory whose name
contains no ignore pattern and whose path is not too long to be followed, but
never a linked one; the root itself may be a link, and its own name is not
tested. It lists every file and every link to a file, unless the whole path
contains a pattern. The text of the root stays in front of the paths as it was
given.
-/

import SourceLines.Files.System
import SourceLines.Settings.Basic

namespace SourceLines

namespace Walk

variable (system : FileSystem) (ignore : IgnoreList)

mutual

/-- The candidates at an entry of the directory with this path. -/
def ofEntry (path : String) : Entry → List String
  | .file name _ => listed (PathName.join path name)
  | .link name _ =>
      if system.isFile (PathName.join path name) then listed (PathName.join path name) else []
  | .directory name entries =>
      if ignore.prunesDirectory name || FileSystem.isTooLong (PathName.join path name) then []
      else ofEntries (PathName.join path name) entries
where
  /-- The path itself, unless it is to be skipped. -/
  listed (path : String) : List String :=
    if ignore.skipsPath path then [] else [path]

/-- The candidates at the entries of the directory with this path. -/
def ofEntries (path : String) : List Entry → List String
  | [] => []
  | entry :: entries => ofEntry path entry ++ ofEntries path entries

end

/-- A root with this path stands for the standard input, which holds no files. -/
def standardInput : String := "-"

end Walk

/-- The files below a root that are to be looked at. -/
def walk (system : FileSystem) (ignore : IgnoreList) (root : String) :
    Except Problem (List String) :=
  match system.resolve root with
  | .error error => .error (.unavailableDirectory root error.message)
  | .ok (.file _ _) => .error (.unavailableDirectory root "not a directory")
  | .ok (.directory _ entries) =>
      if PathName.parts root = PathName.parts Walk.standardInput then .ok []
      else .ok (Walk.ofEntries system ignore root entries)

end SourceLines
