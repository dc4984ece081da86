/-
# Path names

A path is a string whose parts are separated by slashes. Repeated slashes,
slashes at the end and dots between other parts say nothing; only a dot in
front is a part of its own. The file name is the last part, if that is a name,
and the extension is what follows the last dot of the file name, unless that
dot is its first character.
-/

import SourceLines.Text.Search
import SourceLines.Unicode.Lowercase

namespace SourceLines

/-- A part of a path. -/
inductive PathPart
  | root
  | current
  | parent
  | name (text : String)
  deriving DecidableEq, Repr

namespace PathName

/-- Cut a text, or bytes, at a separator, which belongs to no piece. -/
def cutAt {α : Type} [DecidableEq α] (separator : α) : List α → List (List α)
  | [] => [[]]
  | c :: rest =>
      if c = separator then [] :: cutAt separator rest
      else match cutAt separator rest with
        | [] => [[c]]
        | piece :: pieces => (c :: piece) :: pieces

/-- The pieces of a path between its slashes. -/
def pieces (path : String) : List String :=
  (cutAt '/' path.toList).map String.ofList

/-- The path starts at the root of the file system. -/
def isAbsolute (path : String) : Bool :=
  path.toList.head? == some '/'

/-- The parts of a path; equal parts mean equal paths. -/
def parts (path : String) : List PathPart :=
  let lead :=
    if isAbsolute path then [.root]
    else if (pieces path).head? == some "." then [.current]
    else []
  let names := (pieces path).filter fun piece => piece != "" && piece != "."
  lead ++ names.map fun piece => if piece = ".." then .parent else .name piece

/-- The last part of a path, if it is a name. -/
def fileName? (path : String) : Option String :=
  match (parts path).getLast? with
  | some (.name text) => some text
  | _ => none

/-- What follows the last dot of a file name, unless the dot comes first. -/
def extension? (path : String) : Option String :=
  match fileName? path with
  | none => none
  | some name =>
      let reversed := name.toList.reverse
      match reversed.dropWhile (· != '.') with
      | _ :: _ :: _ => some (String.ofList (reversed.takeWhile (· != '.')).reverse)
      | _ => none

/-- The file name in lower case, empty where there is none. -/
def lowerFileName (path : String) : String :=
  match fileName? path with
  | some name => Unicode.lowercaseString name
  | none => ""

/-- The path of something in a directory: a slash separates the two texts unless
the first one ends with a slash. An empty text adds nothing in front. -/
def join (directory name : String) : String :=
  if directory = "" || endsWithString "/" directory then directory ++ name
  else directory ++ "/" ++ name

end PathName

end SourceLines
