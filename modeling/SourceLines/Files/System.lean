/-
# File systems

A file system is a tree of directories with files and symbolic links, together
with a working directory from which relative paths start. A path is followed
name by name. A link on the way is replaced by its target; the target starts
from the directory in which the link stands. Only a directory can be followed
further, and a path may lead through at most forty links.
-/

import SourceLines.Files.PathName
import SourceLines.Problem
import SourceLines.Text.Native

namespace SourceLines

/-- What stands in a directory under a name. -/
inductive Entry
  | file (name : String) (content : Bytes)
  | directory (name : String) (entries : List Entry)
  | link (name target : String)

namespace Entry

/-- The name under which the entry stands. -/
def name : Entry → String
  | file name _ => name
  | directory name _ => name
  | link name _ => name

/-- The entry of a directory under a name. -/
def find? (entries : List Entry) (name : String) : Option Entry :=
  entries.find? (·.name == name)

/-- Put an entry into a directory, in place of the one under its name. -/
def put (entry : Entry) : List Entry → List Entry
  | [] => [entry]
  | other :: rest =>
      if other.name = entry.name then entry :: rest else other :: put entry rest

/-- Put an entry into a directory below, which the names lead to. -/
def putBelow (entry : Entry) : List String → List Entry → List Entry
  | [], entries => put entry entries
  | name :: names, entries =>
      entries.map fun
        | directory other inner =>
            if other = name then directory other (putBelow entry names inner)
            else directory other inner
        | other => other

/-- What is in the directory below that the names lead to, without any links. -/
def entriesBelow? : List String → List Entry → Option (List Entry)
  | [], entries => some entries
  | name :: names, entries =>
      match find? entries name with
      | some (directory _ inner) => entriesBelow? names inner
      | _ => none

end Entry

/-- A place in a file system: the names that lead to it from the root. -/
abbrev Location := List String

/-- What a path leads to. -/
inductive Target
  | file (location : Location) (content : Bytes)
  | directory (location : Location) (entries : List Entry)

/-- A tree of files and the place from which relative paths start. -/
structure FileSystem where
  entries : List Entry
  workingDirectory : Location

namespace FileSystem

/-- A file system with one empty directory to work in. -/
def fresh : FileSystem :=
  ⟨[.directory "work" []], ["work"]⟩

/-- How many links a path may lead through. -/
def maxLinks : Nat := 40

/-- How many bytes a name in a path may have. -/
def maxNameBytes : Nat := 255

/-- How many bytes a path may have. -/
def maxPathBytes : Nat := 4095

/-- The path has more bytes than a path may have. -/
def isTooLong (path : String) : Bool :=
  maxPathBytes < path.utf8ByteSize

/-- Follow the pieces of a path from a directory. A link hands the pieces that
are left over to `followLink`, behind those of its target. -/
def followPieces (system : FileSystem)
    (followLink : Location → List String → Except SystemError Target) :
    Location → List String → Except SystemError Target
  | location, [] =>
      match Entry.entriesBelow? location system.entries with
      | some entries => .ok (.directory location entries)
      | none => .error .notFound
  | location, piece :: pieces =>
      if piece = "" || piece = "." then followPieces system followLink location pieces
      else if piece = ".." then followPieces system followLink location.dropLast pieces
      else if maxNameBytes < piece.utf8ByteSize then .error .nameTooLong
      else
        match (Entry.entriesBelow? location system.entries).bind (Entry.find? · piece) with
        | none => .error .notFound
        | some (.directory _ _) =>
            followPieces system followLink (location ++ [piece]) pieces
        | some (.file _ content) =>
            if pieces.isEmpty then .ok (.file (location ++ [piece]) content)
            else .error .notDirectory
        | some (.link _ target) =>
            followLink (if PathName.isAbsolute target then [] else location)
              (PathName.pieces target ++ pieces)

/-- Follow the pieces of a path through so many links at most. -/
def follow (system : FileSystem) : Nat → Location → List String → Except SystemError Target
  | 0 => system.followPieces fun _ _ => .error .tooManyLinks
  | links + 1 => system.followPieces (system.follow links)

/-- What a path that starts at a place leads to. -/
def resolveFrom (system : FileSystem) (location : Location) (path : String) :
    Except SystemError Target :=
  if path = "" then .error .notFound
  else if path.toList.contains '\x00' then .error .zeroInPath
  else if isTooLong path then .error .nameTooLong
  else
    system.follow maxLinks (if PathName.isAbsolute path then [] else location)
      (PathName.pieces path)

/-- What a path leads to. -/
def resolve (system : FileSystem) (path : String) : Except SystemError Target :=
  system.resolveFrom system.workingDirectory path

/-- Why a path that is not a text cannot be followed to its end. All names in the file
system are texts, so it leads nowhere from its first piece that is none. -/
def errorBeyondTexts (system : FileSystem) (path : NativeText) : SystemError :=
  if path.bytes.contains 0 then .zeroInPath
  else if maxPathBytes < path.bytes.length then .nameTooLong
  else
    let pieces := (PathName.cutAt 0x2F path.bytes).map NativeText.mk
    let (front, others) := pieces.span NativeText.isText
    let start := if path.bytes.head? = some 0x2F then [] else system.workingDirectory
    match system.follow maxLinks start (front.filterMap NativeText.toString?) with
    | .error error => error
    | .ok (.file _ _) => .notDirectory
    | .ok (.directory _ _) =>
        if others.head?.any fun piece => maxNameBytes < piece.bytes.length then .nameTooLong
        else .notFound

/-- The content of the file that a path leads to. -/
def read (system : FileSystem) (path : String) : Except SystemError Bytes :=
  match system.resolve path with
  | .ok (.file _ content) => .ok content
  | .ok (.directory _ _) => .error .isDirectory
  | .error error => .error error

/-- The text of the file that a path leads to, which must be UTF-8. -/
def readText (system : FileSystem) (path : String) : Except SystemError Text :=
  match system.read path with
  | .ok content =>
      match decodeStrict? content with
      | some text => .ok text
      | none => .error .notUtf8
  | .error error => .error error

/-- The path leads to a file. -/
def isFile (system : FileSystem) (path : String) : Bool :=
  match system.resolve path with
  | .ok (.file _ _) => true
  | _ => false

/-- Put an entry into the directory at a place. -/
def putAt (system : FileSystem) (location : Location) (entry : Entry) : FileSystem :=
  { system with entries := entry.putBelow location system.entries }

/-- Enter the directories of a path one after another, and make those that are
missing. Answers with the place that is reached. -/
def makeDirectories (system : FileSystem) (location : Location) :
    List String → FileSystem × Location
  | [] => (system, location)
  | name :: names =>
      match system.resolveFrom location name with
      | .ok (.directory inner _) => system.makeDirectories inner names
      | _ =>
          let system := system.putAt location (.directory name [])
          system.makeDirectories (location ++ [name]) names

/-- The place from which the names of a path start. -/
def startOf (system : FileSystem) (path : String) : Location :=
  if PathName.isAbsolute path then [] else system.workingDirectory

/-- The names in a path. -/
def namesOf (path : String) : List String :=
  (PathName.pieces path).filter fun piece => piece != "" && piece != "."

/-- Make a directory, and its parents where they are missing. -/
def makeDirectory (system : FileSystem) (path : String) : FileSystem :=
  (system.makeDirectories (system.startOf path) (namesOf path)).1

/-- Where a file under a name is written. Links under the name are followed, so
many at most; the last one may lead to a name that is not there yet. -/
def placeToWrite (system : FileSystem) (location : Location) (name : String) :
    Nat → Location × String
  | 0 => (location, name)
  | links + 1 =>
      match (Entry.entriesBelow? location system.entries).bind (Entry.find? · name) with
      | some (.link _ target) =>
          let names := namesOf target
          let start := if PathName.isAbsolute target then [] else location
          match names.getLast?, system.follow maxLinks start names.dropLast with
          | some last, .ok (.directory place _) => system.placeToWrite place last links
          | _, _ => (location, name)
      | _ => (location, name)

/-- Write a file. Its parents are made where they are missing, and a link under
its name is followed. -/
def writeFile (system : FileSystem) (path : String) (content : Bytes) : FileSystem :=
  let names := namesOf path
  let (system, location) := system.makeDirectories (system.startOf path) names.dropLast
  match names.getLast? with
  | none => system
  | some name =>
      let (place, last) := system.placeToWrite location name maxLinks
      system.putAt place (.file last content)

/-- Make a symbolic link, and its parents where they are missing. -/
def makeLink (system : FileSystem) (path target : String) : FileSystem :=
  let names := namesOf path
  let (system, location) := system.makeDirectories (system.startOf path) names.dropLast
  match names.getLast? with
  | none => system
  | some name => system.putAt location (.link name target)

end FileSystem

end SourceLines
