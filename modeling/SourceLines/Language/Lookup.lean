/-
# Recognising the language of a file

A file's name decides first, then its extension. Only a file without any
extension is recognised by its first line, which must then name an interpreter
by itself or through the environment.
-/

import SourceLines.Files.PathName
import SourceLines.Language.Catalogue

namespace SourceLines

namespace Language

/-- A way to look up the language of a file with this path and this content. -/
abbrev Lookup := String → Bytes → Option Language

/-- The first word of a text, which may be empty, and what follows it. -/
def splitWord (text : Text) : Text × Text :=
  (trimStart text).span (!isWhiteSpace ·)

/-- The program through which the environment is asked for an interpreter. -/
def environmentShebang : String := "#!/usr/bin/env"

/-- The language whose interpreter a first line names. The empty word, which a
blank line begins with, is the name of none. -/
def ofShebangLine? (line : Text) : Option Language :=
  let (program, rest) := splitWord line
  match catalogue.find? (·.shebangs.contains (String.ofList program)) with
  | some language => some language
  | none =>
      if String.ofList program = environmentShebang then
        let (interpreter, _) := splitWord rest
        catalogue.find? (·.interpreters.contains (String.ofList interpreter))
      else none

/-- The language whose interpreter the first line of a file names; a first line
that is not UTF-8 names none. -/
def ofShebang? (content : Bytes) : Option Language :=
  (decodeStrict? (content.takeWhile (· != 0x0A))).bind ofShebangLine?

/-- The language of a file with this path and this content. -/
def ofFile? : Lookup := fun path content =>
  match catalogue.find? (·.fileNames.contains (PathName.lowerFileName path)) with
  | some language => some language
  | none =>
      match PathName.extension? path with
      | some extension =>
          let extension := Unicode.lowercaseString extension
          catalogue.find? (·.extensions.contains extension)
      | none => ofShebang? content

end Language

end SourceLines
