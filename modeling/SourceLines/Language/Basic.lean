/-
# Languages and their marks

What the counter knows about a language: how its files are recognised, and by
which marks its comments and string literals start and end. Marks are kept as
bytes, because lines are counted on a file's bytes whatever their encoding is.
No mark contains white space.
-/

import SourceLines.Text.Utf8

namespace SourceLines

/-- The marks around a comment or a string literal. -/
structure Delimiters where
  opening : Bytes
  closing : Bytes

/-- The marks with these texts. -/
def Delimiters.ofStrings (opening closing : String) : Delimiters :=
  ⟨stringBytes opening, stringBytes closing⟩

/-- A block comment, and whether it may hold blocks of its own kind even in a
language whose comments do not nest in general. -/
structure BlockDelimiters extends Delimiters where
  nests : Bool := false

/-- A language, as far as counting its lines goes. -/
structure Language where
  name : String
  /-- Whole file names, in lower case. -/
  fileNames : List String := []
  /-- Extensions without their dot, in lower case. -/
  extensions : List String := []
  /-- First words of a first line that name the interpreter. -/
  shebangs : List String := []
  /-- Interpreters that the environment is asked for. -/
  interpreters : List String := []
  /-- Marks of comments that end with their line. -/
  lineMarks : List Bytes := []
  blocks : List BlockDelimiters := []
  /-- Every block may hold further blocks. -/
  nestsBlocks : Bool := false
  /-- String literals in which a backslash escapes the next mark. -/
  quotes : List Delimiters := []
  /-- String literals without escapes. -/
  verbatimQuotes : List Delimiters := []
  /-- String literals that document the code. -/
  docQuotes : List Delimiters := []
  /-- Everything but white space is a comment. -/
  isLiterate : Bool := false

/-- The mark in front of the bytes, of several the first that stands there. -/
def Delimiters.openedBy? (candidates : List Delimiters) (bytes : Bytes) : Option Delimiters :=
  candidates.find? (·.opening.isPrefixOf bytes)

namespace Language

/-- The block that the bytes open. -/
def blockAt? (language : Language) (bytes : Bytes) : Option BlockDelimiters :=
  language.blocks.find? (·.opening.isPrefixOf bytes)

/-- The bytes start a comment that ends with its line. -/
def startsLineComment (language : Language) (bytes : Bytes) : Bool :=
  language.lineMarks.any (·.isPrefixOf bytes)

/-- The marks that can change what is open. Those of literals without escapes
are not among them: they are noticed only on lines that hold another one. -/
def openings (language : Language) : List Bytes :=
  language.quotes.map (·.opening) ++ language.docQuotes.map (·.opening) ++
    language.blocks.map (·.opening)

end Language

end SourceLines
