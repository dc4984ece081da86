/-
# Language labels

A file is counted under a label, which mostly is the name of its language. Five
labels name no language: they say that a file was looked at and why it is not
counted. Such a pseudo-language is recognised by its exact text.
-/

namespace SourceLines

namespace Label

/-- Content that is not text. -/
def binary : String := "__binary__"

/-- Content that could not be counted. -/
def error : String := "__error__"

/-- Content in a language that is not known. -/
def unknown : String := "__unknown__"

/-- No content. -/
def empty : String := "__empty__"

/-- Content that a tool has written. -/
def generated : String := "__generated__"

/-- The labels that name no language. -/
def pseudoLanguages : List String := [binary, error, unknown, empty, generated]

/-- The label names no language. -/
def isPseudo (label : String) : Bool :=
  pseudoLanguages.contains label

end Label

end SourceLines
