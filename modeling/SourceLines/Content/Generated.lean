/-
# Generated content

Tools that write source files say so near the top. A text counts as generated
when one of its first lines contains such a phrase in any letter case. Letters
are compared as regular expressions compare them without regard to case, so the
long s `ſ` stands for `s`. Here a line ends at `\n` only, which no phrase
contains.
-/

import SourceLines.Text.Search
import SourceLines.Text.Utf8

namespace SourceLines

namespace Content

/-- How many lines at the top are looked at. -/
def generatedWindow : Nat := 15

/-- The phrases that tools leave behind, in lower case. -/
def generatedPhrases : List Text :=
  ["automatically generated", "auto-generated", "autogenerated", "do not edit", "generated by",
    "this is a generated file"].map String.toList

/-- The letter as which a character is compared, exact for the letters of the phrases. -/
def foldLetter (c : Char) : Char :=
  if c = 'ſ' then 's' else c.toLower

/-- The first lines of a text, as many as asked for; past the end of the text
they are empty. -/
def firstLines : Nat → Text → List Text
  | 0, _ => []
  | n + 1, text =>
      text.takeWhile (· != '\n') :: firstLines n ((text.dropWhile (· != '\n')).drop 1)

/-- One of the first lines carries a phrase of generated files. -/
def looksGenerated (text : Text) : Bool :=
  (firstLines generatedWindow text).any fun line =>
    containsAny generatedPhrases (line.map foldLetter)

end Content

end SourceLines
