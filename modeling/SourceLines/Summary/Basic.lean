/-
# Summaries

A summary adds up the outcomes of many files: totals over all of them, totals
for every language, and how many files there were of each sort. Outcomes may be
added one at a time, and two summaries may be merged. A file under a
pseudo-language is only counted as such.
-/

import SourceLines.Classify.Outcome
import SourceLines.Summary.LabelMap

namespace SourceLines

/-- The totals of one language. -/
structure LanguageTotals where
  code : Nat
  comment : Nat
  blank : Nat
  stringLiteral : Nat
  files : Nat
  deriving DecidableEq, Repr

namespace LanguageTotals

/-- The totals of no files. -/
def zero : LanguageTotals := ⟨0, 0, 0, 0, 0⟩

/-- The totals of one file. -/
def ofCounts (counts : LineCounts) : LanguageTotals :=
  ⟨counts.code, counts.comment, counts.blank, counts.stringLiteral, 1⟩

/-- Totals add up field by field. -/
def add (first second : LanguageTotals) : LanguageTotals where
  code := first.code + second.code
  comment := first.comment + second.comment
  blank := first.blank + second.blank
  stringLiteral := first.stringLiteral + second.stringLiteral
  files := first.files + second.files

instance : Add LanguageTotals := ⟨add⟩

/-- Totals, added to those that may be there already. -/
def addTo (present : Option LanguageTotals) (totals : LanguageTotals) : LanguageTotals :=
  present.getD zero + totals

end LanguageTotals

/-- How many files there were of each sort. -/
structure FileTally where
  accepted : Nat
  pseudoLanguage : Nat
  dataJson : Nat
  undetermined : Nat
  unreadable : Nat
  deriving DecidableEq, Repr

namespace FileTally

/-- No files. -/
def zero : FileTally := ⟨0, 0, 0, 0, 0⟩

/-- Tallies add up sort by sort. -/
def add (first second : FileTally) : FileTally where
  accepted := first.accepted + second.accepted
  pseudoLanguage := first.pseudoLanguage + second.pseudoLanguage
  dataJson := first.dataJson + second.dataJson
  undetermined := first.undetermined + second.undetermined
  unreadable := first.unreadable + second.unreadable

instance : Add FileTally := ⟨add⟩

/-- All files, of whatever sort. -/
def filesSeen (tally : FileTally) : Nat :=
  tally.accepted + tally.pseudoLanguage + tally.dataJson + tally.undetermined + tally.unreadable

/-- The tally with one more file that was skipped. -/
def countSkipped (tally : FileTally) : SkipReason → FileTally
  | .dataJson => { tally with dataJson := tally.dataJson + 1 }
  | .undetermined => { tally with undetermined := tally.undetermined + 1 }
  | .unreadable => { tally with unreadable := tally.unreadable + 1 }

end FileTally

/-- What many files add up to. -/
structure Summary where
  totalCode : Nat
  totalComment : Nat
  totalBlank : Nat
  languagesSeen : LabelSet
  perLanguage : LabelMap LanguageTotals
  tally : FileTally
  deriving DecidableEq, Repr

/-- One line of a table of languages. -/
structure LanguageRow where
  language : String
  code : Nat
  comment : Nat
  blank : Nat
  deriving DecidableEq, Repr

namespace Summary

/-- The summary of no files. -/
def empty : Summary :=
  ⟨0, 0, 0, .empty, .empty, .zero⟩

/-- Add a classified file. Under a pseudo-language only the file is counted. A
language is noted as seen when its totals are opened. -/
def add (summary : Summary) (file : ClassifiedFile) : Summary :=
  let { label, counts, .. } := file
  if file.isPseudo then
    { summary with
      tally := { summary.tally with pseudoLanguage := summary.tally.pseudoLanguage + 1 } }
  else
    { totalCode := summary.totalCode + counts.code
      totalComment := summary.totalComment + counts.comment
      totalBlank := summary.totalBlank + counts.blank
      languagesSeen :=
        if summary.perLanguage.contains label then summary.languagesSeen
        else summary.languagesSeen.insert label ()
      perLanguage := summary.perLanguage.alter label (LanguageTotals.addTo · (.ofCounts counts))
      tally := { summary.tally with accepted := summary.tally.accepted + 1 } }

/-- A file is accepted, that is, its counts are added, unless its label names no
language. -/
def accepts (file : ClassifiedFile) : Bool :=
  !file.isPseudo

/-- Count a file that was skipped. -/
def exclude (summary : Summary) (reason : SkipReason) : Summary :=
  { summary with tally := summary.tally.countSkipped reason }

/-- Add the outcome for a file. -/
def observe (summary : Summary) : Outcome → Summary
  | .classified file => summary.add file
  | .skipped reason => summary.exclude reason

/-- Add outcomes one after another. -/
def observeAll (summary : Summary) (outcomes : List Outcome) : Summary :=
  outcomes.foldl observe summary

/-- The summary of some outcomes. -/
def ofOutcomes (outcomes : List Outcome) : Summary :=
  empty.observeAll outcomes

/-- The summary of the files behind two summaries. -/
def merge (summary other : Summary) : Summary where
  totalCode := summary.totalCode + other.totalCode
  totalComment := summary.totalComment + other.totalComment
  totalBlank := summary.totalBlank + other.totalBlank
  languagesSeen := summary.languagesSeen.merge (fun _ seen => seen) other.languagesSeen
  perLanguage := summary.perLanguage.merge LanguageTotals.addTo other.perLanguage
  tally := summary.tally + other.tally

/-- The totals of a language. -/
def language? (summary : Summary) (label : String) : Option LanguageTotals :=
  summary.perLanguage.find? label

/-- No language has any files. -/
def isEmpty (summary : Summary) : Bool :=
  summary.perLanguage.isEmpty

/-- The languages seen, in order. -/
def languages (summary : Summary) : List String :=
  summary.languagesSeen.labels

/-- The languages seen, in one line. -/
def languagesLine (summary : Summary) : String :=
  ", ".intercalate summary.languages

/-- The table of languages, in the order of their labels. -/
def breakdown (summary : Summary) : List LanguageRow :=
  summary.perLanguage.entries.map fun (language, totals) =>
    ⟨language, totals.code, totals.comment, totals.blank⟩

end Summary

end SourceLines
