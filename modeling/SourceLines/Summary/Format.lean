/-
# Summaries as JSON

A summary is read from a record in which no field may be missing. Languages may
come in any order and more than once; of several totals for one language the
last ones stay. A summary is printed with its languages in order.
-/

import SourceLines.Json.Record
import SourceLines.Summary.Basic

namespace SourceLines

open Json

/-- Read a count. -/
private def readCount : Reader Nat := readTypedNatural "usize"

/-- How the totals of a language are read. -/
def LanguageTotals.format : RecordFormat LanguageTotals where
  name := "LanguageSummary"
  initial := .zero
  isComplete := true
  fields :=
    [ ⟨"code", readCount.into fun totals code => { totals with code }⟩,
      ⟨"comment", readCount.into fun totals comment => { totals with comment }⟩,
      ⟨"blank", readCount.into fun totals blank => { totals with blank }⟩,
      ⟨"string", readCount.into fun totals stringLiteral => { totals with stringLiteral }⟩,
      ⟨"files", readCount.into fun totals files => { totals with files }⟩ ]

/-- The totals of a language as a JSON value. -/
def LanguageTotals.toJson (totals : LanguageTotals) : Value :=
  .object
    [ ("code", .natural totals.code),
      ("comment", .natural totals.comment),
      ("blank", .natural totals.blank),
      ("string", .natural totals.stringLiteral),
      ("files", .natural totals.files) ]

/-- How the tally of files is read. -/
def FileTally.format : RecordFormat FileTally where
  name := "ScanTally"
  initial := .zero
  isComplete := true
  fields :=
    [ ⟨"accepted", readCount.into fun tally accepted => { tally with accepted }⟩,
      ⟨"pseudo_language", readCount.into fun tally pseudoLanguage =>
        { tally with pseudoLanguage }⟩,
      ⟨"data_json", readCount.into fun tally dataJson => { tally with dataJson }⟩,
      ⟨"undetermined", readCount.into fun tally undetermined => { tally with undetermined }⟩,
      ⟨"unreadable", readCount.into fun tally unreadable => { tally with unreadable }⟩ ]

/-- The tally of files as a JSON value. -/
def FileTally.toJson (tally : FileTally) : Value :=
  .object
    [ ("accepted", .natural tally.accepted),
      ("pseudo_language", .natural tally.pseudoLanguage),
      ("data_json", .natural tally.dataJson),
      ("undetermined", .natural tally.undetermined),
      ("unreadable", .natural tally.unreadable) ]

/-- Read an object whose members are the values under their labels. -/
def LabelMap.read {α : Type} (readItem : Reader α) : Reader (LabelMap α) :=
  readObject .empty fun map label => readItem.into (·.insert label ·) map

/-- Read an array of labels as a set. -/
def LabelSet.read : Reader LabelSet :=
  readArray .empty ((readTypedString "a string").into fun labels label => labels.insert label ())

namespace Summary

/-- How a summary is read. -/
def format : RecordFormat Summary where
  name := "AggregateSummary"
  initial := .empty
  isComplete := true
  fields :=
    [ ⟨"total_code", readCount.into fun summary totalCode => { summary with totalCode }⟩,
      ⟨"total_comment", readCount.into fun summary totalComment =>
        { summary with totalComment }⟩,
      ⟨"total_blank", readCount.into fun summary totalBlank => { summary with totalBlank }⟩,
      ⟨"languages_seen", LabelSet.read.into fun summary languagesSeen =>
        { summary with languagesSeen }⟩,
      ⟨"per_language", (LabelMap.read LanguageTotals.format.read).into
        fun summary perLanguage => { summary with perLanguage }⟩,
      ⟨"tally", FileTally.format.read.into fun summary tally => { summary with tally }⟩ ]

/-- The summary that a JSON text gives. -/
def parse (text : Text) : Except Failure Summary :=
  readWhole format.read text

/-- A summary as a JSON value. -/
def toJson (summary : Summary) : Value :=
  .object
    [ ("total_code", .natural summary.totalCode),
      ("total_comment", .natural summary.totalComment),
      ("total_blank", .natural summary.totalBlank),
      ("languages_seen", .strings summary.languages),
      ("per_language", .object
        (summary.perLanguage.entries.map fun (label, totals) => (label, totals.toJson))),
      ("tally", summary.tally.toJson) ]

end Summary

end SourceLines
