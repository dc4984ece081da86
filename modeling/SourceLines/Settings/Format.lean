/-
# Settings as JSON

Settings are read as a record of records in which every field may be missing and
then keeps its standard value. What is given replaces the standard value as a
whole, also where that is a list. Settings are printed with all their fields.
-/

import SourceLines.Json.Record
import SourceLines.Settings.Basic

namespace SourceLines

open Json

/-- How the rule for files with block comments is read. -/
def BlockRule.format : RecordFormat BlockRule where
  name := "BlockCommentRule"
  initial := .standard
  isComplete := false
  fields :=
    [ ⟨"extension", (readTypedString "a string").into fun rule extension =>
        { rule with extension }⟩,
      ⟨"label", (readTypedString "a string").into fun rule label => { rule with label }⟩ ]

/-- How the rules for JSON files are read. -/
def JsonRules.format : RecordFormat JsonRules where
  name := "JsonHeuristics"
  initial := .standard
  isComplete := false
  fields :=
    [ ⟨"array_threshold", (readTypedNatural "usize").into fun rules arrayThreshold =>
        { rules with arrayThreshold }⟩,
      ⟨"size_threshold_bytes", (readTypedNatural "u64").into fun rules sizeThreshold =>
        { rules with sizeThreshold }⟩,
      ⟨"data_keywords", readStrings.into fun rules dataKeywords => { rules with dataKeywords }⟩,
      ⟨"config_keywords", readStrings.into fun rules configKeywords =>
        { rules with configKeywords }⟩,
      ⟨"config_label", (readTypedString "a string").into fun rules configLabel =>
        { rules with configLabel }⟩ ]

namespace Settings

/-- How settings are read. -/
def format : RecordFormat Settings where
  name := "ScanConfig"
  initial := .standard
  isComplete := false
  fields :=
    [ ⟨"ignore", readStrings.into fun settings patterns =>
        { settings with ignore := ⟨patterns⟩ }⟩,
      ⟨"block_comment", BlockRule.format.read.into fun settings blockComment =>
        { settings with blockComment }⟩,
      ⟨"json", JsonRules.format.read.into fun settings json => { settings with json }⟩ ]

/-- The settings that a JSON text gives. -/
def parse (text : Text) : Except Failure Settings :=
  readWhole format.read text

/-- Settings as a JSON value. -/
def toJson (settings : Settings) : Value :=
  .object
    [ ("ignore", .strings settings.ignore.patterns),
      ("block_comment", .object
        [ ("extension", .string settings.blockComment.extension),
          ("label", .string settings.blockComment.label) ]),
      ("json", .object
        [ ("array_threshold", .natural settings.json.arrayThreshold),
          ("size_threshold_bytes", .natural settings.json.sizeThreshold),
          ("data_keywords", .strings settings.json.dataKeywords),
          ("config_keywords", .strings settings.json.configKeywords),
          ("config_label", .string settings.json.configLabel) ]) ]

end Settings

end SourceLines
