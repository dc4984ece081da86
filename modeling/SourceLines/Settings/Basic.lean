/-
# Settings

Settings say which directories and files are passed over, which files are read
as a language with block comments, and when a JSON file is data rather than
settings of its own. Each part has a value that holds where nothing else is said.
-/

import SourceLines.Label
import SourceLines.Text.Quoted
import SourceLines.Text.Search
import SourceLines.Text.Utf8

namespace SourceLines

/-- Texts that mark what is passed over. -/
structure IgnoreList where
  patterns : List String
  deriving DecidableEq, Repr

namespace IgnoreList

/-- Version control, dependencies and build output. -/
def standard : IgnoreList :=
  ⟨[".git", "node_modules", "bin", "obj", ".vs"]⟩

/-- The text contains one of the patterns. -/
def matchesText (ignore : IgnoreList) (text : String) : Bool :=
  ignore.patterns.any (containsString · text)

/-- A directory of this name is not entered. -/
def prunesDirectory (ignore : IgnoreList) (name : String) : Bool :=
  ignore.matchesText name

/-- A file with this path is not looked at. -/
def skipsPath (ignore : IgnoreList) (path : String) : Bool :=
  ignore.matchesText path

end IgnoreList

/-- Which files are read as a language with block comments, and under which
label they are counted. -/
structure BlockRule where
  extension : String
  label : String
  deriving DecidableEq, Repr

/-- The standard rule for files with block comments. -/
def BlockRule.standard : BlockRule :=
  ⟨".al", "AL"⟩

/-- When a JSON file is data, and under which label it is counted otherwise. -/
structure JsonRules where
  /-- Longer arrays are data. -/
  arrayThreshold : Nat
  /-- Larger files are data. -/
  sizeThreshold : Nat
  /-- Names that speak for data. -/
  dataKeywords : List String
  /-- Names that speak against data, whatever else does for it. -/
  configKeywords : List String
  configLabel : String
  deriving DecidableEq, Repr

/-- The standard rules for JSON files. -/
def JsonRules.standard : JsonRules where
  arrayThreshold := 20
  sizeThreshold := 100 * 1024
  dataKeywords := ["data", "export", "dump", "records", "rows", "backup"]
  configKeywords :=
    ["package.json", "tsconfig", "jsconfig", "settings", "config", "launch", "tasks", "manifest",
      "schema", ".eslintrc", ".prettierrc", "appsettings", "web.config"]
  configLabel := "JSON (config)"

/-- The settings of a scan. -/
structure Settings where
  ignore : IgnoreList
  blockComment : BlockRule
  json : JsonRules
  deriving DecidableEq, Repr

/-- The settings that hold where nothing else is said. -/
def Settings.standard : Settings :=
  ⟨.standard, .standard, .standard⟩

/-- Why settings are refused. -/
inductive SettingsFault
  | emptyPattern
  | badExtension
  | emptyLabel
  | emptyConfigLabel
  | reservedLabel (label : String)
  | zeroSize
  deriving DecidableEq, Repr

/-- The wording of a fault of settings. -/
def SettingsFault.message : SettingsFault → String
  | emptyPattern => "ignore patterns must not be empty strings"
  | badExtension => "block_comment.extension must look like \".al\""
  | emptyLabel => "block_comment.label must not be empty"
  | emptyConfigLabel => "json.config_label must not be empty"
  | reservedLabel label => "label " ++ quoted label ++ " is reserved for pseudo-languages"
  | zeroSize => "json.size_threshold_bytes must be greater than zero"

namespace Settings

/-- An extension is a dot and something after it. -/
def isExtension (text : String) : Bool :=
  text.toList.head? == some '.' && 2 ≤ text.utf8ByteSize

/-- The first fault of the settings, if there is one. -/
def fault? (settings : Settings) : Option SettingsFault :=
  if settings.ignore.patterns.any (· == "") then some .emptyPattern
  else if !isExtension settings.blockComment.extension then some .badExtension
  else if isBlank settings.blockComment.label.toList then some .emptyLabel
  else if isBlank settings.json.configLabel.toList then some .emptyConfigLabel
  else if Label.isPseudo settings.blockComment.label then
    some (.reservedLabel settings.blockComment.label)
  else if Label.isPseudo settings.json.configLabel then
    some (.reservedLabel settings.json.configLabel)
  else if settings.json.sizeThreshold = 0 then some .zeroSize
  else none

end Settings

end SourceLines
