/-
# Routing files

The ending of a file's name in lower case decides how the file is classified.
Files with the extension for block comments are counted as such, whatever their
content. JSON files are settings or data: data is skipped, and settings are
counted generically under a label of their own. All other files go to the generic
detector.
-/

import SourceLines.Classify.Detect
import SourceLines.Classify.JsonKind

namespace SourceLines

/-- How a file is classified. -/
inductive Route
  | blockComment
  | json
  | generic
  deriving DecidableEq, Repr

/-- What names of JSON files end with. -/
def Route.jsonExtension : String := ".json"

/-- The route of the file at a path. -/
def Settings.route (settings : Settings) (path : String) : Route :=
  let name := PathName.lowerFileName path
  if endsWithString (Unicode.lowercaseString settings.blockComment.extension) name then
    .blockComment
  else if endsWithString Route.jsonExtension name then .json
  else .generic

/-- Classify a JSON file: data is skipped, and settings get a label of their own
unless the detector finds a pseudo-language. -/
def JsonRules.classify (rules : JsonRules) (system : FileSystem) (detect : Detector)
    (path : String) : Except ClassifyProblem Outcome := do
  let content ← system.readForClassification path
  match rules.decide path content with
  | .data => return .skipped .dataJson
  | .config =>
      let file ← detect path
      return .classified (if file.isPseudo then file else file.relabel rules.configLabel)

/-- The reason for skipping a file that could not be classified. -/
def ClassifyProblem.skipReason (problem : ClassifyProblem) : SkipReason :=
  if problem.isExpected then .undetermined else .unreadable

namespace Settings

/-- Classify a file on its route, or say why that is not possible. -/
def classify? (settings : Settings) (system : FileSystem) (detect : Detector) (path : String) :
    Except ClassifyProblem Outcome :=
  match settings.route path with
  | .blockComment =>
      .classified <$> Detector.blockComment system settings.blockComment.label path
  | .json => settings.json.classify system detect path
  | .generic => .classified <$> detect path

/-- The outcome for a file, with this detector for what is not special. -/
def classifyWith (settings : Settings) (system : FileSystem) (detect : Detector)
    (path : String) : Outcome :=
  match settings.classify? system detect path with
  | .ok outcome => outcome
  | .error problem => .skipped problem.skipReason

/-- The outcome for a file. -/
def classify (settings : Settings) (system : FileSystem) (path : String) : Outcome :=
  settings.classifyWith system (Detector.generic system) path

end Settings

end SourceLines
