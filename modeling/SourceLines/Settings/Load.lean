/-
# Loading settings

Settings come from a JSON file, if one is named, and are the standard ones
otherwise. The extension of the file says what its text is taken for. A file
that cannot be read, a text that cannot be parsed and settings that are refused
are three different problems; only the second one names the file as its context.
-/

import SourceLines.Files.System
import SourceLines.Settings.Format

namespace SourceLines

namespace Settings

/-- A text as an ASCII lower-case form. -/
private def lowerAscii (text : String) : String :=
  String.ofList (text.toList.map Char.toLower)

/-- The extension says that the text is YAML, which is not supported. -/
def isYamlPath (path : String) : Bool :=
  match PathName.extension? path with
  | some extension => ["yaml", "yml"].contains (lowerAscii extension)
  | none => false

/-- The settings in the text of a file. -/
def parseFile (path : String) (text : Text) : Except Problem Settings :=
  if isYamlPath path then .error (.malformedInput "YAML" "built without the `yaml` feature")
  else
    match parse text with
    | .ok settings => .ok settings
    | .error failure => .error (.malformedInput "JSON" (failure.message text))

/-- Settings that hold no fault. -/
def check (settings : Settings) : Except Problem Settings :=
  match settings.fault? with
  | none => .ok settings
  | some fault => .error (.invalidSettings fault.message)

/-- The settings in a file, or the standard ones if no file is named. -/
def load (system : FileSystem) : Option String → Except Problem Settings
  | none => .ok .standard
  | some path =>
      match system.readText path with
      | .error error => .error (.unreadableFile path error)
      | .ok text =>
          match parseFile path text with
          | .error problem => .error (.within ("invalid config file " ++ path) problem)
          | .ok settings => settings.check

/-- The settings in the file that an argument names, if there is one. -/
def loadNamed (system : FileSystem) (name : Option NativeText) : Except Problem Settings :=
  match name with
  | none => load system none
  | some native =>
      match native.toString? with
      | some path => load system (some path)
      | none => .error (.unreadableFile native.display (system.errorBeyondTexts native))

end Settings

end SourceLines
