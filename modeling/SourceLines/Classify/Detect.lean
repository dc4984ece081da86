/-
# Detecting language and counts

A detector says under which label a file is counted and what its counts are. A
detector of languages is given how to look a language up and how to count its lines;
the generic one does both by the catalogue. The parts of a file that are in other
languages are counted with the rest of the file. Empty and binary files get
their labels before the language is asked for, so that such files are never of
an unknown language. A generated file keeps the counts of its language and
loses only its label.
-/

import SourceLines.Classify.Outcome
import SourceLines.Content.Binary
import SourceLines.Content.Generated
import SourceLines.Files.System
import SourceLines.Language.Counter
import SourceLines.Language.Lookup
import SourceLines.Lines.BlockComment

namespace SourceLines

/-- Something that classifies the file at a path. -/
abbrev Detector := String → Except ClassifyProblem ClassifiedFile

/-- The content of the file at a path that is to be classified. -/
def FileSystem.readForClassification (system : FileSystem) (path : String) :
    Except ClassifyProblem Bytes :=
  match system.read path with
  | .ok content => .ok content
  | .error error => .error (.unreadable path error)

namespace Detector

/-- How many bytes are searched for signs of a generated file. -/
def generatedWindow : Nat := 16 * 1024

/-- Classify a file by its path and its content. -/
def ofContent (counter : Language.Counter) (lookup : Language.Lookup) (path : String)
    (content : Bytes) : Except ClassifyProblem ClassifiedFile :=
  if content.isEmpty then .ok (.pseudo path Label.empty)
  else if Content.looksBinary content then .ok (.pseudo path Label.binary)
  else
    match lookup path content with
    | none => .error (.undetermined path)
    | some language =>
        let isGenerated := Content.looksGenerated (decodeLossy (content.take generatedWindow))
        .ok
          { path
            label := if isGenerated then Label.generated else language.name
            counts := (counter language content).summarise }

/-- The detector for the languages that are looked up and counted in this way. -/
def ofCounter (counter : Language.Counter) (lookup : Language.Lookup) (system : FileSystem) :
    Detector := fun path => do
  ofContent counter lookup path (← system.readForClassification path)

/-- The detector for the languages that are looked up in this way. -/
def ofLookup (lookup : Language.Lookup) (system : FileSystem) : Detector :=
  ofCounter Language.stats lookup system

/-- The detector for the languages of the catalogue. -/
def generic (system : FileSystem) : Detector :=
  ofLookup Language.ofFile? system

/-- The detector for files with block comments, which counts whatever it is
given under one label. -/
def blockComment (system : FileSystem) (label : String) : Detector := fun path => do
  let content ← system.readForClassification path
  return { path, label, counts := BlockComment.count (decodeLossy content) }

end Detector

end SourceLines
