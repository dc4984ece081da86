/-
# The outcome for one file

Looking at a file ends in one of two ways. Either it is classified, that is, its
lines are counted under a label, or it is skipped for a reason. A file whose
label is a pseudo-language is classified too; it is left out of the totals only
when outcomes are summed up.
-/

import SourceLines.Label
import SourceLines.Lines.Counts

namespace SourceLines

/-- A file with its label and its counts. -/
structure ClassifiedFile where
  path : String
  label : String
  counts : LineCounts
  deriving DecidableEq, Repr

namespace ClassifiedFile

/-- A file under a pseudo-language, of which nothing is counted. -/
def pseudo (path label : String) : ClassifiedFile :=
  ⟨path, label, .zero⟩

/-- The label names no language. -/
def isPseudo (file : ClassifiedFile) : Bool :=
  Label.isPseudo file.label

/-- The same file under another label. -/
def relabel (file : ClassifiedFile) (label : String) : ClassifiedFile :=
  { file with label }

end ClassifiedFile

/-- Why a file is not counted. -/
inductive SkipReason
  /-- It is JSON that holds data and not settings. -/
  | dataJson
  /-- Its language is not known. -/
  | undetermined
  /-- It cannot be read. -/
  | unreadable
  deriving DecidableEq, Repr

/-- What became of a file. -/
inductive Outcome
  | classified (file : ClassifiedFile)
  | skipped (reason : SkipReason)
  deriving DecidableEq, Repr

end SourceLines
