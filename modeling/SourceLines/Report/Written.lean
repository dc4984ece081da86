/-
# What is written of a report

A report is written from its beginning, and what cannot be written stops the writing
there: what has been written stays, and nothing follows. JSON has no place for a path
that is not UTF-8. The printer that fills texts up with spaces has a greatest width.
-/

namespace SourceLines

/-- What stops the writing of a report. -/
inductive WriteFault
  /-- A path that is to be written is not UTF-8. -/
  | pathNotUtf8
  /-- A text is to be filled up to a width that the printer does not take. -/
  | widthOutOfRange
  deriving DecidableEq, Repr

/-- The wording of a fault. -/
def WriteFault.message : WriteFault → String
  | pathNotUtf8 => "path contains invalid UTF-8 characters"
  | widthOutOfRange => "Formatting argument out of range"

/-- What has been written, and what has stopped the writing if anything has. -/
structure Written where
  text : String
  fault : Option WriteFault
  deriving DecidableEq, Repr

/-- Lines as a text, with a line break after every line. -/
def textOf (lines : List String) : String :=
  String.join (lines.map (· ++ "\n"))

namespace Written

/-- The whole of a text. -/
def whole (text : String) : Written := ⟨text, none⟩

/-- Nothing, because the writing stops at once. -/
def stopped (fault : WriteFault) : Written := ⟨"", some fault⟩

/-- The whole of some lines. -/
def ofLines (lines : List String) : Written :=
  whole (textOf lines)

/-- One thing is written after another, unless the first one stops the writing. -/
def append (first second : Written) : Written :=
  match first.fault with
  | none => ⟨first.text ++ second.text, second.fault⟩
  | some _ => first

instance : Append Written := ⟨append⟩

end Written

end SourceLines
