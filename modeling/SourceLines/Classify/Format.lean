/-
# Classified files as JSON

A classified file is one flat object: its path, its label under the name
`language` and its counts. Path and label are checked where they stand. The
values of all other members are first read as they are; only when the object has
been read to its end are the counts looked for among them, in the order in which
they were given.
-/

import SourceLines.Classify.Outcome
import SourceLines.Json.Record

namespace SourceLines

open Json

/-- One count in a classified file: its name, and how it is set. -/
structure CountField where
  name : String
  set : LineCounts → Nat → LineCounts

/-- The counts in a classified file. -/
def LineCounts.fields : List CountField :=
  [ ⟨"code", fun counts code => { counts with code }⟩,
    ⟨"comment", fun counts comment => { counts with comment }⟩,
    ⟨"blank", fun counts blank => { counts with blank }⟩,
    ⟨"string_literal", fun counts stringLiteral => { counts with stringLiteral }⟩ ]

namespace ClassifiedFile

/-- What has been read of a classified file; other members in reverse. -/
structure Partial where
  path : Option String := none
  label : Option String := none
  others : List (String × Value) := []

/-- Read one member. -/
def readMember (limits : Limits) (state : Partial) (name : String) (text : Text) :
    Except Fault (Partial × Text) :=
  let read {α : Type} (present : Bool) (reader : Reader α) (put : α → Partial) :
      Except Fault (Partial × Text) :=
    if present then .error (.ofWhole (.duplicateField name) text)
    else match (do reader limits (← readColon text)) with
      | .ok (value, rest) => .ok (put value, rest)
      | .error failure => .error (.placed failure)
  if name = "path" then
    read state.path.isSome (readTypedString "path string") fun path =>
      { state with path := some path }
  else if name = "language" then
    read state.label.isSome (readTypedString "a string") fun label =>
      { state with label := some label }
  else
    read false readValue fun value => { state with others := (name, value) :: state.others }

/-- A value as a count. -/
def countOf (value : Value) : Except Cause Nat :=
  match value with
  | .number number => number.toNatural "usize"
  | value => .error (.wrongType value.found "usize")

/-- Set the counts that are among the members, one after another. -/
def setCounts (counts : LineCounts) (present : List String) :
    List (String × Value) → Except Cause LineCounts
  | [] =>
      match LineCounts.fields.find? fun field => !present.contains field.name with
      | some field => .error (.missingField field.name)
      | none => .ok counts
  | (name, value) :: members =>
      match LineCounts.fields.find? (·.name == name) with
      | none => setCounts counts present members
      | some field =>
          if present.contains name then .error (.duplicateField name)
          else do setCounts (field.set counts (← countOf value)) (name :: present) members

/-- The classified file that has been read. -/
def Partial.complete (state : Partial) : Except Cause ClassifiedFile := do
  let some path := state.path | throw (.missingField "path")
  let some label := state.label | throw (.missingField "language")
  return { path, label, counts := ← setCounts .zero [] state.others.reverse }

/-- Read the members of a classified file. -/
def readMembers (limits : Limits) (budget : Nat) (text : Text) :
    Except Fault (ClassifiedFile × Text) := do
  let (state, rest) ← foldMembers Fault.placed (readMember limits) budget true {} text
  match state.complete with
  | .ok file => return (file, rest)
  | .error cause => throw (.ofWhole cause rest)

/-- Read a classified file. -/
def read : Reader ClassifiedFile := fun limits text =>
  match skipSpace text with
  | '\x7b' :: rest => do
      let inner ← limits.enter ('\x7b' :: rest)
      finish closeObject (readMembers inner limits.budget rest)
  | start => .error (mismatch "struct FileClassification" start)

/-- The classified file that a JSON text gives. -/
def parse (text : Text) : Except Failure ClassifiedFile :=
  readWhole read text

/-- A classified file as a JSON value. -/
def toJson (file : ClassifiedFile) : Value :=
  .object
    [ ("path", .string file.path),
      ("language", .string file.label),
      ("code", .natural file.counts.code),
      ("comment", .natural file.counts.comment),
      ("blank", .natural file.counts.blank),
      ("string_literal", .natural file.counts.stringLiteral) ]

end ClassifiedFile

end SourceLines
