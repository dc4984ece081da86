/-
# Reading records

A record has named fields in a fixed order. It is read from an object, where the
fields come in any order and other members are passed over, or from an array of
the fields in their order. A field that is given twice in an object, or that is
required and missing, is a fault of the record as a whole: its place is where
the record ends, after an attempt to close it.
-/

import SourceLines.Json.Typed

namespace SourceLines

namespace Json

/-- What goes wrong while an array or object is read: a failure with a place, or
a fault of the whole, met with this text still to be read. -/
inductive Fault
  | placed (failure : Failure)
  | ofWhole (cause : Cause) (rest : Text)

/-- Give a fault its place. A fault of the whole is placed after closing it. -/
def Fault.place (close : Text → Closing) : Fault → Failure
  | .placed failure => failure
  | .ofWhole cause rest => ⟨cause, (close rest).rest, 0⟩

/-- Close what was read, or place its fault. -/
def finish {α : Type} (close : Text → Closing) (result : Except Fault (α × Text)) :
    Except Failure (α × Text) :=
  match result with
  | .error fault => .error (fault.place close)
  | .ok (value, rest) => do return (value, ← (close rest).toExcept)

/-- Read a value and put it into a record. -/
def Reader.into {α β : Type} (read : Reader β) (put : α → β → α) (record : α) : Reader α :=
  fun limits text => do
    let (value, rest) ← read limits text
    return (put record value, rest)

/-- A field of a record: its name, and how its value becomes part of the record. -/
structure Field (α : Type) where
  name : String
  read : α → Reader α

/-- How a record is read. -/
structure RecordFormat (α : Type) where
  /-- What messages call the record. -/
  name : String
  /-- The record before any field is read. -/
  initial : α
  fields : List (Field α)
  /-- No field may be missing. -/
  isComplete : Bool

namespace RecordFormat

variable {α : Type} (format : RecordFormat α)

/-- What messages expect where the record should stand. -/
def expected : String :=
  "struct " ++ format.name

/-- What messages expect where an array has too few elements. -/
def expectedElements : String :=
  format.expected ++ " with " ++ toString format.fields.length ++ " elements"

/-- Read one member into the record, which knows the fields it has. -/
def readMember (limits : Limits) (state : α × List String) (name : String) (text : Text) :
    Except Fault ((α × List String) × Text) :=
  let (record, present) := state
  match format.fields.find? (·.name == name) with
  | none =>
      match (do skipValue limits (← readColon text)) with
      | .ok rest => .ok (state, rest)
      | .error failure => .error (.placed failure)
  | some field =>
      if present.contains name then .error (.ofWhole (.duplicateField name) text)
      else match (do field.read record limits (← readColon text)) with
        | .ok (record, rest) => .ok ((record, name :: present), rest)
        | .error failure => .error (.placed failure)

/-- The first field that is required and missing. -/
def missing? (present : List String) : Option String :=
  if format.isComplete then
    (format.fields.find? fun field => !present.contains field.name).map (·.name)
  else none

/-- Read the members of an object into a record. -/
def readMembers (limits : Limits) (budget : Nat) (text : Text) : Except Fault (α × Text) := do
  let ((record, present), rest) ←
    foldMembers Fault.placed (format.readMember limits) budget true (format.initial, []) text
  match format.missing? present with
  | some name => throw (.ofWhole (.missingField name) rest)
  | none => return (record, rest)

/-- Read the elements of an array into the fields that are left, so many having
been read already. -/
def readElements (limits : Limits) (record : α) :
    Nat → List (Field α) → Text → Except Fault (α × Text)
  | _, [], text => .ok (record, text)
  | count, field :: fields, text =>
      match nextElement? (count == 0) text with
      | .error failure => .error (.placed failure)
      | .ok none =>
          if format.isComplete then
            .error (.ofWhole (.wrongLength count format.expectedElements) text)
          else .ok (record, text)
      | .ok (some start) =>
          match field.read record limits start with
          | .error failure => .error (.placed failure)
          | .ok (record, rest) => readElements limits record (count + 1) fields rest

/-- Read a record. -/
def read : Reader α := fun limits text =>
  match skipSpace text with
  | '\x7b' :: rest => do
      let inner ← limits.enter ('\x7b' :: rest)
      finish closeObject (format.readMembers inner limits.budget rest)
  | '[' :: rest => do
      let inner ← limits.enter ('[' :: rest)
      finish closeArray (format.readElements inner format.initial 0 format.fields rest)
  | start => .error (mismatch format.expected start)

end RecordFormat

end Json

end SourceLines
