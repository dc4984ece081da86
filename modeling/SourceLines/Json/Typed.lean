/-
# Reading values of a known type

A reader for strings, natural numbers or lists refuses a value of another type
by naming both types. The place of such a failure is after the value that was
found, and before it if that is an array or an object.
-/

import SourceLines.Json.Skip

namespace SourceLines

namespace Json

/-- A reader within some limits. -/
abbrev Reader (α : Type) := Limits → Text → Except Failure (α × Text)

/-- The failure of meeting something else than what is expected. -/
def mismatch (expected : String) (text : Text) : Failure :=
  match readFound text with
  | .ok (found, rest) => ⟨.wrongType found expected, rest, 0⟩
  | .error failure => failure

/-- Read a string, described in this way. -/
def readTypedString (expected : String) : Reader String := fun _ text =>
  match skipSpace text with
  | '"' :: rest => readString rest
  | start => .error (mismatch expected start)

/-- A number as a natural one, or the reason why it is none. -/
def Number.toNatural (number : Number) (expected : String) : Except Cause Nat :=
  match number with
  | .natural magnitude => .ok magnitude
  | .negative magnitude => .error (.wrongValue (.number (.negative magnitude)) expected)
  | .floating value => .error (.wrongType (.number (.floating value)) expected)

/-- Read a natural number, described in this way. -/
def readTypedNatural (expected : String) : Reader Nat := fun _ text => do
  let start := skipSpace text
  let (found, rest) ← readFound start
  match found with
  | .number number =>
      match number.toNatural expected with
      | .ok magnitude => return (magnitude, rest)
      | .error cause => throw ⟨cause, rest, 0⟩
  | found => throw ⟨.wrongType found expected, rest, 0⟩

/-- Read an array by folding a step over its elements. -/
def readArray {σ : Type} (initial : σ) (step : σ → Reader σ) : Reader σ := fun limits text =>
  match skipSpace text with
  | '[' :: rest => do
      let inner ← limits.enter ('[' :: rest)
      let (state, rest) ← foldElements id (step · inner) limits.budget true initial rest
      return (state, ← (closeArray rest).toExcept)
  | start => .error (mismatch "a sequence" start)

/-- Read an object by folding a step over its members. -/
def readObject {σ : Type} (initial : σ) (step : σ → String → Reader σ) : Reader σ :=
  fun limits text =>
    match skipSpace text with
    | '\x7b' :: rest => do
        let inner ← limits.enter ('\x7b' :: rest)
        let member (state : σ) (name : String) (text : Text) := do
          step state name inner (← readColon text)
        let (state, rest) ← foldMembers id member limits.budget true initial rest
        return (state, ← (closeObject rest).toExcept)
    | start => .error (mismatch "a map" start)

/-- Read an array of strings. -/
def readStrings : Reader (List String) := fun limits text => do
  let step (found : List String) : Reader (List String) := fun limits text => do
    let (string, rest) ← readTypedString "a string" limits text
    return (string :: found, rest)
  let (found, rest) ← readArray [] step limits text
  return (found.reverse, rest)

end Json

end SourceLines
