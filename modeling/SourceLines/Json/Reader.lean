/-
# Reading arrays, objects and whole texts

Arrays and objects are read by folding a step over their elements or members.
Between two of them there is exactly one comma, and none before the closing
bracket. How often a step is repeated is bounded by a budget, for which the
length of the text is always enough, because every step takes at least one
character. How deeply arrays and objects may be nested is bounded as well.
-/

import SourceLines.Json.Scalar

namespace SourceLines

namespace Json

/-- Bounds on reading: the steps of one array or object, and how many arrays and
objects may still be opened within each other. -/
structure Limits where
  budget : Nat
  depth : Nat

namespace Limits

/-- How many arrays and objects may be opened within each other. -/
def maxDepth : Nat := 127

/-- The bounds for a whole text. -/
def forText (text : Text) : Limits :=
  ⟨text.length + 1, maxDepth⟩

/-- The bounds within an array or object that is opened here. -/
def enter (limits : Limits) (text : Text) : Except Failure Limits :=
  match limits.depth with
  | 0 => .error (.peek .tooDeep text)
  | depth + 1 => .ok { limits with depth }

end Limits

/-- The start of the next element of an array, or nothing before the closing
bracket. -/
def nextElement? (isFirst : Bool) (text : Text) : Except Failure (Option Text) :=
  match skipSpace text with
  | [] => .error (.peek .endOfList [])
  | ']' :: _ => .ok none
  | ',' :: rest =>
      if isFirst then .ok (some (skipSpace text))
      else match skipSpace rest with
        | [] => .error (.peek .endOfValue [])
        | ']' :: rest => .error (.peek .trailingComma (']' :: rest))
        | start => .ok (some start)
  | start =>
      if isFirst then .ok (some start) else .error (.peek .expectedListEnd start)

/-- The text after the opening quote of the next member's name, or nothing
before the closing bracket of an object. -/
def nextName? (isFirst : Bool) (text : Text) : Except Failure (Option Text) :=
  match skipSpace text with
  | [] => .error (.peek .endOfObject [])
  | '\x7d' :: _ => .ok none
  | ',' :: rest =>
      if isFirst then .error (.peek .keyNotString (skipSpace text))
      else match skipSpace rest with
        | [] => .error (.peek .endOfValue [])
        | '\x7d' :: rest => .error (.peek .trailingComma ('\x7d' :: rest))
        | '"' :: rest => .ok (some rest)
        | start => .error (.peek .keyNotString start)
  | '"' :: rest =>
      if isFirst then .ok (some rest) else .error (.peek .expectedObjectEnd ('"' :: rest))
  | start => .error (.peek (if isFirst then .keyNotString else .expectedObjectEnd) start)

/-- The text after the colon behind a member's name. -/
def readColon (text : Text) : Except Failure Text :=
  match skipSpace text with
  | ':' :: rest => .ok rest
  | [] => .error (.peek .endOfObject [])
  | start => .error (.peek .expectedColon start)

/-- What is left of an array or an object after reading its elements: the text
after the closing bracket, or the reason why the bracket is missing. -/
structure Closing where
  rest : Text
  problem : Option Cause := none

/-- Close an array. A comma is read on the way. -/
def closeArray (text : Text) : Closing :=
  match skipSpace text with
  | ']' :: rest => ⟨rest, none⟩
  | [] => ⟨[], some .endOfList⟩
  | ',' :: rest =>
      let start := skipSpace rest
      ⟨start, some (if start.head? = some ']' then .trailingComma else .trailingCharacters)⟩
  | start => ⟨start, some .trailingCharacters⟩

/-- Close an object. -/
def closeObject (text : Text) : Closing :=
  match skipSpace text with
  | '\x7d' :: rest => ⟨rest, none⟩
  | [] => ⟨[], some .endOfObject⟩
  | start => ⟨start, some (if start.head? = some ',' then .trailingComma else .trailingCharacters)⟩

/-- The text after the closing bracket, if it is there. -/
def Closing.toExcept (closing : Closing) : Except Failure Text :=
  match closing.problem with
  | none => .ok closing.rest
  | some cause => .error (.peek cause closing.rest)

/-- Fold a step over the elements of an array, up to its closing bracket. -/
def foldElements {σ ε : Type} (place : Failure → ε) (step : σ → Text → Except ε (σ × Text)) :
    Nat → Bool → σ → Text → Except ε (σ × Text)
  | 0, _, _, text => .error (place (.peek .endOfList text))
  | budget + 1, isFirst, state, text =>
      match nextElement? isFirst text with
      | .error failure => .error (place failure)
      | .ok none => .ok (state, text)
      | .ok (some start) =>
          match step state start with
          | .error fault => .error fault
          | .ok (state, rest) => foldElements place step budget false state rest

/-- Fold a step over the members of an object, up to its closing bracket. The
step is given the name of the member and the text after it. -/
def foldMembers {σ ε : Type} (place : Failure → ε)
    (step : σ → String → Text → Except ε (σ × Text)) :
    Nat → Bool → σ → Text → Except ε (σ × Text)
  | 0, _, _, text => .error (place (.peek .endOfObject text))
  | budget + 1, isFirst, state, text =>
      match nextName? isFirst text with
      | .error failure => .error (place failure)
      | .ok none => .ok (state, text)
      | .ok (some start) =>
          match readString start with
          | .error failure => .error (place failure)
          | .ok (name, rest) =>
              match step state name rest with
              | .error fault => .error fault
              | .ok (state, rest) => foldMembers place step budget false state rest

/-- Read any value, with so many levels of arrays and objects to go. -/
def readValueWithin (budget : Nat) : Nat → Text → Except Failure (Value × Text)
  | depth, text =>
      match skipSpace text with
      | '[' :: rest =>
          match depth with
          | 0 => .error (.peek .tooDeep ('[' :: rest))
          | depth + 1 => do
              let step (items : List Value) (text : Text) := do
                let (item, rest) ← readValueWithin budget depth text
                return (item :: items, rest)
              let (items, rest) ← foldElements id step budget true [] rest
              let rest ← (closeArray rest).toExcept
              return (.array items.reverse, rest)
      | '\x7b' :: rest =>
          match depth with
          | 0 => .error (.peek .tooDeep ('\x7b' :: rest))
          | depth + 1 => do
              let step (members : List (String × Value)) (name : String) (text : Text) := do
                let (value, rest) ← readValueWithin budget depth (← readColon text)
                return ((name, value) :: members, rest)
              let (members, rest) ← foldMembers id step budget true [] rest
              let rest ← (closeObject rest).toExcept
              return (.object members.reverse, rest)
      | start => do
          let (found, rest) ← readFound start
          match found with
          | .null => return (.null, rest)
          | .bool value => return (.bool value, rest)
          | .number value => return (.number value, rest)
          | .string text => return (.string text, rest)
          | .sequence => throw (.peek .expectedValue start)
          | .map => throw (.peek .expectedValue start)

/-- Read any value. -/
def readValue (limits : Limits) (text : Text) : Except Failure (Value × Text) :=
  readValueWithin limits.budget limits.depth text

/-- Nothing but white space may follow the value of a text. -/
def readEnd (text : Text) : Except Failure Unit :=
  match skipSpace text with
  | [] => .ok ()
  | start => .error (.peek .trailingCharacters start)

/-- Read a whole text with a reader for the value in it. -/
def readWhole {α : Type} (read : Limits → Text → Except Failure (α × Text)) (text : Text) :
    Except Failure α := do
  let (value, rest) ← read (.forText text) text
  readEnd rest
  return value

/-- The value of a JSON text. -/
def parse (text : Text) : Except Failure Value :=
  readWhole readValue text

end Json

end SourceLines
