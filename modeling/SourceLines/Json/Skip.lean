/-
# Skipping a value

A member that nobody asks for is passed over without being read. Brackets must
match and strings and numbers must have their form, but escapes by code are not
paired, the size of numbers does not matter, and nesting has no limit: the
brackets that are open are kept in a list.
-/

import SourceLines.Json.Reader

namespace SourceLines

namespace Json

namespace Skip

/-- Pass over a string, from after its opening quote on, when an escape has taken
so many characters already. -/
def stringFrom : Nat → Text → Except Failure Text
  | _, [] => .error ⟨.endOfString, [], 0⟩
  | taken + 1, _ :: rest => stringFrom taken rest
  | 0, '"' :: rest => .ok rest
  | 0, '\\' :: 'u' :: rest =>
      match readHexQuad rest with
      | .ok _ => stringFrom 4 rest
      | .error failure => .error failure
  | 0, '\\' :: c :: rest =>
      if (shortEscape? c).isSome then stringFrom 0 rest
      else .error (.peek .invalidEscape (c :: rest))
  | 0, c :: rest =>
      if c = '\\' then .error ⟨.endOfString, [], 0⟩
      else if c < ' ' then .error ⟨.controlCharacter, c :: rest, 0⟩
      else stringFrom 0 rest

/-- Pass over an exponent, from after its letter on. -/
def exponent (text : Text) : Except Failure Text :=
  let digits := (readSign text).2
  match digits with
  | c :: _ =>
      if c.isDigit then .ok (digits.dropWhile Char.isDigit)
      else .error (.peek .invalidNumber digits)
  | [] => .error ⟨.invalidNumber, [], 0⟩

/-- The number ends here, or its exponent follows. -/
def afterDigits : Text → Except Failure Text
  | 'e' :: rest => exponent rest
  | 'E' :: rest => exponent rest
  | text => .ok text

/-- Pass over a fraction, from after its point on. -/
def fraction (text : Text) : Except Failure Text :=
  if text.head?.any Char.isDigit then afterDigits (text.dropWhile Char.isDigit)
  else .error (.peek .invalidNumber text)

/-- Pass over a number, from after its sign on. -/
def number (text : Text) : Except Failure Text :=
  match text with
  | [] => .error ⟨.invalidNumber, [], 0⟩
  | c :: after =>
      if !c.isDigit then .error (.peek .invalidNumber text)
      else if c = '0' && after.head?.any Char.isDigit then .error (.peek .invalidNumber after)
      else
        match if c = '0' then after else text.dropWhile Char.isDigit with
        | '.' :: rest => fraction rest
        | rest => afterDigits rest

/-- A kind of bracket. -/
inductive Bracket
  | list
  | object
  deriving DecidableEq

/-- What an opening bracket or a value without brackets leaves to be read. -/
inductive Start
  | opened (bracket : Bracket) (rest : Text)
  | passed (rest : Text)

/-- Pass over a value without brackets, or over an opening bracket. -/
def start (text : Text) : Except Failure Start :=
  match skipSpace text with
  | 'n' :: rest => .passed <$> readLiteral "ull".toList rest
  | 't' :: rest => .passed <$> readLiteral "rue".toList rest
  | 'f' :: rest => .passed <$> readLiteral "alse".toList rest
  | '-' :: rest => .passed <$> number rest
  | '"' :: rest => .passed <$> stringFrom 0 rest
  | '[' :: rest => .ok (.opened .list rest)
  | '\x7b' :: rest => .ok (.opened .object rest)
  | [] => .error (.peek .endOfValue [])
  | c :: rest =>
      if c.isDigit then .passed <$> number (c :: rest)
      else .error (.peek .expectedValue (c :: rest))

/-- Pass over the name of a member and the colon behind it. -/
def name (text : Text) : Except Failure Text :=
  match skipSpace text with
  | '"' :: rest => do readColon (← stringFrom 0 rest)
  | [] => .error (.peek .endOfObject [])
  | start => .error (.peek .keyNotString start)

/-- Pass over the name in front of a value, if the value is a member. -/
def nameWithin (bracket : Bracket) (text : Text) : Except Failure Text :=
  match bracket with
  | .list => .ok text
  | .object => name text

/-- Pass over closing brackets up to the place of the next value. Answers with
the brackets that are still open there, if any, and the text. Only a bracket
that was not opened just now takes a comma. -/
def close (budget : Nat) (isFirst : Bool) (brackets : List Bracket) (text : Text) :
    Except Failure (List Bracket × Text) :=
  match budget, brackets with
  | 0, _ => .error (.peek .endOfList text)
  | _, [] => .ok ([], text)
  | budget + 1, bracket :: outer =>
      match skipSpace text, bracket with
      | [], .list => .error (.peek .endOfList [])
      | [], .object => .error (.peek .endOfObject [])
      | ']' :: rest, .list => close budget false outer rest
      | '\x7d' :: rest, .object => close budget false outer rest
      | c :: rest, bracket =>
          if isFirst then do return (bracket :: outer, ← nameWithin bracket (c :: rest))
          else if c = ',' then do return (bracket :: outer, ← nameWithin bracket rest)
          else .error (.peek (match bracket with
            | .list => .expectedListEnd
            | .object => .expectedObjectEnd) (c :: rest))

/-- Pass over values until no bracket is open any more. -/
def values : Nat → List Bracket → Text → Except Failure Text
  | 0, _, text => .error (.peek .endOfValue text)
  | budget + 1, brackets, text => do
      let (brackets, rest) ← match ← start text with
        | .passed rest => close (budget + 1) false brackets rest
        | .opened bracket rest => close (budget + 1) true (bracket :: brackets) rest
      if brackets.isEmpty then return rest
      else values budget brackets rest

end Skip

/-- Pass over a value. -/
def skipValue (limits : Limits) (text : Text) : Except Failure Text :=
  Skip.values limits.budget [] text

end Json

end SourceLines
