/-
# Reading strings, numbers and literals

The parts of a JSON text that hold no other values. A reader takes the text from
some place on and answers with a value and the text after it, or with a failure.
Strings resolve their escapes, and surrogates must come in pairs. Integers that
fit into 64 bits are kept exactly; every other number becomes a double, computed
from the digits that fit into 64 bits and one power of ten.
-/

import SourceLines.Json.Error

namespace SourceLines

namespace Json

/-- White space between the parts of a JSON text. -/
def isSpace (c : Char) : Bool :=
  c == ' ' || c == '\n' || c == '\t' || c == '\r'

/-- The text after the white space in front of it. -/
def skipSpace (text : Text) : Text :=
  text.dropWhile isSpace

/-- Read the rest of a literal. -/
def readLiteral : Text → Text → Except Failure Text
  | [], text => .ok text
  | _ :: _, [] => .error ⟨.endOfValue, [], 0⟩
  | expected :: more, c :: rest =>
      if c = expected then readLiteral more rest
      else .error (.peek .expectedLiteral (c :: rest))

/-- The value of a hexadecimal digit. -/
def hexDigit? (c : Char) : Option Nat :=
  if '0' ≤ c ∧ c ≤ '9' then some (c.toNat - 0x30)
  else if 'a' ≤ c ∧ c ≤ 'f' then some (c.toNat - 0x61 + 10)
  else if 'A' ≤ c ∧ c ≤ 'F' then some (c.toNat - 0x41 + 10)
  else none

/-- The number that four hexadecimal digits at the start of the text stand for. -/
def hexQuad? : Text → Option Nat
  | a :: b :: c :: d :: _ => do
      let a ← hexDigit? a
      let b ← hexDigit? b
      let c ← hexDigit? c
      let d ← hexDigit? d
      return ((a * 16 + b) * 16 + c) * 16 + d
  | _ => none

/-- Read four hexadecimal digits. Four bytes are always taken, if there are so
many. -/
def readHexQuad (text : Text) : Except Failure (Nat × Text) :=
  match hexQuad? text with
  | some number => .ok (number, text.drop 4)
  | none =>
      if (encodeUtf8 (text.take 4)).length < 4 then .error ⟨.endOfString, [], 0⟩
      else .error ⟨.invalidEscape, text, 4⟩

/-- The number is the first half of a surrogate pair. -/
def isHighSurrogate (number : Nat) : Bool := 0xD800 ≤ number && number ≤ 0xDBFF

/-- The number is the second half of a surrogate pair. -/
def isLowSurrogate (number : Nat) : Bool := 0xDC00 ≤ number && number ≤ 0xDFFF

/-- Read what follows the first half of a surrogate pair: a second escape by
code, with the second half. -/
def readSecondHalf (high : Nat) : Text → Except Failure Char
  | [] => .error ⟨.endOfString, [], 0⟩
  | '\\' :: [] => .error ⟨.endOfString, [], 0⟩
  | '\\' :: 'u' :: rest => do
      let (low, after) ← readHexQuad rest
      if isLowSurrogate low then
        return Char.ofNat ((high - 0xD800) * 0x400 + (low - 0xDC00) + 0x10000)
      else throw ⟨.loneSurrogate, after, 0⟩
  | '\\' :: rest => .error (.peek .unfinishedSurrogate rest)
  | rest => .error (.peek .unfinishedSurrogate rest)

/-- The character that a one-letter escape stands for. -/
def shortEscape? : Char → Option Char
  | '"' => some '"'
  | '\\' => some '\\'
  | '/' => some '/'
  | 'b' => some '\x08'
  | 'f' => some '\x0c'
  | 'n' => some '\n'
  | 'r' => some '\r'
  | 't' => some '\t'
  | _ => none

/-- Read an escape, from after its backslash on. Answers with the character that
is meant and the number of characters that spell it: one letter, a letter and
four digits, or two such codes with a backslash between them. -/
def readEscape : Text → Except Failure (Char × Nat)
  | [] => .error ⟨.endOfString, [], 0⟩
  | 'u' :: rest => do
      let (number, after) ← readHexQuad rest
      if isLowSurrogate number then throw ⟨.loneSurrogate, after, 0⟩
      else if isHighSurrogate number then return (← readSecondHalf number after, 11)
      else return (Char.ofNat number, 5)
  | c :: rest =>
      match shortEscape? c with
      | some meant => .ok (meant, 1)
      | none => .error (.peek .invalidEscape (c :: rest))

/-- Read on in a string with the characters found so far, in reverse, and the
number of characters that an escape has taken already. -/
def readStringFrom (found : Text) : Nat → Text → Except Failure (String × Text)
  | _, [] => .error ⟨.endOfString, [], 0⟩
  | taken + 1, _ :: rest => readStringFrom found taken rest
  | 0, c :: rest =>
      if c = '"' then .ok (String.ofList found.reverse, rest)
      else if c = '\\' then
        match readEscape rest with
        | .ok (meant, length) => readStringFrom (meant :: found) length rest
        | .error failure => .error failure
      else if c < ' ' then .error ⟨.controlCharacter, rest, 0⟩
      else readStringFrom (c :: found) 0 rest

/-- Read a string, from after its opening quote on. -/
def readString (text : Text) : Except Failure (String × Text) :=
  readStringFrom [] 0 text

/-- The largest integer of 64 bits. -/
def maxNatural : Nat := UInt64.size - 1

/-- Add decimal digits to a number as long as it fits into 64 bits. Answers with
the number and the digits that did not fit. -/
def takeDigits (number : Nat) : Text → Nat × Text
  | [] => (number, [])
  | c :: rest =>
      let next := number * 10 + (c.toNat - 0x30)
      if next ≤ maxNatural then takeDigits next rest else (number, c :: rest)

/-- A double times a power of ten, unless that is out of range. A double cannot
be multiplied by less than `1e-308` at once, so it is divided repeatedly. -/
def scaleFloat (value : Float) (exponent : Int) : Option Float :=
  if 0 ≤ exponent then
    if exponent ≤ 308 then
      let scaled := value * Float.ofScientific 1 false exponent.toNat
      if scaled.isInf then none else some scaled
    else if value == 0 then some value else none
  else if -308 ≤ exponent then
    some (value / Float.ofScientific 1 false (-exponent).toNat)
  else if value == 0 then some value
  else scaleFloat (value / Float.ofScientific 1 false 308) (exponent + 308)
termination_by (-exponent).toNat

/-- The sign of a number and a double. -/
def signed (isPositive : Bool) (value : Float) : Number :=
  .floating (if isPositive then value else -value)

/-- The number with this significand and power of ten. The text is what follows
the number. -/
def makeFloat (isPositive : Bool) (significand : Nat) (exponent : Int) (text : Text) :
    Except Failure (Number × Text) :=
  match scaleFloat significand.toUInt64.toFloat exponent with
  | some value => .ok (signed isPositive value, text)
  | none => .error ⟨.numberOutOfRange, text, 0⟩

/-- The largest exponent that is worked out. -/
def maxExponent : Nat := Nat.pow 2 31 - 1

/-- Read the digits of an exponent. A larger exponent than is worked out ends
the reading after the digit with which it is reached. -/
def readExponentDigits (exponent : Nat) : Text → Option Nat × Text
  | [] => (some exponent, [])
  | c :: rest =>
      if c.isDigit then
        let next := exponent * 10 + (c.toNat - 0x30)
        if next ≤ maxExponent then readExponentDigits next rest else (none, rest)
      else (some exponent, c :: rest)

/-- The sign of an exponent and the text after it. -/
def readSign : Text → Bool × Text
  | '+' :: rest => (true, rest)
  | '-' :: rest => (false, rest)
  | text => (true, text)

/-- Read an exponent, from after its letter on. -/
def readExponent (isPositive : Bool) (significand : Nat) (exponent : Int) (text : Text) :
    Except Failure (Number × Text) :=
  let (isUpward, text) := readSign text
  match text with
  | [] => .error ⟨.endOfValue, [], 0⟩
  | c :: _ =>
      if c.isDigit then
        match readExponentDigits 0 text with
        | (some shift, rest) =>
            let exponent := if isUpward then exponent + shift else exponent - shift
            makeFloat isPositive significand exponent rest
        | (none, rest) =>
            if significand ≠ 0 && isUpward then .error ⟨.numberOutOfRange, rest, 0⟩
            else .ok (signed isPositive 0, rest.dropWhile Char.isDigit)
      else .error (.peek .invalidNumber text)

/-- The number ends here, or its exponent follows. -/
def readAfterDigits (isPositive : Bool) (significand : Nat) (exponent : Int) :
    Text → Except Failure (Number × Text)
  | 'e' :: rest => readExponent isPositive significand exponent rest
  | 'E' :: rest => readExponent isPositive significand exponent rest
  | text => makeFloat isPositive significand exponent text

/-- Read a fraction, from after its point on. -/
def readFraction (isPositive : Bool) (significand : Nat) (exponent : Int) (text : Text) :
    Except Failure (Number × Text) :=
  let digits := text.takeWhile Char.isDigit
  let rest := text.dropWhile Char.isDigit
  if digits.isEmpty then
    .error (.peek (if text.isEmpty then .endOfValue else .invalidNumber) text)
  else
    let (significand, ignored) := takeDigits significand digits
    readAfterDigits isPositive significand (exponent - (digits.length - ignored.length : Nat)) rest

/-- An integer as a number: the opposite of zero and integers beyond 64 bits are
doubles. -/
def makeInteger (isPositive : Bool) (significand : Nat) : Number :=
  if isPositive then .natural significand
  else if 0 < significand && significand ≤ Nat.pow 2 63 then .negative significand
  else .floating (-significand.toUInt64.toFloat)

/-- Read a number, from after its sign on. -/
def readNumber (isPositive : Bool) (text : Text) : Except Failure (Number × Text) :=
  match text with
  | [] => .error ⟨.endOfValue, [], 0⟩
  | c :: after =>
      if !c.isDigit then .error (.peek .invalidNumber text)
      else
        let digits := if c = '0' then ['0'] else text.takeWhile Char.isDigit
        let rest := if c = '0' then after else text.dropWhile Char.isDigit
        if c = '0' && after.head?.any Char.isDigit then .error (.peek .invalidNumber after)
        else
          let (significand, dropped) := takeDigits 0 digits
          match rest with
          | '.' :: fraction => readFraction isPositive significand dropped.length fraction
          | 'e' :: exponent => readExponent isPositive significand dropped.length exponent
          | 'E' :: exponent => readExponent isPositive significand dropped.length exponent
          | rest =>
              if dropped.isEmpty then .ok (makeInteger isPositive significand, rest)
              else makeFloat isPositive significand dropped.length rest

/-- Read a value that holds no other values, or say that an array or an object
stands there. -/
def readFound (text : Text) : Except Failure (Found × Text) :=
  match text with
  | 'n' :: rest => do return (.null, ← readLiteral "ull".toList rest)
  | 't' :: rest => do return (.bool true, ← readLiteral "rue".toList rest)
  | 'f' :: rest => do return (.bool false, ← readLiteral "alse".toList rest)
  | '"' :: rest => do
      let (string, rest) ← readString rest
      return (.string string, rest)
  | '-' :: rest => do
      let (number, rest) ← readNumber false rest
      return (.number number, rest)
  | '[' :: _ => .ok (.sequence, text)
  | '\x7b' :: _ => .ok (.map, text)
  | [] => .error (.peek .endOfValue [])
  | c :: _ =>
      if c.isDigit then do
        let (number, rest) ← readNumber true text
        return (.number number, rest)
      else .error (.peek .expectedValue text)

end Json

end SourceLines
