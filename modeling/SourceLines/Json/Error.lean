/-
# What can be wrong with a JSON text

A failure is a cause and a place. The place is given by the text that was not
yet read, together with the bytes beyond it that count as read: one byte when
the failure is about the next character, more when a cut goes through the middle
of an escape. In a message the place is a line and the number of bytes on it.
-/

import SourceLines.Decimal.Shortest
import SourceLines.Json.Value
import SourceLines.Text.Quoted
import SourceLines.Text.Utf8

namespace SourceLines

namespace Json

/-- What stands where something else is expected. Arrays and objects are not
looked into. -/
inductive Found
  | null
  | bool (value : Bool)
  | number (value : Number)
  | string (text : String)
  | sequence
  | map

/-- Why a text is refused. -/
inductive Cause
  | endOfValue
  | endOfString
  | endOfList
  | endOfObject
  | expectedListEnd
  | expectedObjectEnd
  | expectedColon
  | expectedLiteral
  | expectedValue
  | keyNotString
  | invalidEscape
  | invalidNumber
  | numberOutOfRange
  | loneSurrogate
  | unfinishedSurrogate
  | controlCharacter
  | trailingComma
  | trailingCharacters
  | tooDeep
  | wrongType (found : Found) (expected : String)
  | wrongValue (found : Found) (expected : String)
  | wrongLength (length : Nat) (expected : String)
  | missingField (name : String)
  | duplicateField (name : String)

/-- Zeros for the places between the digits of a decimal and its point. -/
private def zeros (count : Int) : String :=
  String.ofList (List.replicate count.toNat '0')

/-- A positive decimal, with a point for the orders of magnitude from `1e-5` to
`1e16` and with a signed exponent beyond them. -/
def showDigits (decimal : Decimal.Digits) : String :=
  let digits := Nat.toDigits 10 decimal.digits
  let point : Int := digits.length + decimal.exponent
  let text := String.ofList digits
  if 0 ≤ decimal.exponent ∧ point ≤ 16 then text ++ zeros decimal.exponent ++ ".0"
  else if 0 < point ∧ point ≤ 16 then
    String.ofList (digits.take point.toNat) ++ "." ++ String.ofList (digits.drop point.toNat)
  else if -5 < point ∧ point ≤ 0 then "0." ++ zeros (-point) ++ text
  else
    let lead := String.ofList (digits.take 1)
    let mantissa := if digits.length = 1 then lead else lead ++ "." ++ String.ofList (digits.drop 1)
    mantissa ++ (if 0 < point then "e+" else "e") ++ toString (point - 1)

/-- A finite double, with the fewest digits that read back. -/
def showFloat (value : Float) : String :=
  let sign := if value.toBits.toNat / Nat.pow 2 63 = 1 then "-" else ""
  if value == 0 then sign ++ "0.0" else sign ++ showDigits (Decimal.shortest value)

/-- What was found, as messages name it. -/
def Found.describe : Found → String
  | .null => "null"
  | .bool value => "boolean `" ++ (if value then "true" else "false") ++ "`"
  | .number (.natural magnitude) => "integer `" ++ toString magnitude ++ "`"
  | .number (.negative magnitude) => "integer `-" ++ toString magnitude ++ "`"
  | .number (.floating value) => "floating point `" ++ showFloat value ++ "`"
  | .string text => "string " ++ quoted text
  | .sequence => "sequence"
  | .map => "map"

/-- What a value is when something else is expected. -/
def Value.found : Value → Found
  | .null => .null
  | .bool value => .bool value
  | .number value => .number value
  | .string text => .string text
  | .array _ => .sequence
  | .object _ => .map

/-- The wording of a cause. -/
def Cause.message : Cause → String
  | .endOfValue => "EOF while parsing a value"
  | .endOfString => "EOF while parsing a string"
  | .endOfList => "EOF while parsing a list"
  | .endOfObject => "EOF while parsing an object"
  | .expectedListEnd => "expected `,` or `]`"
  | .expectedObjectEnd => "expected `,` or `\x7d`"
  | .expectedColon => "expected `:`"
  | .expectedLiteral => "expected ident"
  | .expectedValue => "expected value"
  | .keyNotString => "key must be a string"
  | .invalidEscape => "invalid escape"
  | .invalidNumber => "invalid number"
  | .numberOutOfRange => "number out of range"
  | .loneSurrogate => "lone leading surrogate in hex escape"
  | .unfinishedSurrogate => "unexpected end of hex escape"
  | .controlCharacter => "control character (\\u0000-\\u001F) found while parsing a string"
  | .trailingComma => "trailing comma"
  | .trailingCharacters => "trailing characters"
  | .tooDeep => "recursion limit exceeded"
  | .wrongType found expected => "invalid type: " ++ found.describe ++ ", expected " ++ expected
  | .wrongValue found expected => "invalid value: " ++ found.describe ++ ", expected " ++ expected
  | .wrongLength length expected =>
      "invalid length " ++ toString length ++ ", expected " ++ expected
  | .missingField name => "missing field `" ++ name ++ "`"
  | .duplicateField name => "duplicate field `" ++ name ++ "`"

/-- A cause and the place where it was met. -/
structure Failure where
  cause : Cause
  rest : Text
  ahead : Nat := 0

namespace Failure

/-- A failure about the next character, which counts as read. -/
def peek (cause : Cause) (rest : Text) : Failure :=
  ⟨cause, rest, 1⟩

/-- The bytes that count as read when reading the text fails here. -/
def bytesRead (failure : Failure) (text : Text) : Bytes :=
  let bytes := encodeUtf8 text
  bytes.take (bytes.length - (encodeUtf8 failure.rest).length + failure.ahead)

/-- The line of the place, counted from one. -/
def line (failure : Failure) (text : Text) : Nat :=
  1 + (failure.bytesRead text).count 0x0A

/-- The bytes that count as read on the line of the place. -/
def column (failure : Failure) (text : Text) : Nat :=
  ((failure.bytesRead text).reverse.takeWhile (· != 0x0A)).length

/-- The cause with its place in the text. -/
def message (failure : Failure) (text : Text) : String :=
  failure.cause.message ++ " at line " ++ toString (failure.line text) ++ " column " ++
    toString (failure.column text)

end Failure

end Json

end SourceLines
