/-
# JSON values

The members of an object keep their order and may repeat a name. A number is
kept as an integer where its text is one that fits into 64 bits, and as a double
otherwise.
-/

namespace SourceLines

namespace Json

/-- A number, by how it was read. -/
inductive Number
  /-- An integer from 0 to `2 ^ 64 - 1`. -/
  | natural (magnitude : Nat)
  /-- The opposite of an integer from 1 to `2 ^ 63`. -/
  | negative (magnitude : Nat)
  | floating (value : Float)

/-- A JSON value. -/
inductive Value
  | null
  | bool (value : Bool)
  | number (value : Number)
  | string (text : String)
  | array (items : List Value)
  | object (members : List (String × Value))

/-- A natural number as a value. -/
def Value.natural (magnitude : Nat) : Value :=
  .number (.natural magnitude)

/-- An array of strings. -/
def Value.strings (texts : List String) : Value :=
  .array (texts.map .string)

end Json

end SourceLines
