/-
# Printing JSON values

A value is printed over several lines, with two spaces for each level of
nesting. An array or object without elements stays on its line. In strings only
quotes, backslashes and control characters are escaped; everything else,
including the delete character, stands for itself.
-/

import SourceLines.Json.Error

namespace SourceLines

namespace Json

namespace Printer

/-- How one character is written in a string. -/
def escapeChar (c : Char) : Text :=
  match c with
  | '"' => ['\\', '"']
  | '\\' => ['\\', '\\']
  | '\x08' => ['\\', 'b']
  | '\x0c' => ['\\', 'f']
  | '\n' => ['\\', 'n']
  | '\r' => ['\\', 'r']
  | '\t' => ['\\', 't']
  | c =>
      if c < ' ' then
        ['\\', 'u', '0', '0', Nat.digitChar (c.toNat / 16), Nat.digitChar (c.toNat % 16)]
      else [c]

/-- A string in quotes. -/
def string (text : String) : Text :=
  '"' :: text.toList.flatMap escapeChar ++ ['"']

/-- A number. -/
def number : Number → Text
  | .natural magnitude => Nat.toDigits 10 magnitude
  | .negative magnitude => '-' :: Nat.toDigits 10 magnitude
  | .floating value => (showFloat value).toList

/-- A new line at this level of nesting. -/
def newline (level : Nat) : Text :=
  '\n' :: List.replicate (2 * level) ' '

/-- Items on lines of their own, between two brackets. -/
def bracketed (opening closing : Char) (level : Nat) : List Text → Text
  | [] => [opening, closing]
  | first :: others =>
      opening :: newline (level + 1) ++ first ++
        others.flatMap (fun item => ',' :: newline (level + 1) ++ item) ++
        newline level ++ [closing]

/-- What is printed of an array or object up to its next item, behind these items. -/
def bracketedFront (opening : Char) (level : Nat) (before : List Text) : Text :=
  opening :: before.flatMap (fun item => newline (level + 1) ++ item ++ [',']) ++
    newline (level + 1)

mutual

/-- A value at this level of nesting. -/
def value (level : Nat) : Value → Text
  | .null => "null".toList
  | .bool true => "true".toList
  | .bool false => "false".toList
  | .number content => number content
  | .string text => string text
  | .array content => bracketed '[' ']' level (items (level + 1) content)
  | .object content => bracketed '\x7b' '\x7d' level (members (level + 1) content)

/-- The elements of an array. -/
def items (level : Nat) : List Value → List Text
  | [] => []
  | item :: rest => value level item :: items level rest

/-- The members of an object. -/
def members (level : Nat) : List (String × Value) → List Text
  | [] => []
  | (name, content) :: rest =>
      (string name ++ ": ".toList ++ value level content) :: members level rest

end

end Printer

/-- The text of a value. -/
def print (value : Value) : Text :=
  Printer.value 0 value

end Json

end SourceLines
