/-
# Strings shown in quotes

In a message a string stands between double quotes. Quotes and backslashes are
escaped, the common control characters have short escapes, and every other
character that would not show by itself is given by its code point in
hexadecimal digits.
-/

import SourceLines.Text.WhiteSpace
import SourceLines.Unicode.Printable

namespace SourceLines

namespace Quoted

/-- How one character is shown between the quotes. -/
def showChar (c : Char) : Text :=
  match c with
  | '"' => ['\\', '"']
  | '\\' => ['\\', '\\']
  | '\n' => ['\\', 'n']
  | '\r' => ['\\', 'r']
  | '\t' => ['\\', 't']
  | '\u0000' => ['\\', '0']
  | c =>
      if Unicode.showsAlone c then [c]
      else ['\\', 'u', '\x7b'] ++ Nat.toDigits 16 c.toNat ++ ['\x7d']

end Quoted

/-- A string in quotes. -/
def quoted (text : String) : String :=
  String.ofList ('"' :: text.toList.flatMap Quoted.showChar ++ ['"'])

end SourceLines
