/-
# Spellings of JSON values

A value may be spelled in many ways: white space may stand around every part of
it, and a character of a string may stand for itself or be escaped, by a letter, by
its code, or by the codes of two surrogates. Said here is what the spellings of a
value are, without saying how they are read; integers of 64 bits are the only
numbers that are spelled. An object may also be said by the texts of its members alone,
whatever values these are.
-/

import SourceLines.Json.Reader

namespace SourceLines

namespace Json

/-- White space between the parts of a text. -/
def IsGap (text : Text) : Prop :=
  ∀ c ∈ text, isSpace c = true

/-- Four hexadecimal digits that stand for a number. -/
inductive SpellsCode : Nat → Text → Prop
  | quad {a b c d : Char} {number : Nat} (value : hexQuad? [a, b, c, d] = some number) :
      SpellsCode number [a, b, c, d]

/-- A character within a string. -/
inductive SpellsChar : Char → Text → Prop
  | plain {c : Char} (notQuote : c ≠ '"') (notBackslash : c ≠ '\\') (notControl : ¬ c < ' ') :
      SpellsChar c [c]
  | letter {letter meant : Char} (short : shortEscape? letter = some meant) :
      SpellsChar meant ['\\', letter]
  | code {number : Nat} {digits : Text} (code : SpellsCode number digits)
      (notLow : isLowSurrogate number = false) (notHigh : isHighSurrogate number = false) :
      SpellsChar (Char.ofNat number) ('\\' :: 'u' :: digits)
  | pair {high low : Nat} {first second : Text} (codeFirst : SpellsCode high first)
      (codeSecond : SpellsCode low second) (isHigh : isHighSurrogate high = true)
      (isLow : isLowSurrogate low = true) :
      SpellsChar (Char.ofNat ((high - 0xD800) * 0x400 + (low - 0xDC00) + 0x10000))
        ('\\' :: 'u' :: first ++ '\\' :: 'u' :: second)

/-- The characters of a string, one after another. -/
inductive SpellsChars : Text → Text → Prop
  | nil : SpellsChars [] []
  | cons {c : Char} {text spelling more : Text} (head : SpellsChar c spelling)
      (tail : SpellsChars text more) : SpellsChars (c :: text) (spelling ++ more)

/-- A string in its quotes. -/
inductive SpellsString : String → Text → Prop
  | quoted {string : String} {body : Text} (chars : SpellsChars string.toList body) :
      SpellsString string ('"' :: body ++ ['"'])

/-- An integer of 64 bits. -/
inductive SpellsNumber : Number → Text → Prop
  | natural {magnitude : Nat} (fits : magnitude ≤ maxNatural) :
      SpellsNumber (.natural magnitude) (Nat.toDigits 10 magnitude)
  | negative {magnitude : Nat} (positive : 0 < magnitude) (fits : magnitude ≤ Nat.pow 2 63) :
      SpellsNumber (.negative magnitude) ('-' :: Nat.toDigits 10 magnitude)

/-- What stands between the brackets of an array or object, from its start on or
from behind an element on: elements with white space around them and commas between
them. -/
inductive Listing : Bool → List Text → Text → Prop
  | done {isFirst : Bool} {gap : Text} (isGap : IsGap gap) : Listing isFirst [] gap
  | first {gap item more : Text} {items : List Text} (isGap : IsGap gap)
      (others : Listing false items more) : Listing true (item :: items) (gap ++ item ++ more)
  | next {before after item more : Text} {items : List Text} (isGapBefore : IsGap before)
      (isGapAfter : IsGap after) (others : Listing false items more) :
      Listing false (item :: items) (before ++ ',' :: after ++ item ++ more)

mutual

/-- A value, without white space around it. -/
inductive Spells : Value → Text → Prop
  | null : Spells .null "null".toList
  | boolTrue : Spells (.bool true) "true".toList
  | boolFalse : Spells (.bool false) "false".toList
  | number {number : Number} {text : Text} (spells : SpellsNumber number text) :
      Spells (.number number) text
  | string {string : String} {text : Text} (spells : SpellsString string text) :
      Spells (.string string) text
  | array {items : List Value} {texts : List Text} {body : Text} (spells : SpellsItems items texts)
      (listing : Listing true texts body) : Spells (.array items) ('[' :: body ++ [']'])
  | object {members : List (String × Value)} {texts : List Text} {body : Text}
      (spells : SpellsMembers members texts) (listing : Listing true texts body) :
      Spells (.object members) ('\x7b' :: body ++ ['\x7d'])

/-- The elements of an array. -/
inductive SpellsItems : List Value → List Text → Prop
  | nil : SpellsItems [] []
  | cons {item : Value} {items : List Value} {text : Text} {texts : List Text}
      (head : Spells item text) (tail : SpellsItems items texts) :
      SpellsItems (item :: items) (text :: texts)

/-- The members of an object. -/
inductive SpellsMembers : List (String × Value) → List Text → Prop
  | nil : SpellsMembers [] []
  | cons {name : String} {value : Value} {members : List (String × Value)}
      {nameText before after text : Text} {texts : List Text}
      (spellsName : SpellsString name nameText) (isGapBefore : IsGap before)
      (isGapAfter : IsGap after) (head : Spells value text) (tail : SpellsMembers members texts) :
      SpellsMembers ((name, value) :: members)
        ((nameText ++ before ++ ':' :: after ++ text) :: texts)

end

/-- The members of an object by their names, with the texts of their values, whatever
these texts are. -/
inductive SpellsNamed : List (String × Text) → List Text → Prop
  | nil : SpellsNamed [] []
  | cons {name : String} {value : Text} {members : List (String × Text)}
      {nameText before after : Text} {texts : List Text} (spellsName : SpellsString name nameText)
      (isGapBefore : IsGap before) (isGapAfter : IsGap after) (tail : SpellsNamed members texts) :
      SpellsNamed ((name, value) :: members)
        ((nameText ++ before ++ ':' :: after ++ value) :: texts)

/-- The text of an object with such members. -/
inductive SpellsObject : List (String × Text) → Text → Prop
  | braces {members : List (String × Text)} {texts : List Text} {body : Text}
      (named : SpellsNamed members texts) (listing : Listing true texts body) :
      SpellsObject members ('\x7b' :: body ++ ['\x7d'])

/-- A value that is spelled: its numbers are integers of 64 bits, and arrays and
objects are nested within it at most so often. -/
inductive IsPlain : Nat → Value → Prop
  | null {depth : Nat} : IsPlain depth .null
  | bool {depth : Nat} (value : Bool) : IsPlain depth (.bool value)
  | natural {depth magnitude : Nat} (fits : magnitude ≤ maxNatural) :
      IsPlain depth (.number (.natural magnitude))
  | negative {depth magnitude : Nat} (positive : 0 < magnitude) (fits : magnitude ≤ Nat.pow 2 63) :
      IsPlain depth (.number (.negative magnitude))
  | string {depth : Nat} (string : String) : IsPlain depth (.string string)
  | array {depth : Nat} {items : List Value} (each : ∀ item ∈ items, IsPlain depth item) :
      IsPlain (depth + 1) (.array items)
  | object {depth : Nat} {members : List (String × Value)}
      (each : ∀ member ∈ members, IsPlain depth member.2) : IsPlain (depth + 1) (.object members)

end Json

end SourceLines
