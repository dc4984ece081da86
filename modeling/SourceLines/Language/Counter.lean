/-
# Counting the lines of a language

Lines are judged one after another, and what is open at the end of a line is
still open at the start of the next: a string literal, or a stack of block
comments. A line is read mark by mark. Wherever a mark stands, the whole mark
is passed over; elsewhere one byte is. A line counts as a comment when it starts
or ends inside a block, is one block or begins with a comment mark, and as code
when a string literal is open at its end.
-/

import SourceLines.Language.Basic
import SourceLines.Lines.Counts
import SourceLines.Text.Search

namespace SourceLines

namespace Language

/-- The bytes that are white space between marks. -/
def isSpaceByte (byte : UInt8) : Bool :=
  byte == 0x20 || (0x09 ≤ byte && byte ≤ 0x0D)

/-- A line without the white space at its ends. -/
def trimBytes (line : Bytes) : Bytes :=
  ((line.dropWhile isSpaceByte).reverse.dropWhile isSpaceByte).reverse

/-- Read on with the finished lines and the open line, both kept in reverse. -/
def cutLines (finished : List Bytes) (line : Bytes) : Bytes → List Bytes
  | [] => (if line.isEmpty then finished else line.reverse :: finished).reverse
  | byte :: rest =>
      if byte = 0x0A then cutLines (line.reverse :: finished) [] rest
      else cutLines finished (byte :: line) rest

/-- The lines of a file, which end at the line feed only. -/
def feedLines (content : Bytes) : List Bytes :=
  cutLines [] [] content

/-- What is open between two places of a file. -/
structure Nesting where
  /-- What closes the string literal that is open. -/
  quote : Option Bytes
  /-- The string literal opened last takes no escapes. -/
  isVerbatim : Bool
  /-- What closes the block comments that are open, the innermost one first. -/
  blocks : List Bytes

namespace Nesting

/-- Nothing is open. -/
def start : Nesting := ⟨none, false, []⟩

/-- The place lies in plain code. -/
def isPlain (nesting : Nesting) : Bool :=
  nesting.quote.isNone && nesting.blocks.isEmpty

/-- The bytes close the string literal that is open; the length of the mark. -/
def closesQuote? (nesting : Nesting) (bytes : Bytes) : Option Nat :=
  match nesting.quote with
  | some closing => if closing.isPrefixOf bytes then some closing.length else none
  | none => none

/-- The bytes close the innermost block; the length of the mark. -/
def closesBlock? (nesting : Nesting) (bytes : Bytes) : Option Nat :=
  match nesting.blocks with
  | closing :: _ => if closing.isPrefixOf bytes then some closing.length else none
  | [] => none

/-- The string literal that the bytes open, and whether it takes no escapes. -/
def opensQuote? (language : Language) (bytes : Bytes) : Option (Delimiters × Bool) :=
  match Delimiters.openedBy? language.docQuotes bytes with
  | some quote => some (quote, false)
  | none =>
      match Delimiters.openedBy? language.verbatimQuotes bytes with
      | some quote => some (quote, true)
      | none => (Delimiters.openedBy? language.quotes bytes).map (·, false)

/-- The bytes are an escaped mark of a string literal. -/
def isEscape (language : Language) (nesting : Nesting) : Bytes → Bool
  | 0x5C :: rest => !nesting.isVerbatim && (Delimiters.openedBy? language.quotes rest).isSome
  | _ => false

/-- Passing a block's opening mark opens the block in code, and within another
block if blocks nest. -/
def enterBlock (language : Language) (nesting : Nesting) (block : BlockDelimiters) : Nesting :=
  if nesting.blocks.isEmpty || language.nestsBlocks || block.nests then
    { nesting with blocks := block.closing :: nesting.blocks }
  else nesting

/-- What is open after the mark in front of the bytes, and how many bytes to
pass over; nothing where a comment takes the rest of the line. -/
def step? (language : Language) (nesting : Nesting) (bytes : Bytes) : Option (Nesting × Nat) :=
  if let some length := nesting.closesQuote? bytes then
    some ({ nesting with quote := none }, length)
  else if nesting.isEscape language bytes then
    some (nesting, 2)
  else if let some length := nesting.closesBlock? bytes then
    some ({ nesting with blocks := nesting.blocks.tail }, length)
  else if nesting.quote.isSome then
    some (nesting, 1)
  else if let some (quote, isVerbatim) :=
      if nesting.blocks.isEmpty then opensQuote? language bytes else none then
    some ({ nesting with quote := some quote.closing, isVerbatim }, quote.opening.length)
  else if let some block := language.blockAt? bytes then
    some (nesting.enterBlock language block, block.opening.length)
  else if nesting.blocks.isEmpty && language.startsLineComment bytes then
    none
  else
    some (nesting, 1)

/-- Read the rest of a line, of which so many bytes are still to be passed over. -/
def readFrom (language : Language) (nesting : Nesting) : Nat → Bytes → Nesting
  | _, [] => nesting
  | pending + 1, _ :: rest => readFrom language nesting pending rest
  | 0, byte :: rest =>
      match nesting.step? language (byte :: rest) with
      | none => nesting
      | some (next, length) => readFrom language next (length - 1) rest

/-- The whole line is one block comment. -/
def isWholeBlock (language : Language) (line : Bytes) : Bool :=
  language.blocks.any fun block =>
    block.opening.isPrefixOf line && block.closing.isSuffixOf line

/-- The line opens a block of the kind that is open at its end. -/
def opensInnermost (language : Language) (nesting : Nesting) (line : Bytes) : Bool :=
  match nesting.blocks with
  | closing :: _ =>
      language.blocks.any fun block => block.opening.isPrefixOf line && block.closing == closing
  | [] => false

/-- The kind of a line after trimming, and what is open after it. -/
def readLine (language : Language) (nesting : Nesting) (line : Bytes) : LineKind × Nesting :=
  if nesting.isPlain && line.isEmpty then (.blank, nesting)
  else if nesting.isPlain && !containsAny language.openings line then
    (if language.isLiterate || language.startsLineComment line then .comment else .code, nesting)
  else
    let next := nesting.readFrom language 0 line
    let isComment :=
      language.isLiterate ||
        (next.quote.isNone &&
          (!nesting.blocks.isEmpty || language.startsLineComment line ||
            isWholeBlock language line || next.opensInnermost language line))
    (if isComment then .comment else .code, next)

end Nesting

/-- The counts of a whole file. -/
def count (language : Language) (content : Bytes) : LineCounts :=
  ((feedLines content).foldl
    (fun (counts, nesting) line =>
      let (kind, next) := nesting.readLine language (trimBytes line)
      (counts + .ofKind kind, next))
    (LineCounts.zero, Nesting.start)).1

/-- What a counter says about a text: how many of its lines are code, comments and blank,
and what it says about the parts of the text that are in other languages. The lines of a
part are not among those of the text around it. -/
inductive Stats
  | mk (code comment blank : Nat) (parts : List (String × Stats))

mutual

/-- The lines of a text and of all its parts together. -/
def Stats.summarise : Stats → LineCounts
  | .mk code comment blank parts => ⟨code, comment, blank, 0⟩ + summariseParts parts

/-- The lines of some parts together. -/
def Stats.summariseParts : List (String × Stats) → LineCounts
  | [] => .zero
  | (_, stats) :: rest => stats.summarise + summariseParts rest

end

/-- A way to count the lines of a content that is in a language. -/
abbrev Counter := Language → Bytes → Stats

/-- The counter of the catalogue. It knows no parts in other languages. -/
def stats : Counter := fun language content =>
  let counts := language.count content
  .mk counts.code counts.comment counts.blank []

end Language

end SourceLines
