/-
# Line kinds and line counts

Every line is code, a comment or blank. A file's counts say how many lines of
each kind it has; lines inside string literals are counted beside the three
kinds and belong to none of them. Counts form a commutative monoid under
addition, so they may be summed in any grouping.
-/

namespace SourceLines

/-- What a line is counted as. -/
inductive LineKind
  | code
  | comment
  | blank
  deriving DecidableEq, Repr

/-- How many lines of each kind were seen. -/
structure LineCounts where
  code : Nat
  comment : Nat
  blank : Nat
  stringLiteral : Nat := 0
  deriving DecidableEq, Repr

namespace LineCounts

/-- No lines at all. -/
def zero : LineCounts := ⟨0, 0, 0, 0⟩

/-- Counts add up kind by kind. -/
def add (first second : LineCounts) : LineCounts where
  code := first.code + second.code
  comment := first.comment + second.comment
  blank := first.blank + second.blank
  stringLiteral := first.stringLiteral + second.stringLiteral

instance : Add LineCounts := ⟨add⟩

/-- The counts of a single line. -/
def ofKind : LineKind → LineCounts
  | .code => ⟨1, 0, 0, 0⟩
  | .comment => ⟨0, 1, 0, 0⟩
  | .blank => ⟨0, 0, 1, 0⟩

/-- The counts of all parts together. -/
def sum (parts : List LineCounts) : LineCounts :=
  parts.foldl (· + ·) zero

/-- The lines that are code, comment or blank. -/
def classified (counts : LineCounts) : Nat :=
  counts.code + counts.comment + counts.blank

/-- Nothing has been counted, not even lines of string literals. -/
def isZero (counts : LineCounts) : Bool :=
  counts.classified == 0 && counts.stringLiteral == 0

/-- The same counts with another number of lines in string literals. -/
def withStringLiteral (counts : LineCounts) (lines : Nat) : LineCounts :=
  { counts with stringLiteral := lines }

@[simp]
theorem add_code (first second : LineCounts) :
    (first + second).code = first.code + second.code := rfl

@[simp]
theorem add_comment (first second : LineCounts) :
    (first + second).comment = first.comment + second.comment := rfl

@[simp]
theorem add_blank (first second : LineCounts) :
    (first + second).blank = first.blank + second.blank := rfl

@[simp]
theorem add_stringLiteral (first second : LineCounts) :
    (first + second).stringLiteral = first.stringLiteral + second.stringLiteral := rfl

end LineCounts

end SourceLines
