/-
# Ranges of code points

A Unicode property is kept as a list of ranges of code points, first and last
one included. The ranges ascend and do not touch, but a membership test depends
on neither.
-/

namespace SourceLines

namespace Unicode

/-- A code point lies in one of the ranges. -/
def inRanges (ranges : List (Nat × Nat)) (code : Nat) : Bool :=
  ranges.any fun (first, last) => first ≤ code && code ≤ last

end Unicode

end SourceLines
