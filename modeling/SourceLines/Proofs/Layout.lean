/-
# Counts and layout

How a text is laid out says nothing about what is counted as code and what as a comment.
Lines may be indented, they may end with white space, and blank lines may stand between
them, within a block comment as well: a line is judged by what can be seen of it, and a
blank line neither opens nor closes a block. Only the number of blank lines follows the
layout, and it follows it exactly.

Layouts are changed step by step. A step adds white space at one end of one line, or it
adds one blank line; taking something away is such a step backwards.
-/

import Mathlib.Logic.Relation
import SourceLines.Proofs.BlockComments

namespace SourceLines

/-- The second list of lines has more white space than the first one: at the start or at
the end of a line, or as a line by itself. -/
inductive AddsSpace : List Text → List Text → Prop
  | inFront {space : Text} (before : List Text) (line : Text) (behind : List Text)
      (blank : isBlank space = true) :
      AddsSpace (before ++ line :: behind) (before ++ (space ++ line) :: behind)
  | atEnd {space : Text} (before : List Text) (line : Text) (behind : List Text)
      (blank : isBlank space = true) :
      AddsSpace (before ++ line :: behind) (before ++ (line ++ space) :: behind)
  | newLine {line : Text} (before behind : List Text) (blank : isBlank line = true) :
      AddsSpace (before ++ behind) (before ++ line :: behind)

/-- The lists of lines differ in nothing but white space around lines and blank lines. -/
def SameButSpace : List Text → List Text → Prop :=
  Relation.EqvGen AddsSpace

namespace BlockComment.State

variable {first second : List Text} {line other : Text}

/-- The kinds of the lines that are not blank, and the state after all lines. -/
def seen (start : State) (lines : List Text) : List LineKind × State :=
  ((start.kinds lines).filter (· ≠ .blank), start.after lines)

/-- A line is judged by what is left of it when it is trimmed. -/
theorem readLine_of_trim_eq (state : State) (same : trim line = trim other) :
    state.readLine line = state.readLine other := by
  unfold readLine
  rw [same]

theorem seen_append (start : State) (first second : List Text) :
    start.seen (first ++ second) =
      ((start.seen first).1 ++ ((start.after first).seen second).1,
        ((start.after first).seen second).2) := by
  unfold seen
  rw [kinds_append, after_append, List.filter_append]

/-- Lines that are read alike are seen alike in front of the same lines. -/
theorem seen_cons_congr (start : State) (same : start.readLine line = start.readLine other)
    (behind : List Text) : start.seen (line :: behind) = start.seen (other :: behind) := by
  unfold seen
  rw [kinds, after_cons, same]
  rfl

theorem seen_cons_of_isBlank (start : State) (blank : isBlank line = true)
    (behind : List Text) : start.seen (line :: behind) = start.seen behind := by
  unfold seen
  rw [kinds, after_cons, readLine_of_isBlank blank]
  rfl

/-- A step adds nothing to what is seen. -/
theorem seen_eq_of_addsSpace (adds : AddsSpace first second) (start : State) :
    start.seen first = start.seen second := by
  cases adds with
  | @inFront space before line behind blank =>
      have trimmed : trim line = trim (space ++ line) := (trim_append_of_isBlank blank).symm
      have same := (start.after before).readLine_of_trim_eq trimmed
      rw [seen_append, seen_append, seen_cons_congr _ same]
  | @atEnd space before line behind blank =>
      have trimmed : trim line = trim (line ++ space) :=
        (trim_append_of_isBlank_behind blank).symm
      have same := (start.after before).readLine_of_trim_eq trimmed
      rw [seen_append, seen_append, seen_cons_congr _ same]
  | newLine before behind blank =>
      rw [seen_append, seen_append, seen_cons_of_isBlank _ blank]

/-- However the layout is changed, the same is seen. -/
theorem seen_eq_of_sameButSpace (same : SameButSpace first second) (start : State) :
    start.seen first = start.seen second := by
  induction same with
  | rel _ _ adds => exact seen_eq_of_addsSpace adds start
  | refl _ => rfl
  | symm _ _ _ ih => exact ih.symm
  | trans _ _ _ _ _ ih₁ ih₂ => exact ih₁.trans ih₂

theorem count_filter_seen (start : State) (lines : List Text) {kind : LineKind}
    (shown : kind ≠ .blank) : (start.seen lines).1.count kind = (start.kinds lines).count kind :=
  List.count_filter (decide_eq_true shown)

/-- Texts whose lines differ in white space alone have the same lines of code and the same
comments, and the same block is open behind them. Their blank lines differ as much in
number as all their lines do. -/
theorem countText_of_sameButSpace (start : State) {first second : Text}
    (same : SameButSpace (physicalLines first) (physicalLines second)) :
    let (firstCounts, firstState) := start.countText first
    let (secondCounts, secondState) := start.countText second
    firstCounts.code = secondCounts.code ∧
      firstCounts.comment = secondCounts.comment ∧
      firstState = secondState ∧
      (secondCounts.blank : Int) - firstCounts.blank =
        (physicalLines second).length - (physicalLines first).length := by
  have seenAlike := seen_eq_of_sameButSpace same start
  have countsOf (kind : LineKind) (shown : kind ≠ .blank) :
      (start.kinds (physicalLines first)).count kind =
        (start.kinds (physicalLines second)).count kind := by
    rw [← count_filter_seen _ _ shown, ← count_filter_seen _ _ shown, seenAlike]
  have code := countsOf .code nofun
  have comment := countsOf .comment nofun
  have firstAll := LineCounts.classified_ofKinds (start.kinds (physicalLines first))
  have secondAll := LineCounts.classified_ofKinds (start.kinds (physicalLines second))
  rw [length_kinds] at firstAll secondAll
  rw [countText, countText, countLines_eq, countLines_eq]
  refine ⟨code, comment, congrArg Prod.snd seenAlike, ?_⟩
  simp only [LineCounts.classified, LineCounts.ofKinds] at firstAll secondAll ⊢
  omega

/-- A block comment with code behind it, and the same with white space around its lines and
with blank lines in front of it and in it, but without a space at its end. -/
theorem countText_of_sameButSpace_indented :
    SameButSpace (physicalLines "/* a\n*/ \nx".toList)
        (physicalLines "\n\t/* a\n \u3000\n*/\nx".toList) ∧
      (outside.countText "/* a\n*/ \nx".toList).1.code =
        (outside.countText "\n\t/* a\n \u3000\n*/\nx".toList).1.code ∧
      (outside.countText "/* a\n*/ \nx".toList).1.comment =
        (outside.countText "\n\t/* a\n \u3000\n*/\nx".toList).1.comment ∧
      (outside.countText "/* a\n*/ \nx".toList).2 =
        (outside.countText "\n\t/* a\n \u3000\n*/\nx".toList).2 ∧
      ((outside.countText "\n\t/* a\n \u3000\n*/\nx".toList).1.blank : Int) -
        (outside.countText "/* a\n*/ \nx".toList).1.blank = 5 - 3 := by
  have blankAbove := AddsSpace.newLine [] ["/* a".toList, "*/ ".toList, ['x']]
    (rfl : isBlank [] = true)
  have tabInFront := AddsSpace.inFront [[]] "/* a".toList ["*/ ".toList, ['x']]
    (rfl : isBlank ['\t'] = true)
  have blankWithin := AddsSpace.newLine [[], "\t/* a".toList] ["*/ ".toList, ['x']]
    (rfl : isBlank [' ', '\u3000'] = true)
  have spaceAtEnd := AddsSpace.atEnd [[], "\t/* a".toList, [' ', '\u3000']] "*/".toList [['x']]
    (rfl : isBlank [' '] = true)
  have same : SameButSpace (physicalLines "/* a\n*/ \nx".toList)
      (physicalLines "\n\t/* a\n \u3000\n*/\nx".toList) :=
    .trans _ _ _ (.rel _ _ blankAbove) (.trans _ _ _ (.rel _ _ tabInFront)
      (.trans _ _ _ (.rel _ _ blankWithin) (.symm _ _ (.rel _ _ spaceAtEnd))))
  exact ⟨same, countText_of_sameButSpace outside same⟩

end BlockComment.State

end SourceLines
