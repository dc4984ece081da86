/-
# Texts in parts

The lines of two texts are the lines of both together unless the cut between them goes
through a line, or through a carriage return and its line feed. Where it does neither, a
text may be counted in parts: the state in which a part is left says all that the next
one has to know of it, and the counts of the parts add up.

A part may be empty. Whether a carriage return and a line feed stand on both sides of a
cut is therefore asked of everything in front of it and everything behind it, and not of
the two parts next to it.
-/

import SourceLines.Proofs.JoinedLines

namespace SourceLines

/-- A text may be cut between these parts: no line and no line break is cut in two. -/
def MayCut (first second : Text) : Prop :=
  first = [] ∨ first.getLast? = some '\n' ∨
    first.getLast? = some '\r' ∧ second.head? ≠ some '\n'

instance (first second : Text) : Decidable (MayCut first second) :=
  inferInstanceAs (Decidable (_ ∨ _ ∨ _ ∧ _))

variable {first second content mark rest : Text} {ending : Ending}

/-! ## Lines of parts -/

theorem physicalLines_of_unbroken (notEmpty : content ≠ [])
    (unbroken : IsUnbroken Char.toNat content) : physicalLines content = [content] := by
  rw [physicalLines_eq_map_cutLines, cutLines_of_unbroken notEmpty unbroken]
  rfl

theorem physicalLines_append_mark (unbroken : IsUnbroken Char.toNat content)
    (ends : Ends Char.toNat ending mark rest) :
    physicalLines (content ++ mark ++ rest) = content :: physicalLines rest := by
  rw [physicalLines_eq_map_cutLines, cutLines_append unbroken ends, List.map_cons,
    ← physicalLines_eq_map_cutLines]

theorem physicalLines_lineFeed_cons (text : Text) :
    physicalLines ('\n' :: text) = [] :: physicalLines text :=
  have feed : Ends Char.toNat .lineFeed Ending.lineFeed.mark text := ends_mark_iff.mpr (by simp)
  physicalLines_append_mark (List.forall_mem_nil _) feed

/-- A line that goes on in the next part makes one line with the first one there. -/
theorem length_physicalLines_unbroken_append (unbroken : IsUnbroken Char.toNat content)
    (notEmpty : second ≠ []) :
    (physicalLines (content ++ second)).length = (physicalLines second).length := by
  rw [physicalLines_eq_map_cutLines, physicalLines_eq_map_cutLines,
    cutLines_unbroken_append unbroken]
  cases cut : cutLines Char.toNat second with
  | nil =>
      have same := (joinLines_cutLines second).1
      rw [cut] at same
      exact absurd same.symm notEmpty
  | cons line lines =>
      rw [foldr_addFront_cons]
      rfl

/-- A carriage return in front of a cut and a line feed behind it end one line in the whole
and two in the parts. -/
theorem physicalLines_ne_of_pair_cut (unbroken : IsUnbroken Char.toNat content) (rest : Text) :
    physicalLines (content ++ Ending.carriageReturn.mark ++ '\n' :: rest) ≠
      content :: physicalLines [] ++ physicalLines ('\n' :: rest) := by
  intro same
  have pair : Ends Char.toNat .both Ending.both.mark rest := ends_mark_iff.mpr (by simp)
  have together := physicalLines_append_mark unbroken pair
  rw [List.append_assoc] at same together
  have lengths := congrArg List.length (together.symm.trans same)
  rw [physicalLines_lineFeed_cons] at lengths
  exact absurd lengths (by simp [physicalLines, PhysicalLines.read])

/-- What stands in front of some text does not matter for a cut behind it. -/
theorem mayCut_append_iff (notEmpty : rest ≠ []) :
    MayCut (first ++ rest) second ↔ MayCut rest second := by
  have sameLast : (first ++ rest).getLast? = rest.getLast? :=
    List.getLast?_append_of_ne_nil _ notEmpty
  rw [MayCut, MayCut, sameLast]
  simp [notEmpty]

theorem MayCut.of_append (may : MayCut (first ++ rest) second) : MayCut rest second := by
  by_cases empty : rest = []
  · exact Or.inl empty
  · exact (mayCut_append_iff empty).mp may

/-- The cut is behind a line when its ending is still the same ending there. -/
theorem mayCut_append_mark_iff (ended : ending ≠ .nothing) :
    MayCut (content ++ ending.mark) second ↔ Ends Char.toNat ending ending.mark second := by
  have written : ending.mark ≠ [] := by
    cases ending
    case nothing => exact absurd rfl ended
    all_goals exact List.cons_ne_nil _ _
  rw [mayCut_append_iff written, ends_mark_iff, and_iff_right ended]
  cases ending
  case nothing => exact absurd rfl ended
  all_goals simp [MayCut, Ending.mark]

/-- Nothing may be cut behind a line that goes on. -/
theorem not_mayCut_of_unbroken (notEmpty : content ≠ [])
    (unbroken : IsUnbroken Char.toNat content) : ¬ MayCut content second := by
  rw [isUnbroken_toNat_iff] at unbroken
  rintro (empty | feeds | ⟨returns, -⟩)
  · exact notEmpty empty
  · exact unbroken.1 (List.mem_of_getLast? feeds)
  · exact unbroken.2 (List.mem_of_getLast? returns)

/-- The lines of two parts are the lines of the whole exactly if a text may be cut between
the parts or there is no second part. -/
theorem physicalLines_append_iff (first second : Text) :
    physicalLines (first ++ second) = physicalLines first ++ physicalLines second ↔
      MayCut first second ∨ second = [] := by
  by_cases empty : second = []
  · subst empty
    rw [List.append_nil]
    exact iff_of_true (List.append_nil _).symm (Or.inr rfl)
  rw [or_iff_left empty]
  induction first using cutLines_induction Char.toNat with
  | nil => exact iff_of_true rfl (Or.inl rfl)
  | last content notEmpty unbroken =>
      refine iff_of_false (fun same => ?_) (not_mayCut_of_unbroken notEmpty unbroken)
      have fewer := length_physicalLines_unbroken_append unbroken empty
      rw [same, physicalLines_of_unbroken notEmpty unbroken, List.length_append] at fewer
      exact absurd fewer (by simp)
  | line content ending mark rest unbroken ends ih =>
      obtain rfl := ends.eq_mark
      have ended := (ends_mark_iff.mp ends).1
      rw [physicalLines_append_mark unbroken ends, List.append_assoc]
      by_cases last : rest = []
      · subst last
        rw [List.append_nil, List.nil_append, mayCut_append_mark_iff ended]
        constructor
        · intro same
          refine ends_mark_iff.mpr ⟨ended, fun returns feeds => ?_⟩
          obtain ⟨more, rfl⟩ := List.head?_eq_some_iff.mp feeds
          exact physicalLines_ne_of_pair_cut unbroken more (returns ▸ same)
        · intro stillEnds
          rw [physicalLines_append_mark unbroken stillEnds]
          rfl
      · have stillEnds : Ends Char.toNat ending ending.mark (rest ++ second) := by
          rw [ends_mark_iff, List.head?_append_of_ne_nil _ last]
          exact ends_mark_iff.mp ends
        rw [mayCut_append_iff last, ← ih, physicalLines_append_mark unbroken stillEnds,
          List.cons_append, List.cons_inj_right]

namespace LineCounts

instance : Std.Associative (α := LineCounts) (· + ·) := ⟨add_assoc⟩

theorem sum_cons (counts : LineCounts) (parts : List LineCounts) :
    sum (counts :: parts) = counts + sum parts := by
  show parts.foldl (· + ·) (zero + counts) = counts + parts.foldl (· + ·) zero
  rw [zero_add]
  show parts.foldl (· + ·) (counts + zero) = _
  exact List.foldl_assoc

end LineCounts

namespace BlockComment.State

/-- The counts of texts that are read one after another, and whether a block is open after
the last of them. -/
def countTexts : State → List Text → List LineCounts × State
  | state, [] => ([], state)
  | state, text :: rest =>
      let (counts, next) := state.countText text
      let (others, last) := next.countTexts rest
      (counts :: others, last)

/-- Texts whose lines are those of the whole are counted like the whole. -/
theorem countText_append (start : State)
    (lines : physicalLines (first ++ second) = physicalLines first ++ physicalLines second) :
    start.countText (first ++ second) =
      ((start.countText first).1 + ((start.countText first).2.countText second).1,
        ((start.countText first).2.countText second).2) := by
  simp only [countText, countLines_eq, lines, kinds_append, after_append,
    LineCounts.ofKinds_append]

/-- However many parts there are, reading them one after another gives the counts and the
state of the whole. -/
theorem countText_flatten (start : State) (parts : List Text)
    (may : ∀ i < parts.length, MayCut (parts.take i).flatten (parts.drop i).flatten) :
    start.countText parts.flatten =
        (.sum (start.countTexts parts).1, (start.countTexts parts).2) := by
  induction parts generalizing start with
  | nil => rfl
  | cons text rest ih =>
      have mayRest : ∀ i < rest.length, MayCut (rest.take i).flatten (rest.drop i).flatten := by
        intro i within
        have whole := may (i + 1) (Nat.succ_lt_succ within)
        rw [List.take_succ_cons, List.drop_succ_cons, List.flatten_cons] at whole
        exact whole.of_append
      have lines : physicalLines (text ++ rest.flatten) =
          physicalLines text ++ physicalLines rest.flatten := by
        rw [physicalLines_append_iff]
        cases rest with
        | nil => exact Or.inr rfl
        | cons next rest =>
            have cut := may 1 (Nat.succ_lt_succ (Nat.succ_pos _))
            rw [List.take_succ_cons, List.take_zero, List.flatten_singleton] at cut
            exact Or.inl cut
      rw [List.flatten_cons, countText_append start lines, ih _ mayRest, countTexts,
        LineCounts.sum_cons]

/-- A text that may be cut is counted in its parts as well: the counts of two parts are
those of the whole text when they are added, and the same block is open in the end. So
it is with any number of parts that are cut at such places. -/
theorem countText_adds_up (start : State) :
    (∀ first second, MayCut first second →
      let (firstCounts, between) := start.countText first
      let (secondCounts, last) := between.countText second
      start.countText (first ++ second) = (firstCounts + secondCounts, last)) ∧
      ∀ parts : List Text,
        (∀ i < parts.length, MayCut (parts.take i).flatten (parts.drop i).flatten) →
        let (counts, last) := start.countTexts parts
        start.countText parts.flatten = (.sum counts, last) := by
  constructor
  · intro first second may
    exact start.countText_append ((physicalLines_append_iff first second).mpr (Or.inl may))
  · intro parts may
    exact start.countText_flatten parts may

/-- A block that is closed in one part and one that is left open in another, with an empty
part behind a carriage return. -/
def partsOfBlocks : List Text :=
  ["a */\r".toList, [], "x = 1\r\n".toList, "/* b".toList]

/-- In these parts the block comments are counted as in the whole text. -/
theorem countText_adds_up_partsOfBlocks :
    MayCut "a */\r".toList "x = 1".toList ∧
      inside.countText "a */\rx = 1".toList = (⟨0, 1, 0, 0⟩ + ⟨1, 0, 0, 0⟩, outside) ∧
      (∀ i < partsOfBlocks.length,
        MayCut (partsOfBlocks.take i).flatten (partsOfBlocks.drop i).flatten) ∧
      inside.countText "a */\rx = 1\r\n/* b".toList =
        (.sum (inside.countTexts partsOfBlocks).1, inside) := by
  have may : MayCut "a */\r".toList "x = 1".toList := by decide
  have mayAll : ∀ i < partsOfBlocks.length,
      MayCut (partsOfBlocks.take i).flatten (partsOfBlocks.drop i).flatten := by decide
  exact ⟨may, (countText_adds_up inside).1 _ _ may, mayAll, (countText_adds_up inside).2 _ mayAll⟩

end BlockComment.State

end SourceLines
