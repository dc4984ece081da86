/-
# Lines put together again

A text is nothing but its lines with their endings. When lines are written one after
another, each with an ending that is chosen for it, they are the lines of the text that
results; and every text results in one way only. Two provisos are part of this. A
carriage return that ends a line by itself has no line feed behind it, since the two
would be one ending; and a last line without an ending has to hold something, since
otherwise it is no line.
-/

import SourceLines.Proofs.BlockComments
import SourceLines.Proofs.LineCuts

namespace SourceLines

/-- What stands in a text where a line ends. -/
def Ending.mark : Ending → Text
  | .lineFeed => ['\n']
  | .carriageReturn => ['\r']
  | .both => ['\r', '\n']
  | .nothing => []

/-- The text of lines that are written one after another. -/
def joinLines (lines : List (CutLine Char)) : Text :=
  lines.flatMap fun line => line.content ++ line.ending.mark

/-- Each line ends where its ending is written and nowhere else. -/
structure KeepsLines (lines : List (CutLine Char)) : Prop where
  /-- There is no line break within a line. -/
  unbroken : ∀ line ∈ lines, '\n' ∉ line.content ∧ '\r' ∉ line.content
  /-- No line feed stands behind a carriage return that ends a line by itself. -/
  alone : ∀ line behind, line :: behind <:+ lines → line.ending = .carriageReturn →
    (joinLines behind).head? ≠ some '\n'
  /-- Only the last line may be without an ending, and only if it holds something. -/
  ended : ∀ line behind, line :: behind <:+ lines → line.ending = .nothing →
    behind = [] ∧ line.content ≠ []

variable {lines first second : List (CutLine Char)} {line : CutLine Char}
  {content mark rest : Text} {ending : Ending}

theorem joinLines_cons (line : CutLine Char) (lines : List (CutLine Char)) :
    joinLines (line :: lines) = line.content ++ line.ending.mark ++ joinLines lines :=
  List.flatMap_cons

theorem isUnbroken_toNat_iff :
    IsUnbroken Char.toNat content ↔ '\n' ∉ content ∧ '\r' ∉ content := by
  unfold IsUnbroken
  simp only [PhysicalLines.isLineFeed_toNat_iff, PhysicalLines.isReturn_toNat_iff]
  constructor
  · intro unbroken
    exact ⟨fun feed => (unbroken _ feed).1 rfl, fun returns => (unbroken _ returns).2 rfl⟩
  · rintro ⟨noFeed, noReturn⟩ c member
    exact ⟨fun feeds => noFeed (feeds ▸ member), fun returns => noReturn (returns ▸ member)⟩

/-- What ends a line is written as it is read. -/
theorem Ends.eq_mark (ends : Ends Char.toNat ending mark rest) : mark = ending.mark := by
  cases ends with
  | lineFeed feeds =>
      rw [PhysicalLines.isLineFeed_toNat_iff.mp feeds]
      rfl
  | carriageReturn returns alone =>
      rw [PhysicalLines.isReturn_toNat_iff.mp returns]
      rfl
  | both returns feeds =>
      rw [PhysicalLines.isReturn_toNat_iff.mp returns, PhysicalLines.isLineFeed_toNat_iff.mp feeds]
      rfl

/-- What is written for an ending is read as that ending, unless a line feed behind a
carriage return joins it. -/
theorem ends_mark_iff :
    Ends Char.toNat ending ending.mark rest ↔
      ending ≠ .nothing ∧ (ending = .carriageReturn → rest.head? ≠ some '\n') := by
  constructor
  · intro ends
    refine ⟨fun nothing => ?_, fun returns first => ?_⟩
    · subst nothing
      cases ends
    · subst returns
      cases ends with
      | carriageReturn _ alone =>
          exact alone '\n' first (PhysicalLines.isLineFeed_toNat_iff.mpr rfl)
  · rintro ⟨ended, alone⟩
    cases ending with
    | lineFeed => exact .lineFeed (PhysicalLines.isLineFeed_toNat_iff.mpr rfl)
    | both =>
        exact .both (PhysicalLines.isReturn_toNat_iff.mpr rfl)
          (PhysicalLines.isLineFeed_toNat_iff.mpr rfl)
    | nothing => exact absurd rfl ended
    | carriageReturn =>
        refine .carriageReturn (PhysicalLines.isReturn_toNat_iff.mpr rfl) fun c first feeds => ?_
        rw [PhysicalLines.isLineFeed_toNat_iff] at feeds
        exact alone rfl (feeds ▸ first)

/-! ## From lines to a text and back -/

theorem keepsLines_nil : KeepsLines [] where
  unbroken := List.forall_mem_nil _
  alone _ _ isSuffix := absurd (List.suffix_nil.mp isSuffix) (List.cons_ne_nil _ _)
  ended _ _ isSuffix := absurd (List.suffix_nil.mp isSuffix) (List.cons_ne_nil _ _)

/-- Lines keep their endings when the first one does in front of the others and the others
do by themselves. -/
theorem keepsLines_cons_iff :
    KeepsLines (line :: lines) ↔
      IsUnbroken Char.toNat line.content ∧
        (line.ending = .nothing ∧ lines = [] ∧ line.content ≠ [] ∨
          Ends Char.toNat line.ending line.ending.mark (joinLines lines)) ∧
        KeepsLines lines := by
  rw [isUnbroken_toNat_iff, ends_mark_iff]
  constructor
  · intro keeps
    refine ⟨keeps.unbroken line List.mem_cons_self, ?_, ?_⟩
    · by_cases nothing : line.ending = .nothing
      · exact Or.inl ⟨nothing, keeps.ended line lines List.suffix_rfl nothing⟩
      · exact Or.inr ⟨nothing, keeps.alone line lines List.suffix_rfl⟩
    · exact
        { unbroken := fun other member => keeps.unbroken other (List.mem_cons_of_mem _ member)
          alone := fun other behind within =>
            keeps.alone other behind (within.trans (List.suffix_cons _ _))
          ended := fun other behind within =>
            keeps.ended other behind (within.trans (List.suffix_cons _ _)) }
  · rintro ⟨unbroken, ending, keeps⟩
    constructor
    case unbroken => exact List.forall_mem_cons.mpr ⟨unbroken, keeps.unbroken⟩
    case alone =>
      intro other behind isSuffix returns
      rcases List.suffix_cons_iff.mp isSuffix with same | within
      · obtain ⟨rfl, rfl⟩ := List.cons.inj same
        rcases ending with ⟨nothing, -⟩ | ⟨-, alone⟩
        · exact nomatch returns.symm.trans nothing
        · exact alone returns
      · exact keeps.alone other behind within returns
    case ended =>
      intro other behind isSuffix nothing
      rcases List.suffix_cons_iff.mp isSuffix with same | within
      · obtain ⟨rfl, rfl⟩ := List.cons.inj same
        rcases ending with ⟨-, last⟩ | ⟨ended, -⟩
        · exact last
        · exact absurd nothing ended
      · exact keeps.ended other behind within nothing

/-- The lines of a text that is made of lines are these lines. -/
theorem cutLines_joinLines (keeps : KeepsLines lines) :
    cutLines Char.toNat (joinLines lines) = lines := by
  induction lines with
  | nil => rfl
  | cons line lines ih =>
      obtain ⟨unbroken, ⟨nothing, rfl, notEmpty⟩ | ends, keepsRest⟩ := keepsLines_cons_iff.mp keeps
      · obtain ⟨content, ending⟩ := line
        obtain rfl : ending = .nothing := nothing
        rw [joinLines_cons]
        show cutLines Char.toNat (content ++ [] ++ []) = _
        rw [List.append_nil, List.append_nil, cutLines_of_unbroken notEmpty unbroken]
      · rw [joinLines_cons, cutLines_append unbroken ends, ih keepsRest]

/-- A text is made of its lines. -/
theorem joinLines_cutLines (text : Text) :
    joinLines (cutLines Char.toNat text) = text ∧ KeepsLines (cutLines Char.toNat text) := by
  induction text using cutLines_induction Char.toNat with
  | nil => exact ⟨rfl, keepsLines_nil⟩
  | last content notEmpty unbroken =>
      rw [cutLines_of_unbroken notEmpty unbroken, joinLines_cons, keepsLines_cons_iff]
      show content ++ [] ++ [] = content ∧ _
      rw [List.append_nil, List.append_nil]
      exact ⟨rfl, unbroken, Or.inl ⟨rfl, rfl, notEmpty⟩, keepsLines_nil⟩
  | line content ending mark rest unbroken ends ih =>
      obtain ⟨same, keeps⟩ := ih
      obtain rfl := ends.eq_mark
      rw [cutLines_append unbroken ends, joinLines_cons, keepsLines_cons_iff, same]
      exact ⟨rfl, unbroken, Or.inr ends, keeps⟩

theorem physicalLines_joinLines (keeps : KeepsLines lines) :
    physicalLines (joinLines lines) = lines.map CutLine.content := by
  rw [physicalLines_eq_map_cutLines, cutLines_joinLines keeps]

/-- The characters of lines are those of their text that break no line. -/
theorem filter_joinLines (keeps : KeepsLines lines) :
    (joinLines lines).filter (fun c => c ≠ '\n' ∧ c ≠ '\r') =
      (lines.map CutLine.content).flatten := by
  induction lines with
  | nil => rfl
  | cons line lines ih =>
      obtain ⟨unbroken, -, keepsRest⟩ := keepsLines_cons_iff.mp keeps
      have kept : line.content.filter (fun c => c ≠ '\n' ∧ c ≠ '\r') = line.content := by
        rw [List.filter_eq_self]
        intro c member
        rw [isUnbroken_toNat_iff] at unbroken
        apply decide_eq_true
        exact ⟨fun feed => unbroken.1 (feed ▸ member), fun returns => unbroken.2 (returns ▸ member)⟩
      have dropped : line.ending.mark.filter (fun c => c ≠ '\n' ∧ c ≠ '\r') = [] := by
        cases line.ending <;> rfl
      rw [joinLines_cons, List.filter_append, List.filter_append, kept, dropped, List.append_nil,
        ih keepsRest, List.map_cons, List.flatten_cons]

/-- Lines with endings that keep them are the lines of their text. Every text is made of
one list of lines with one choice of endings, and no character but those of the endings
is missing from its lines. With other endings the lines of a text are the same, and so
are their counts. -/
theorem physicalLines_inverts_joinLines :
    (∀ lines, KeepsLines lines → physicalLines (joinLines lines) = lines.map CutLine.content) ∧
      (∀ text, ∃! lines, KeepsLines lines ∧ joinLines lines = text) ∧
      (∀ text, (physicalLines text).flatten = text.filter fun c => c ≠ '\n' ∧ c ≠ '\r') ∧
      ∀ first second, KeepsLines first → KeepsLines second →
        first.map CutLine.content = second.map CutLine.content →
          physicalLines (joinLines first) = physicalLines (joinLines second) ∧
            ∀ start : BlockComment.State,
              start.countText (joinLines first) = start.countText (joinLines second) := by
  refine ⟨fun lines => physicalLines_joinLines, fun text => ?_, fun text => ?_, ?_⟩
  · obtain ⟨same, keeps⟩ := joinLines_cutLines text
    refine ⟨cutLines Char.toNat text, ⟨keeps, same⟩, ?_⟩
    rintro lines ⟨keepsLines, rfl⟩
    exact (cutLines_joinLines keepsLines).symm
  · obtain ⟨same, keeps⟩ := joinLines_cutLines text
    have kept := filter_joinLines keeps
    rw [same] at kept
    rw [physicalLines_eq_map_cutLines, kept]
  · intro first second keepsFirst keepsSecond sameContents
    have sameLines : physicalLines (joinLines first) = physicalLines (joinLines second) := by
      rw [physicalLines_joinLines keepsFirst, physicalLines_joinLines keepsSecond, sameContents]
    refine ⟨sameLines, fun start => ?_⟩
    rw [BlockComment.State.countText, sameLines, BlockComment.State.countText]

/-- A comment, two empty lines and a line of code, with all endings there are. -/
def mixedLines : List (CutLine Char) :=
  [⟨"/* a */".toList, .carriageReturn⟩, ⟨[], .both⟩, ⟨[], .lineFeed⟩, ⟨"x = 1".toList, .nothing⟩]

/-- The same lines with other endings. -/
def otherwiseEndedLines : List (CutLine Char) :=
  [⟨"/* a */".toList, .both⟩, ⟨[], .carriageReturn⟩, ⟨[], .carriageReturn⟩,
    ⟨"x = 1".toList, .lineFeed⟩]

/-- With an ending of its own for every line, two texts have the same four lines. -/
theorem physicalLines_inverts_joinLines_mixedLines :
    KeepsLines mixedLines ∧ KeepsLines otherwiseEndedLines ∧
      joinLines mixedLines = "/* a */\r\r\n\nx = 1".toList ∧
      physicalLines (joinLines mixedLines) = mixedLines.map CutLine.content ∧
      physicalLines (joinLines mixedLines) = physicalLines (joinLines otherwiseEndedLines) ∧
      BlockComment.State.outside.countText (joinLines mixedLines) =
        BlockComment.State.outside.countText (joinLines otherwiseEndedLines) := by
  have keeps : KeepsLines mixedLines := (joinLines_cutLines "/* a */\r\r\n\nx = 1".toList).2
  have otherKeeps : KeepsLines otherwiseEndedLines :=
    (joinLines_cutLines "/* a */\r\n\r\rx = 1\n".toList).2
  obtain ⟨inverts, -, -, sameForOthers⟩ := physicalLines_inverts_joinLines
  obtain ⟨sameLines, sameCounts⟩ := sameForOthers _ _ keeps otherKeeps rfl
  exact ⟨keeps, otherKeeps, rfl, inverts _ keeps, sameLines, sameCounts .outside⟩

end SourceLines
