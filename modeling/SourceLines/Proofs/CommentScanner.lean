/-
# Comments by lines and by characters

The counter of this library looks at how a line starts. A scanner in the usual sense
goes from character to character: `//` starts a comment that ends with its line, `/*`
starts one that ends at the first `*/` wholly behind it, comments do not nest, and
string literals are nothing special. The two count alike where every block starts as
the first thing on its line and ends as the last thing on one, but for a single
shape: the counter takes the slash of `/*/` for the end of a block, where the scanner
does not, so such a start must have its end on the same line.

Nothing is said here about code in front of a block or behind it. There the two
differ, as they are meant to.
-/

import SourceLines.Proofs.BlockComments
import SourceLines.Proofs.LineCuts

namespace SourceLines

namespace CommentScanner

/-- Where the scanner stands. -/
inductive Mode
  | outside
  /-- Between the two characters that start a block. -/
  | opening
  | block
  /-- Between the two characters that end a block. -/
  | closing
  /-- In a comment that ends with its line. -/
  | line
  deriving DecidableEq, Repr

/-- What the scanner takes a character for. -/
inductive Role
  | code
  | comment
  /-- The character that starts a block. -/
  | opener
  /-- The last character of a block. -/
  | closer
  deriving DecidableEq, Repr

/-- The role of a character and the mode behind it, given the next character. -/
def scanChar (mode : Mode) (c : Char) (next : Option Char) : Role × Mode :=
  match mode with
  | .outside =>
      if c = '/' ∧ next = some '/' then (.comment, .line)
      else if c = '/' ∧ next = some '*' then (.opener, .opening)
      else (.code, .outside)
  | .opening => (.comment, .block)
  | .block =>
      if c = '*' ∧ next = some '/' then (.comment, .closing) else (.comment, .block)
  | .closing => (.closer, .outside)
  | .line => if c = '\n' ∨ c = '\r' then (.code, .outside) else (.comment, .line)

/-- The characters of a text with their roles. -/
def scan : Mode → Text → List (Char × Role)
  | _, [] => []
  | mode, c :: rest =>
      (c, (scanChar mode c rest.head?).1) :: scan (scanChar mode c rest.head?).2 rest

/-- The mode behind a text. -/
def modeAfter : Mode → Text → Mode
  | mode, [] => mode
  | mode, c :: rest => modeAfter (scanChar mode c rest.head?).2 rest

/-- The physical lines of a text that is scanned from some mode on, with the roles
of their characters. -/
def scannedLinesFrom (mode : Mode) (text : Text) : List (List (Char × Role)) :=
  (cutLines (Char.toNat ∘ Prod.fst) (scan mode text)).map CutLine.content

/-- The physical lines of a text with the roles of their characters. -/
def scannedLines (text : Text) : List (List (Char × Role)) :=
  scannedLinesFrom .outside text

/-- A line is a comment when all that can be seen on it lies in comments. -/
def lineKind (line : List (Char × Role)) : LineKind :=
  if line.all fun (c, _) => isWhiteSpace c then .blank
  else if line.all fun (c, role) => isWhiteSpace c || role != .code then .comment
  else .code

/-- The counts of a text, by characters. -/
def count (text : Text) : LineCounts :=
  .ofKinds ((scannedLines text).map lineKind)

/-- A block starts as the first thing to be seen on a line, and ends as the last. -/
structure IsTidyLine (scanned : List (Char × Role)) : Prop where
  opener : ∀ i : Fin scanned.length, scanned[i].2 = .opener →
    ∀ j : Fin scanned.length, j < i → isWhiteSpace scanned[j].1 = true
  closer : ∀ i : Fin scanned.length, scanned[i].2 = .closer →
    ∀ j : Fin scanned.length, i < j → isWhiteSpace scanned[j].1 = true

instance (scanned : List (Char × Role)) : Decidable (IsTidyLine scanned) :=
  decidable_of_iff
    ((∀ i : Fin scanned.length, scanned[i].2 = .opener →
        ∀ j : Fin scanned.length, j < i → isWhiteSpace scanned[j].1 = true) ∧
      ∀ i : Fin scanned.length, scanned[i].2 = .closer →
        ∀ j : Fin scanned.length, i < j → isWhiteSpace scanned[j].1 = true)
    ⟨fun ⟨opener, closer⟩ => ⟨opener, closer⟩, fun ⟨opener, closer⟩ => ⟨opener, closer⟩⟩

/-- A block that starts with `/*/` ends on the same line. -/
def ClosesShortOpener (scanned : List (Char × Role)) : Prop :=
  ∀ i : Fin scanned.length, scanned[i].2 = .opener → scanned[i.val + 2]?.map Prod.fst = some '/' →
    ∃ j : Fin scanned.length, scanned[j].2 = .closer

instance (scanned : List (Char × Role)) : Decidable (ClosesShortOpener scanned) :=
  inferInstanceAs (Decidable (∀ _, _))

/-! ## Scanning -/

variable {mode : Mode} {text content : Text}

@[simp]
theorem map_fst_scan (mode : Mode) (text : Text) : (scan mode text).map Prod.fst = text := by
  induction text generalizing mode with
  | nil => rfl
  | cons c rest ih => rw [scan, List.map_cons, ih]

/-- What the text goes on with does not matter for a line, since no line break takes
part in a mark. -/
theorem scan_append (mode : Mode) (content : Text) {rest : Text}
    (breaks : ∀ c ∈ rest.head?, c = '\n' ∨ c = '\r') :
    scan mode (content ++ rest) = scan mode content ++ scan (modeAfter mode content) rest := by
  induction content generalizing mode with
  | nil => rfl
  | cons c content ih =>
      have same : scanChar mode c (content ++ rest).head? = scanChar mode c content.head? := by
        cases content with
        | cons d content => rfl
        | nil =>
            cases next : rest.head? with
            | none => simp [next]
            | some d =>
                rcases breaks d next with rfl | rfl <;> cases mode <;> simp [scanChar, next]
      rw [List.cons_append, scan, scan, same, ih, List.cons_append]
      rfl

/-- Without the mark that ends it a block goes on. -/
theorem scan_block_of_no_closer (unclosed : ¬ BlockComment.closeMark <:+: content) :
    scan .block content = content.map (·, .comment) ∧ modeAfter .block content = .block := by
  induction content with
  | nil => exact ⟨rfl, rfl⟩
  | cons c rest ih =>
      have notHere : ¬ (c = '*' ∧ rest.head? = some '/') := by
        rintro ⟨rfl, next⟩
        obtain ⟨more, rfl⟩ := List.head?_eq_some_iff.mp next
        exact unclosed ⟨[], more, rfl⟩
      have ⟨scanned, mode⟩ := ih fun found => unclosed (found.trans (List.suffix_cons ..).isInfix)
      rw [scan, modeAfter, scanChar, if_neg notHere, scanned, mode]
      exact ⟨rfl, rfl⟩

/-- A block ends at the first mark for it. -/
theorem exists_scan_block_of_closer (closed : BlockComment.closeMark <:+: content) :
    ∃ inner after, content = inner ++ '/' :: after ∧
      scan .block content = inner.map (·, .comment) ++ ('/', .closer) :: scan .outside after ∧
      modeAfter .block content = modeAfter .outside after := by
  induction content with
  | nil => exact absurd (List.infix_nil.mp closed) (List.cons_ne_nil _ _)
  | cons c rest ih =>
      by_cases here : c = '*' ∧ rest.head? = some '/'
      · obtain ⟨rfl, next⟩ := here
        obtain ⟨after, rfl⟩ := List.head?_eq_some_iff.mp next
        exact ⟨['*'], after, rfl, by simp [scan, scanChar], by simp [modeAfter, scanChar]⟩
      · have later : BlockComment.closeMark <:+: rest := by
          refine (List.infix_cons_iff.mp closed).resolve_left ?_
          rintro ⟨more, same⟩
          simp only [BlockComment.closeMark, String.reduceToList, List.cons_append,
            List.cons.injEq] at same
          exact here ⟨same.1.symm, by rw [← same.2]; rfl⟩
        obtain ⟨inner, after, rfl, scanned, mode⟩ := ih later
        refine ⟨c :: inner, after, rfl, ?_, ?_⟩
        · rw [scan, scanChar, if_neg here, scanned]
          rfl
        · rw [modeAfter, scanChar, if_neg here, mode]

/-- Blanks outside of comments are passed over. -/
theorem scan_outside_of_isBlank {blanks : Text} (blank : isBlank blanks = true) (rest : Text) :
    scan .outside (blanks ++ rest) = blanks.map (·, .code) ++ scan .outside rest ∧
      modeAfter .outside (blanks ++ rest) = modeAfter .outside rest := by
  induction blanks with
  | nil => exact ⟨rfl, rfl⟩
  | cons c blanks ih =>
      have notSlash : c ≠ '/' := by
        rintro rfl
        exact absurd (isBlank_iff.mp blank '/' List.mem_cons_self) (by decide)
      have ⟨scanned, mode⟩ := ih (isBlank_iff.mpr fun d member =>
        isBlank_iff.mp blank d (List.mem_cons_of_mem _ member))
      rw [List.cons_append, scan, modeAfter, scanChar, if_neg (fun h => notSlash h.1),
        if_neg (fun h => notSlash h.1), scanned, mode]
      exact ⟨rfl, rfl⟩

/-- A comment that ends with its line takes in the whole of it. -/
theorem scan_line_of_unbroken (unbroken : IsUnbroken Char.toNat content) :
    scan .line content = content.map (·, .comment) ∧ modeAfter .line content = .line := by
  induction content with
  | nil => exact ⟨rfl, rfl⟩
  | cons c rest ih =>
      obtain ⟨notFeed, notReturn⟩ := unbroken c List.mem_cons_self
      rw [PhysicalLines.isLineFeed_toNat_iff] at notFeed
      rw [PhysicalLines.isReturn_toNat_iff] at notReturn
      have ⟨scanned, mode⟩ := ih fun d member => unbroken d (List.mem_cons_of_mem _ member)
      rw [scan, modeAfter, scanChar, if_neg (by simp [notFeed, notReturn]), scanned, mode]
      exact ⟨rfl, rfl⟩

/-- Where no block starts, the scanner ends up outside of blocks. -/
theorem modeAfter_outside_of_no_opener (unbroken : IsUnbroken Char.toNat content)
    (noOpener : ∀ x ∈ scan .outside content, x.2 ≠ .opener) :
    modeAfter .outside content = .outside ∨ modeAfter .outside content = .line := by
  induction content with
  | nil => exact Or.inl rfl
  | cons c rest ih =>
      have restUnbroken : IsUnbroken Char.toNat rest :=
        fun d member => unbroken d (List.mem_cons_of_mem _ member)
      by_cases comments : c = '/' ∧ rest.head? = some '/'
      · rw [modeAfter, scanChar, if_pos comments]
        exact Or.inr (scan_line_of_unbroken restUnbroken).2
      · by_cases opens : c = '/' ∧ rest.head? = some '*'
        · refine absurd rfl (noOpener (c, .opener) ?_)
          rw [scan, scanChar, if_neg comments, if_pos opens]
          exact List.mem_cons_self
        · rw [modeAfter, scanChar, if_neg comments, if_neg opens]
          rw [scan, scanChar, if_neg comments, if_neg opens] at noOpener
          exact ih restUnbroken fun x member => noOpener x (List.mem_cons_of_mem _ member)

/-! ## The kind of a scanned line -/

variable {line before after : List (Char × Role)} {c : Char}

/-- Nothing that can be seen on the line lies outside of comments. -/
def HoldsNoCode (line : List (Char × Role)) : Prop :=
  ∀ x ∈ line, isWhiteSpace x.1 = true ∨ x.2 ≠ .code

theorem HoldsNoCode.append (first : HoldsNoCode before) (second : HoldsNoCode after) :
    HoldsNoCode (before ++ after) :=
  fun x member => (List.mem_append.mp member).elim (first x) (second x)

theorem HoldsNoCode.cons {role : Role} (other : role ≠ .code) (rest : HoldsNoCode line) :
    HoldsNoCode ((c, role) :: line) := by
  intro x member
  rcases List.mem_cons.mp member with rfl | member
  · exact Or.inr other
  · exact rest x member

theorem holdsNoCode_comment (text : Text) : HoldsNoCode (text.map (·, .comment)) := by
  intro x member
  obtain ⟨_, _, rfl⟩ := List.mem_map.mp member
  exact Or.inr Role.noConfusion

theorem holdsNoCode_of_isBlank {blanks : Text} (blank : isBlank blanks = true) (role : Role) :
    HoldsNoCode (blanks.map (·, role)) := by
  intro x member
  obtain ⟨c, inBlanks, rfl⟩ := List.mem_map.mp member
  exact Or.inl (isBlank_iff.mp blank c inBlanks)

theorem all_isWhiteSpace_iff :
    (line.all fun (c, _) => isWhiteSpace c) = true ↔ isBlank (line.map Prod.fst) = true := by
  simp [isBlank]

theorem lineKind_of_isBlank (blank : isBlank (line.map Prod.fst) = true) :
    lineKind line = .blank :=
  if_pos (all_isWhiteSpace_iff.mpr blank)

theorem lineKind_of_holdsNoCode (shown : ¬ isBlank (line.map Prod.fst) = true)
    (comments : HoldsNoCode line) : lineKind line = .comment := by
  rw [lineKind, if_neg (mt all_isWhiteSpace_iff.mp shown), if_pos]
  simpa [HoldsNoCode] using comments

theorem lineKind_of_code (member : (c, .code) ∈ line) (visible : isWhiteSpace c = false) :
    lineKind line = .code := by
  rw [lineKind, if_neg, if_neg]
  · intro comments
    simpa [visible] using List.all_eq_true.mp comments _ member
  · intro blank
    simpa [visible] using List.all_eq_true.mp blank _ member

/-- On a tidy line nothing is seen in front of a block. -/
theorem IsTidyLine.blank_before (tidy : IsTidyLine line)
    (same : line = before ++ (c, .opener) :: after) : ∀ x ∈ before, isWhiteSpace x.1 = true := by
  subst same
  intro x member
  obtain ⟨j, within, rfl⟩ := List.mem_iff_getElem.mp member
  have blank := tidy.opener ⟨before.length, by simp⟩ (by simp) ⟨j, by simp; omega⟩ within
  simpa [List.getElem_append_left within] using blank

/-- On a tidy line nothing is seen behind a block. -/
theorem IsTidyLine.blank_after (tidy : IsTidyLine line)
    (same : line = before ++ (c, .closer) :: after) : ∀ x ∈ after, isWhiteSpace x.1 = true := by
  subst same
  intro x member
  obtain ⟨j, within, rfl⟩ := List.mem_iff_getElem.mp member
  have blank := tidy.closer ⟨before.length, by simp⟩ (by simp)
    ⟨before.length + (j + 1), by simp; omega⟩ (by simp)
  simpa using blank

/-- A line that starts a block with a short opener holds the end of a block. -/
theorem ClosesShortOpener.exists_closer {x : Char × Role} {role : Role}
    (short : ClosesShortOpener line)
    (same : line = before ++ (c, .opener) :: x :: ('/', role) :: after) :
    ∃ y ∈ line, y.2 = .closer := by
  subst same
  obtain ⟨j, closer⟩ := short ⟨before.length, by simp⟩ (by simp) (by simp)
  exact ⟨_, List.getElem_mem j.isLt, closer⟩

/-- The part of a line from within a block on, when nothing is seen behind the block:
it holds no code, and it leaves the block open just if no mark ends it. -/
theorem scan_block_of_tidy (content : Text)
    (tidy : ∀ inner c after, scan .block content = inner ++ (c, .closer) :: after →
      ∀ x ∈ after, isWhiteSpace x.1 = true) :
    HoldsNoCode (scan .block content) ∧
      (BlockComment.Closes content → modeAfter .block content = .outside) ∧
      (¬ BlockComment.Closes content → modeAfter .block content = .block) := by
  by_cases closes : BlockComment.Closes content
  · obtain ⟨inner, after, -, scanned, mode⟩ := exists_scan_block_of_closer closes
    have blank : isBlank after = true := by
      rw [← map_fst_scan .outside after, ← all_isWhiteSpace_iff]
      exact List.all_eq_true.mpr (tidy _ _ _ scanned)
    obtain ⟨scannedAfter, modeAfter⟩ := scan_outside_of_isBlank blank []
    rw [List.append_nil] at scannedAfter modeAfter
    rw [scan, List.append_nil] at scannedAfter
    refine ⟨?_, fun _ => mode.trans modeAfter, absurd closes⟩
    rw [scanned, scannedAfter]
    exact (holdsNoCode_comment inner).append
      ((holdsNoCode_of_isBlank blank .code).cons Role.noConfusion)
  · obtain ⟨scanned, mode⟩ := scan_block_of_no_closer closes
    rw [scanned, mode]
    exact ⟨holdsNoCode_comment content, fun closed => absurd closed closes, fun _ => rfl⟩

/-! ## One line, counted both ways -/

/-- The mode at the start of a line. -/
def modeOf : BlockComment.State → Mode
  | .outside => .outside
  | .inside => .block

/-- The mode at the start of the next line. -/
def behindBreak : Mode → Mode
  | .opening => .block
  | .block => .block
  | .outside => .outside
  | .closing => .outside
  | .line => .outside

/-- The counter and the scanner agree on a line. -/
def Agree (state : BlockComment.State) (content : Text) : Prop :=
  lineKind (scan (modeOf state) content) = (state.readLine content).1 ∧
    behindBreak (modeAfter (modeOf state) content) = modeOf (state.readLine content).2

open BlockComment (Opens Closes openMark lineMark closeMark)
open BlockComment.State (readLine_of_isBlank readLine_fst_of_not_isBlank readLine_snd_eq_inside_iff)

/-- The state behind a line that leaves no block open. -/
theorem readLine_snd_eq_outside {state : BlockComment.State}
    (closed : ¬ ((state = .inside ∨ Opens content) ∧ ¬ Closes content)) :
    (state.readLine content).2 = .outside := by
  rw [← readLine_snd_eq_inside_iff] at closed
  cases state : (state.readLine content).2
  · rfl
  · exact absurd state closed

/-- Within a block a line is a comment, which ends on it or does not. -/
theorem agree_inside (tidy : IsTidyLine (scan .block content)) : Agree .inside content := by
  obtain ⟨comments, closed, unclosed⟩ :=
    scan_block_of_tidy content fun _ _ _ same => tidy.blank_after same
  have text : (scan .block content).map Prod.fst = content := map_fst_scan ..
  by_cases blank : isBlank content = true
  · have open_ := unclosed (BlockComment.State.not_closes_of_isBlank blank)
    rw [Agree, readLine_of_isBlank blank]
    exact ⟨lineKind_of_isBlank (text.symm ▸ blank), congrArg behindBreak open_⟩
  · have comment := (readLine_fst_of_not_isBlank .inside blank).2.mpr (Or.inl rfl)
    refine ⟨(lineKind_of_holdsNoCode (text.symm ▸ blank) comments).trans comment.symm, ?_⟩
    by_cases closes : Closes content
    · rw [readLine_snd_eq_outside (fun opened => opened.2 closes)]
      exact congrArg behindBreak (closed closes)
    · rw [readLine_snd_eq_inside_iff.mpr ⟨Or.inl rfl, closes⟩]
      exact congrArg behindBreak (unclosed closes)

theorem scan_openMark (more : Text) :
    scan .outside ('/' :: '*' :: more) = ('/', .opener) :: ('*', .comment) :: scan .block more :=
  rfl

/-! What stands behind the blanks in front of a line decides when no block is open. -/

section FirstThing

variable {blanks more : Text} (blank : isBlank blanks = true)

include blank

/-- A line starts with a mark when the mark stands behind the blanks. -/
theorem isPrefix_trim_behind_blanks {mark : Text} (visibleMark : IsVisible mark)
    (visible : isWhiteSpace c = false) :
    mark <+: trim (blanks ++ c :: more) ↔ mark <+: c :: more := by
  rw [isPrefix_trim_iff visibleMark, trimStart_append_cons blank visible]

/-- A line that starts with the mark for a line is a comment and no more. -/
theorem agree_of_lineMark (unbroken : IsUnbroken Char.toNat ('/' :: more)) :
    Agree .outside (blanks ++ '/' :: '/' :: more) := by
  obtain ⟨scanned, mode⟩ := scan_outside_of_isBlank blank ('/' :: '/' :: more)
  obtain ⟨scannedMore, modeMore⟩ := scan_line_of_unbroken unbroken
  have slash : isWhiteSpace '/' = false := by decide
  have shown : ¬ isBlank (blanks ++ '/' :: '/' :: more) = true :=
    not_isBlank_of_mem (List.mem_append_right _ List.mem_cons_self) slash
  have starts : lineMark <+: trim (blanks ++ '/' :: '/' :: more) :=
    (isPrefix_trim_behind_blanks blank BlockComment.State.isVisible_lineMark slash).mpr
      (List.prefix_append ['/', '/'] more)
  have comment := (readLine_fst_of_not_isBlank .outside shown).2.mpr
    (Or.inr (Or.inl starts))
  have comments : HoldsNoCode (scan .outside (blanks ++ '/' :: '/' :: more)) := by
    rw [scanned, scan, show scanChar .outside '/' _ = (.comment, .line) from rfl, scannedMore]
    exact (holdsNoCode_of_isBlank blank .code).append
      ((holdsNoCode_comment _).cons Role.noConfusion)
  have outside : ((BlockComment.State.outside).readLine
      (blanks ++ '/' :: '/' :: more)).2 = .outside :=
    readLine_snd_eq_outside fun ⟨opened, _⟩ => opened.elim BlockComment.State.noConfusion
      (BlockComment.State.not_opens_of_lineMark starts)
  refine ⟨?_, ?_⟩
  · rw [comment]
    exact lineKind_of_holdsNoCode ((map_fst_scan ..).symm ▸ shown) comments
  · rw [outside, modeOf, mode, modeAfter]
    exact congrArg behindBreak modeMore

/-- A block that starts with a short opener and ends on its line ends behind the opener. -/
theorem closes_of_short_opener
    (short : ClosesShortOpener (scan .outside (blanks ++ '/' :: '*' :: more)))
    (next : more.head? = some '/') : Closes more := by
  by_contra open_
  obtain ⟨scanned, -⟩ := scan_outside_of_isBlank blank ('/' :: '*' :: more)
  rw [scan_openMark, (scan_block_of_no_closer open_).1] at scanned
  obtain ⟨more, rfl⟩ := List.head?_eq_some_iff.mp next
  obtain ⟨x, member, closer⟩ := short.exists_closer scanned
  rw [scanned, List.mem_append, List.mem_cons, List.mem_cons] at member
  rcases member with inFront | rfl | rfl | inBlock
  · obtain ⟨_, _, rfl⟩ := List.mem_map.mp inFront
    exact Role.noConfusion closer
  · exact Role.noConfusion closer
  · exact Role.noConfusion closer
  · obtain ⟨_, _, rfl⟩ := List.mem_map.mp inBlock
    exact Role.noConfusion closer

/-- The end of a block is found behind the mark that starts it, unless the two share
their star. -/
theorem closes_behind_openMark_iff (apart : more.head? = some '/' → Closes more) :
    Closes (blanks ++ '/' :: '*' :: more) ↔ Closes more := by
  refine (isInfix_append_iff_of_isBlank blank BlockComment.State.isVisible_closeMark).trans ?_
  rw [List.infix_cons_iff, List.infix_cons_iff, BlockComment.closeMark_isPrefix_cons_iff,
    BlockComment.closeMark_isPrefix_cons_iff]
  simp only [Char.reduceEq, false_and, true_and, false_or]
  exact or_iff_right_of_imp apart

/-- A line that starts with the mark of a block is a comment, which ends on it or does
not. Here the slash of a short opener must not be taken for the end of the block. -/
theorem agree_of_openMark (tidy : IsTidyLine (scan .outside (blanks ++ '/' :: '*' :: more)))
    (short : ClosesShortOpener (scan .outside (blanks ++ '/' :: '*' :: more))) :
    Agree .outside (blanks ++ '/' :: '*' :: more) := by
  obtain ⟨scanned, mode⟩ := scan_outside_of_isBlank blank ('/' :: '*' :: more)
  rw [scan_openMark] at scanned
  obtain ⟨comments, closed, unclosed⟩ := scan_block_of_tidy more fun inner c after same => by
    rw [same, ← List.cons_append, ← List.cons_append, ← List.append_assoc] at scanned
    exact tidy.blank_after scanned
  have slash : isWhiteSpace '/' = false := by decide
  have shown : ¬ isBlank (blanks ++ '/' :: '*' :: more) = true :=
    not_isBlank_of_mem (List.mem_append_right _ List.mem_cons_self) slash
  have opens : Opens (blanks ++ '/' :: '*' :: more) :=
    (isPrefix_trim_behind_blanks blank BlockComment.State.isVisible_openMark slash).mpr
      (List.prefix_append ['/', '*'] more)
  have comment := (readLine_fst_of_not_isBlank .outside shown).2.mpr
    (Or.inr (Or.inr opens))
  have closes_iff := closes_behind_openMark_iff blank (closes_of_short_opener blank short)
  have allComments : HoldsNoCode (scan .outside (blanks ++ '/' :: '*' :: more)) := by
    rw [scanned]
    exact (holdsNoCode_of_isBlank blank .code).append
      ((comments.cons Role.noConfusion).cons Role.noConfusion)
  refine ⟨(lineKind_of_holdsNoCode ((map_fst_scan ..).symm ▸ shown) allComments).trans
    comment.symm, ?_⟩
  rw [modeOf, mode]
  by_cases closes : Closes more
  · rw [readLine_snd_eq_outside (fun opened => opened.2 (closes_iff.mpr closes))]
    exact congrArg behindBreak (closed closes)
  · rw [readLine_snd_eq_inside_iff.mpr ⟨Or.inr opens, mt closes_iff.mp closes⟩]
    exact congrArg behindBreak (unclosed closes)

/-- A line that starts with anything else is code, and on a tidy line no block starts
later. -/
theorem agree_of_code (unbroken : IsUnbroken Char.toNat more) (visible : isWhiteSpace c = false)
    (notComment : ¬ (c = '/' ∧ more.head? = some '/'))
    (notOpener : ¬ (c = '/' ∧ more.head? = some '*'))
    (tidy : IsTidyLine (scan .outside (blanks ++ c :: more))) :
    Agree .outside (blanks ++ c :: more) := by
  obtain ⟨scanned, mode⟩ := scan_outside_of_isBlank blank (c :: more)
  have here : scanChar .outside c more.head? = (.code, .outside) := by
    rw [scanChar, if_neg notComment, if_neg notOpener]
  rw [scan, here] at scanned
  rw [modeAfter, here] at mode
  have noOpener : ∀ x ∈ scan .outside more, x.2 ≠ .opener := by
    rintro ⟨d, role⟩ member rfl
    obtain ⟨before, after, same⟩ := List.append_of_mem member
    rw [same, ← List.cons_append, ← List.append_assoc] at scanned
    have blankHere := tidy.blank_before scanned (c, .code)
      (List.mem_append_right _ List.mem_cons_self)
    exact Bool.noConfusion (visible.symm.trans blankHere)
  have shown : ¬ isBlank (blanks ++ c :: more) = true :=
    not_isBlank_of_mem (List.mem_append_right _ List.mem_cons_self) visible
  have notLineMark : ¬ lineMark <+: trim (blanks ++ c :: more) := by
    rw [isPrefix_trim_behind_blanks blank BlockComment.State.isVisible_lineMark visible,
      BlockComment.lineMark_isPrefix_cons_iff]
    exact notComment
  have notOpens : ¬ Opens (blanks ++ c :: more) := by
    rw [Opens, isPrefix_trim_behind_blanks blank BlockComment.State.isVisible_openMark visible,
      BlockComment.openMark_isPrefix_cons_iff]
    exact notOpener
  have code : ((BlockComment.State.outside).readLine (blanks ++ c :: more)).1 = .code := by
    obtain ⟨notBlank, comment_iff⟩ := readLine_fst_of_not_isBlank .outside shown
    have notComment := mt comment_iff.mp fun reason =>
      reason.elim BlockComment.State.noConfusion fun starts => starts.elim notLineMark notOpens
    cases kind : ((BlockComment.State.outside).readLine (blanks ++ c :: more)).1 with
    | code => rfl
    | comment => exact absurd kind notComment
    | blank => exact absurd kind notBlank
  have outside : ((BlockComment.State.outside).readLine (blanks ++ c :: more)).2 = .outside :=
    readLine_snd_eq_outside fun opened => opened.1.elim BlockComment.State.noConfusion notOpens
  refine ⟨(lineKind_of_code ?_ visible).trans code.symm, ?_⟩
  · rw [modeOf, scanned]
    exact List.mem_append_right _ List.mem_cons_self
  · rw [outside, modeOf, mode]
    rcases modeAfter_outside_of_no_opener unbroken noOpener with mode | mode
    · exact congrArg behindBreak mode
    · exact congrArg behindBreak mode

end FirstThing

/-- Outside of blocks the first thing on a line says what the line is. -/
theorem agree_outside (unbroken : IsUnbroken Char.toNat content)
    (tidy : IsTidyLine (scan .outside content))
    (short : ClosesShortOpener (scan .outside content)) : Agree .outside content := by
  obtain ⟨blanks, rest, blank, start, rfl⟩ : ∃ blanks rest, isBlank blanks = true ∧
      (∀ c ∈ rest.head?, isWhiteSpace c = false) ∧ content = blanks ++ rest :=
    ⟨content.takeWhile isWhiteSpace, trimStart content,
      isBlank_iff.mpr fun c => List.mem_takeWhile_imp,
      isWhiteSpace_of_head?_trimStart content,
      List.takeWhile_append_dropWhile.symm⟩
  cases rest with
  | nil =>
      obtain ⟨-, mode⟩ := scan_outside_of_isBlank blank []
      rw [List.append_nil] at mode ⊢
      rw [Agree, readLine_of_isBlank blank]
      exact ⟨lineKind_of_isBlank ((map_fst_scan ..).symm ▸ blank), congrArg behindBreak mode⟩
  | cons c more =>
      have visible : isWhiteSpace c = false := start c rfl
      have unbrokenMore : IsUnbroken Char.toNat more := fun d member =>
        unbroken d (List.mem_append_right _ (List.mem_cons_of_mem _ member))
      by_cases comments : c = '/' ∧ more.head? = some '/'
      · obtain ⟨rfl, next⟩ := comments
        obtain ⟨more, rfl⟩ := List.head?_eq_some_iff.mp next
        exact agree_of_lineMark blank unbrokenMore
      · by_cases opens : c = '/' ∧ more.head? = some '*'
        · obtain ⟨rfl, next⟩ := opens
          obtain ⟨more, rfl⟩ := List.head?_eq_some_iff.mp next
          exact agree_of_openMark blank tidy short
        · exact agree_of_code blank unbrokenMore visible comments opens tidy

/-! ## Line after line -/

/-- Behind a line break stands the start of a line, whatever the break is. -/
theorem scan_break (mode : Mode) {c : Char}
    (breaks : IsLineFeed Char.toNat c ∨ IsReturn Char.toNat c) (rest : Text) :
    ∃ role, scan mode (c :: rest) = (c, role) :: scan (behindBreak mode) rest := by
  refine ⟨(scanChar mode c rest.head?).1, ?_⟩
  have behind : (scanChar mode c rest.head?).2 = behindBreak mode := by
    rw [PhysicalLines.isLineFeed_toNat_iff, PhysicalLines.isReturn_toNat_iff] at breaks
    rcases breaks with rfl | rfl <;> cases mode <;> simp [scanChar, behindBreak]
  rw [scan, behind]

theorem scan_mark (mode : Mode) {ending : Ending} {mark rest : Text}
    (ends : Ends Char.toNat ending mark rest) :
    ∃ marked, scan mode (mark ++ rest) = marked ++ scan (behindBreak mode) rest ∧
      marked.map Prod.fst = mark := by
  cases ends with
  | @lineFeed x rest feeds =>
      obtain ⟨role, scanned⟩ := scan_break mode (Or.inl feeds) rest
      exact ⟨[(x, role)], scanned, rfl⟩
  | @carriageReturn x rest returns alone =>
      obtain ⟨role, scanned⟩ := scan_break mode (Or.inr returns) rest
      exact ⟨[(x, role)], scanned, rfl⟩
  | @both x y rest returns feeds =>
      obtain ⟨role, scanned⟩ := scan_break mode (Or.inr returns) (y :: rest)
      obtain ⟨second, scannedSecond⟩ := scan_break (behindBreak mode) (Or.inl feeds) rest
      have sameMode : behindBreak (behindBreak mode) = behindBreak mode := by cases mode <;> rfl
      rw [scannedSecond, sameMode] at scanned
      exact ⟨[(x, role), (y, second)], scanned, rfl⟩

theorem isUnbroken_scan (mode : Mode) (unbroken : IsUnbroken Char.toNat content) :
    IsUnbroken (Char.toNat ∘ Prod.fst) (scan mode content) :=
  .of_map ((map_fst_scan mode content).symm ▸ unbroken)

/-- A text that is one line is scanned as one. -/
theorem scannedLinesFrom_of_unbroken (mode : Mode) (notEmpty : content ≠ [])
    (unbroken : IsUnbroken Char.toNat content) :
    scannedLinesFrom mode content = [scan mode content] := by
  have notEmptyScan : scan mode content ≠ [] := by
    intro empty
    have text := map_fst_scan mode content
    rw [empty] at text
    exact notEmpty text.symm
  rw [scannedLinesFrom, cutLines_of_unbroken notEmptyScan (isUnbroken_scan mode unbroken)]
  rfl

/-- The scanned lines of a text are its first line and those behind the ending. -/
theorem scannedLinesFrom_append (mode : Mode) {ending : Ending} {mark rest : Text}
    (unbroken : IsUnbroken Char.toNat content) (ends : Ends Char.toNat ending mark rest) :
    scannedLinesFrom mode (content ++ mark ++ rest) =
      scan mode content :: scannedLinesFrom (behindBreak (modeAfter mode content)) rest := by
  obtain ⟨marked, scannedMark, same⟩ := scan_mark (modeAfter mode content) ends
  have breaks : ∀ c ∈ (mark ++ rest).head?, c = '\n' ∨ c = '\r' := by
    obtain ⟨x, more, rfl, breaks⟩ := ends.exists_head
    rintro c ⟨⟩
    rwa [PhysicalLines.isLineFeed_toNat_iff, PhysicalLines.isReturn_toNat_iff] at breaks
  have endsScan : Ends (Char.toNat ∘ Prod.fst) ending marked
      (scan (behindBreak (modeAfter mode content)) rest) :=
    .of_map (by rwa [same, map_fst_scan])
  rw [scannedLinesFrom, List.append_assoc, scan_append _ _ breaks, scannedMark,
    ← List.append_assoc, cutLines_append (isUnbroken_scan mode unbroken) endsScan]
  rfl

/-- From a line start on, tidy lines have the kinds that they are read as. -/
theorem map_lineKind_eq_kinds (state : BlockComment.State) (text : Text)
    (tidy : ∀ line ∈ scannedLinesFrom (modeOf state) text, IsTidyLine line)
    (short : ∀ line ∈ scannedLinesFrom (modeOf state) text, ClosesShortOpener line) :
    (scannedLinesFrom (modeOf state) text).map lineKind = state.kinds (physicalLines text) := by
  have agree (state : BlockComment.State) {content : Text}
      (unbroken : IsUnbroken Char.toNat content) (tidy : IsTidyLine (scan (modeOf state) content))
      (short : ClosesShortOpener (scan (modeOf state) content)) : Agree state content := by
    cases state with
    | outside => exact agree_outside unbroken tidy short
    | inside => exact agree_inside tidy
  rw [physicalLines_eq_map_cutLines]
  induction text using cutLines_induction Char.toNat generalizing state with
  | nil => rfl
  | last content notEmpty unbroken =>
      rw [scannedLinesFrom_of_unbroken _ notEmpty unbroken] at tidy short ⊢
      obtain ⟨kind, -⟩ :=
        agree state unbroken (tidy _ List.mem_cons_self) (short _ List.mem_cons_self)
      rw [cutLines_of_unbroken notEmpty unbroken, List.map_singleton, kind]
      rfl
  | line content ending mark rest unbroken ends ih =>
      rw [scannedLinesFrom_append _ unbroken ends] at tidy short ⊢
      obtain ⟨kind, mode⟩ :=
        agree state unbroken (tidy _ List.mem_cons_self) (short _ List.mem_cons_self)
      rw [mode] at tidy short ⊢
      rw [List.map_cons, kind, cutLines_append unbroken ends, List.map_cons,
        ih _ (fun line member => tidy line (List.mem_cons_of_mem _ member))
          (fun line member => short line (List.mem_cons_of_mem _ member))]
      rfl

end CommentScanner

namespace BlockComment

open CommentScanner (scannedLines IsTidyLine ClosesShortOpener)

/-- Where every block starts as the first thing on its line and ends as the last thing
on one, and none that starts with a short opener is left open by its line, the lines
count alike by their starts and by their characters. -/
theorem count_eq_scanned_count {text : Text} (tidy : ∀ line ∈ scannedLines text, IsTidyLine line)
    (short : ∀ line ∈ scannedLines text, ClosesShortOpener line) :
    count text = CommentScanner.count text := by
  have kinds := CommentScanner.map_lineKind_eq_kinds .outside text tidy short
  rw [count, State.countText, State.countLines_eq, ← kinds]
  rfl

/-- Short openers, line breaks of every kind, and marks within comments. -/
def smallText : Text :=
  " /*/ a */\r\n/* b\r\r*/\nx // /* y\n// */".toList

theorem count_eq_scanned_count_smallText :
    (∀ line ∈ scannedLines smallText, IsTidyLine line) ∧
      (∀ line ∈ scannedLines smallText, ClosesShortOpener line) ∧
      count smallText = CommentScanner.count smallText ∧
      CommentScanner.count smallText = ⟨1, 4, 1, 0⟩ :=
  have tidy : ∀ line ∈ scannedLines smallText, IsTidyLine line := by decide
  have short : ∀ line ∈ scannedLines smallText, ClosesShortOpener line := by decide
  ⟨tidy, short, count_eq_scanned_count tidy short, by decide⟩

/-- A block that starts with a short opener and is left open by its line. -/
def shortOpenerText : Text :=
  "/*/\nx\n*/\n".toList

/-- The slash of a short opener is taken for the end of the block, so the lines of the
block are taken for code. -/
theorem short_opener_ends_block :
    (∀ line ∈ scannedLines shortOpenerText, IsTidyLine line) ∧
      count shortOpenerText = ⟨2, 1, 0, 0⟩ ∧
      CommentScanner.count shortOpenerText = ⟨0, 3, 0, 0⟩ ∧
      count shortOpenerText ≠ CommentScanner.count shortOpenerText := by
  decide

end BlockComment

end SourceLines
