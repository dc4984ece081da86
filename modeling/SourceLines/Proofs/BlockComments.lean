/-
# Which lines are comments

Reading lines one after another, a block is open or not. Said without a state:
before a line a block is open when an earlier line opened one and no line since
has closed it, or when one was open from the start and no line has closed it. It
does not matter whether a block was open already at the line that opens one. The
kind of a line depends on nothing but the line itself and on whether a block is
open before it.
-/

import SourceLines.Lines.BlockComment
import SourceLines.Proofs.Trimming

namespace SourceLines

namespace LineCounts

/-- The counts of lines of these kinds. -/
def ofKinds (kinds : List LineKind) : LineCounts :=
  ⟨kinds.count .code, kinds.count .comment, kinds.count .blank, 0⟩

theorem zero_add (counts : LineCounts) : zero + counts = counts := by
  cases counts
  exact (LineCounts.mk.injEq ..).mpr
    ⟨Nat.zero_add _, Nat.zero_add _, Nat.zero_add _, Nat.zero_add _⟩

theorem add_assoc (first second third : LineCounts) :
    first + second + third = first + (second + third) :=
  (LineCounts.mk.injEq ..).mpr
    ⟨Nat.add_assoc .., Nat.add_assoc .., Nat.add_assoc .., Nat.add_assoc ..⟩

theorem ofKinds_cons (kind : LineKind) (kinds : List LineKind) :
    ofKinds (kind :: kinds) = ofKind kind + ofKinds kinds := by
  cases kind <;>
    exact (LineCounts.mk.injEq ..).mpr (by simp [ofKind, ofKinds, Nat.add_comm])

theorem ofKinds_append (first second : List LineKind) :
    ofKinds (first ++ second) = ofKinds first + ofKinds second :=
  (LineCounts.mk.injEq ..).mpr
    ⟨List.count_append, List.count_append, List.count_append, (Nat.add_zero _).symm⟩

/-- Every line is of one kind. -/
theorem classified_ofKinds (kinds : List LineKind) : (ofKinds kinds).classified = kinds.length := by
  induction kinds with
  | nil => rfl
  | cons kind kinds ih =>
      rw [ofKinds_cons, List.length_cons, ← ih]
      cases kind <;> simp [classified, ofKind] <;> omega

end LineCounts

namespace BlockComment

variable {line : Text} {lines : List Text} {state start : State}

/-- The line holds the mark that ends a block. -/
def Closes (line : Text) : Prop :=
  closeMark <:+: line

/-- The mark of a block is the first thing to be seen in the line. -/
def Opens (line : Text) : Prop :=
  openMark <+: trim line

/-- A block is open before the line at a position. -/
def InsideAt (start : State) (lines : List Text) (position : Nat) : Prop :=
  (start = .inside ∧ ∀ i : Fin lines.length, i < position → ¬ Closes lines[i]) ∨
    ∃ j : Fin lines.length, j < position ∧ Opens lines[j] ∧ ¬ Closes lines[j] ∧
      ∀ i : Fin lines.length, j < i → i < position → ¬ Closes lines[i]

/-- The line at a position is of this kind. -/
def IsOfKind (start : State) (lines : List Text) (position : Fin lines.length) :
    LineKind → Prop
  | .blank => ∀ c ∈ lines[position], isWhiteSpace c = true
  | .comment =>
      (∃ c ∈ lines[position], isWhiteSpace c = false) ∧
        (InsideAt start lines position ∨ lineMark <+: trim lines[position] ∨
          openMark <+: trim lines[position])
  | .code =>
      (∃ c ∈ lines[position], isWhiteSpace c = false) ∧
        ¬ (InsideAt start lines position ∨ lineMark <+: trim lines[position] ∨
          openMark <+: trim lines[position])

/-- A mark of two characters stands in front when the two stand there. -/
theorem isPrefix_cons_iff {a b c : Char} {rest : Text} :
    [a, b] <+: c :: rest ↔ c = a ∧ rest.head? = some b := by
  rw [List.cons_prefix_cons]
  cases rest with
  | nil => simp
  | cons d rest => simp [List.cons_prefix_cons, eq_comm]

theorem lineMark_isPrefix_cons_iff {c : Char} {rest : Text} :
    lineMark <+: c :: rest ↔ c = '/' ∧ rest.head? = some '/' := isPrefix_cons_iff

theorem openMark_isPrefix_cons_iff {c : Char} {rest : Text} :
    openMark <+: c :: rest ↔ c = '/' ∧ rest.head? = some '*' := isPrefix_cons_iff

theorem closeMark_isPrefix_cons_iff {c : Char} {rest : Text} :
    closeMark <+: c :: rest ↔ c = '*' ∧ rest.head? = some '/' := isPrefix_cons_iff

namespace State

/-- Whether a block is open after some lines. -/
def after (state : State) (lines : List Text) : State :=
  lines.foldl (fun state line => (state.readLine line).2) state

/-- The kinds of lines that are read one after another. -/
def kinds : State → List Text → List LineKind
  | _, [] => []
  | state, line :: rest => (state.readLine line).1 :: (state.readLine line).2.kinds rest

@[simp]
theorem after_nil (state : State) : state.after [] = state := rfl

@[simp]
theorem after_cons (state : State) (line : Text) (rest : List Text) :
    state.after (line :: rest) = (state.readLine line).2.after rest := rfl

theorem after_append (state : State) (first second : List Text) :
    state.after (first ++ second) = (state.after first).after second :=
  List.foldl_append

theorem kinds_append (state : State) (first second : List Text) :
    state.kinds (first ++ second) = state.kinds first ++ (state.after first).kinds second := by
  induction first generalizing state with
  | nil => rfl
  | cons line rest ih =>
      show _ :: State.kinds _ (rest ++ second) = _
      rw [ih]
      rfl

@[simp]
theorem length_kinds (state : State) (lines : List Text) :
    (state.kinds lines).length = lines.length := by
  induction lines generalizing state with
  | nil => rfl
  | cons line rest ih => rw [kinds, List.length_cons, ih, List.length_cons]

/-- The kind of a line is what it is read as after all lines before it. -/
theorem getElem?_kinds (state : State) (lines : List Text) (position : Nat) :
    (state.kinds lines)[position]? =
      lines[position]?.map fun line => ((state.after (lines.take position)).readLine line).1 := by
  induction lines generalizing state position with
  | nil => rfl
  | cons line rest ih =>
      cases position with
      | zero => rfl
      | succ position => exact ih (state.readLine line).2 position

/-! ## One line -/

theorem isVisible_lineMark : IsVisible lineMark := by
  simp [IsVisible, lineMark]
  decide

theorem isVisible_openMark : IsVisible openMark := by
  simp [IsVisible, openMark]
  decide

theorem isVisible_closeMark : IsVisible closeMark := by
  simp [IsVisible, closeMark]
  decide

/-- A blank line closes nothing. -/
theorem not_closes_of_isBlank (blank : isBlank line = true) : ¬ Closes line := by
  intro closes
  have star : isWhiteSpace '*' = true :=
    isBlank_iff.mp blank '*' (closes.subset List.mem_cons_self)
  exact absurd star (by decide)

/-- A blank line opens nothing. -/
theorem not_opens_of_isBlank (blank : isBlank line = true) : ¬ Opens line := by
  intro opens
  rw [Opens, trim_eq_nil_iff.mpr blank, List.prefix_nil] at opens
  exact List.cons_ne_nil _ _ opens

theorem containsList_closeMark_trim_iff :
    containsList closeMark (trim line) = true ↔ Closes line := by
  rw [containsList_iff_isInfix, isInfix_trim_iff isVisible_closeMark, Closes]

/-- No line starts with both marks. -/
theorem not_opens_of_lineMark (starts : lineMark <+: trim line) : ¬ Opens line := by
  rintro ⟨after, same⟩
  rw [← same] at starts
  simp [lineMark, openMark] at starts

theorem readLine_of_isBlank (blank : isBlank line = true) :
    state.readLine line = (.blank, state) := by
  simp [readLine, trim_eq_nil_iff.mpr blank]

/-- A line that is not blank is a comment within a block and when it starts with a
mark, and code otherwise. -/
theorem readLine_fst_of_not_isBlank (state : State) (shown : ¬ isBlank line = true) :
    (state.readLine line).1 ≠ .blank ∧
      ((state.readLine line).1 = .comment ↔
        state = .inside ∨ lineMark <+: trim line ∨ openMark <+: trim line) := by
  have notEmpty : (trim line).isEmpty = false :=
    List.isEmpty_eq_false_iff.mpr (mt trim_eq_nil_iff.mp shown)
  rw [← List.isPrefixOf_iff_prefix, ← List.isPrefixOf_iff_prefix]
  cases state with
  | inside => simp [readLine, notEmpty]
  | outside =>
      by_cases comments : lineMark.isPrefixOf (trim line) = true
      · simp [readLine, notEmpty, comments]
      · by_cases opens : openMark.isPrefixOf (trim line) = true
        · simp [readLine, notEmpty, comments, opens]
        · simp [readLine, notEmpty, comments, opens]

/-- After a line a block is open when one was open before or the line opens one,
unless the line closes it. -/
theorem readLine_snd_eq_inside_iff :
    (state.readLine line).2 = .inside ↔ (state = .inside ∨ Opens line) ∧ ¬ Closes line := by
  by_cases blank : isBlank line = true
  · simp [readLine_of_isBlank blank, not_opens_of_isBlank blank, not_closes_of_isBlank blank]
  · have notEmpty : (trim line).isEmpty = false :=
      List.isEmpty_eq_false_iff.mpr (mt trim_eq_nil_iff.mp blank)
    rw [← containsList_closeMark_trim_iff]
    cases state with
    | inside => simp [readLine, notEmpty]
    | outside =>
        by_cases comments : lineMark.isPrefixOf (trim line) = true
        · have notOpens := not_opens_of_lineMark (List.isPrefixOf_iff_prefix.mp comments)
          simp [readLine, notEmpty, comments, notOpens]
        · by_cases opens : openMark.isPrefixOf (trim line) = true
          · have opened : Opens line := List.isPrefixOf_iff_prefix.mp opens
            simp [readLine, notEmpty, comments, opens, opened]
          · have notOpens : ¬ Opens line := mt List.isPrefixOf_iff_prefix.mpr opens
            simp [readLine, notEmpty, comments, opens, notOpens]

/-! ## Many lines -/

/-- A block is open before the next line when it was open before this one, or this
one opens it, unless this one closes it. -/
theorem insideAt_succ_iff (start : State) (position : Fin lines.length) :
    InsideAt start lines (position + 1) ↔
      (InsideAt start lines position ∨ Opens lines[position]) ∧ ¬ Closes lines[position] := by
  constructor
  · rintro (⟨inside, open_⟩ | ⟨j, before, opens, unclosed, open_⟩)
    · refine ⟨Or.inl (Or.inl ⟨inside, fun i earlier => ?_⟩), open_ position (Nat.lt_succ_self _)⟩
      exact open_ i (Nat.lt_succ_of_lt earlier)
    · rcases Nat.lt_succ_iff_lt_or_eq.mp before with earlier | same
      · refine ⟨Or.inl (Or.inr ⟨j, earlier, opens, unclosed, fun i later earlier => ?_⟩),
          open_ position earlier (Nat.lt_succ_self _)⟩
        exact open_ i later (Nat.lt_succ_of_lt earlier)
      · obtain rfl := Fin.ext same
        exact ⟨Or.inr opens, unclosed⟩
  · rintro ⟨(⟨inside, open_⟩ | ⟨j, before, opens, unclosed, open_⟩) | opens, unclosedHere⟩
    · refine Or.inl ⟨inside, fun i before => ?_⟩
      rcases Nat.lt_succ_iff_lt_or_eq.mp before with earlier | same
      · exact open_ i earlier
      · exact Fin.ext same ▸ unclosedHere
    · refine Or.inr ⟨j, Nat.lt_succ_of_lt before, opens, unclosed, fun i later before => ?_⟩
      rcases Nat.lt_succ_iff_lt_or_eq.mp before with earlier | same
      · exact open_ i later earlier
      · exact Fin.ext same ▸ unclosedHere
    · refine Or.inr ⟨position, Nat.lt_succ_self _, opens, unclosedHere, fun i later before => ?_⟩
      exact absurd (Nat.lt_succ_iff.mp before) (Nat.not_le_of_lt later)

/-- The state before a line says whether a block is open there. -/
theorem after_take_eq_inside_iff (start : State) (lines : List Text) {position : Nat}
    (within : position ≤ lines.length) :
    start.after (lines.take position) = .inside ↔ InsideAt start lines position := by
  induction position with
  | zero => simp [InsideAt]
  | succ position ih =>
      have step := insideAt_succ_iff start (⟨position, within⟩ : Fin lines.length)
      rw [List.take_add_one, List.getElem?_eq_getElem within, after_append]
      exact (readLine_snd_eq_inside_iff.trans
        (and_congr_left fun _ => or_congr_left (ih (Nat.le_of_succ_le within)))).trans step.symm

/-- The kind that a line gets is the kind it has. -/
theorem getElem?_kinds_eq_some_iff (start : State) (lines : List Text)
    (position : Fin lines.length) (kind : LineKind) :
    (start.kinds lines)[position]? = some kind ↔ IsOfKind start lines position kind := by
  have inside := after_take_eq_inside_iff start lines position.isLt.le
  rw [Fin.getElem?_fin, getElem?_kinds, List.getElem?_eq_getElem position.isLt, Option.map_some,
    Option.some_inj]
  by_cases blank : isBlank lines[position] = true
  · have allBlank := isBlank_iff.mp blank
    rw [← Fin.getElem_fin, readLine_of_isBlank blank]
    cases kind with
    | blank => exact iff_of_true rfl allBlank
    | comment => simp_all [IsOfKind]
    | code => simp_all [IsOfKind]
  · have shown : ∃ c ∈ lines[position], isWhiteSpace c = false := by
      simpa [isBlank_iff] using blank
    obtain ⟨notBlank, comments⟩ :=
      readLine_fst_of_not_isBlank (start.after (lines.take position)) blank
    rw [inside] at comments
    rw [← Fin.getElem_fin]
    cases kind with
    | blank => exact iff_of_false notBlank (mt isBlank_iff.mpr blank)
    | comment => exact comments.trans (and_iff_right shown).symm
    | code =>
        rw [IsOfKind, and_iff_right shown, ← comments]
        cases kind : (State.readLine _ lines[position]).1 <;> simp_all

/-! ## Counting -/

/-- Lines that are counted one after another add the counts of their kinds. -/
theorem foldl_readLine (counts : LineCounts) (state : State) (lines : List Text) :
    lines.foldl
        (fun (counts, state) line =>
          let (kind, next) := state.readLine line
          (counts + .ofKind kind, next))
        (counts, state) =
      (counts + .ofKinds (state.kinds lines), state.after lines) := by
  induction lines generalizing counts state with
  | nil => rfl
  | cons line rest ih =>
      rw [List.foldl_cons, ih, kinds, LineCounts.ofKinds_cons, after_cons, LineCounts.add_assoc]

theorem countLines_eq (state : State) (lines : List Text) :
    state.countLines lines = (.ofKinds (state.kinds lines), state.after lines) := by
  rw [countLines, foldl_readLine, LineCounts.zero_add]

/-- Whatever was open at the start, every line has the kind that is said without a
state, a block is open in the end when one is open before a further line, and the
counts of a text are the numbers of its lines of each kind. -/
theorem readLine_closed_form (start : State) :
    (∀ lines : List Text,
      (start.kinds lines).length = lines.length ∧
        (∀ (position : Fin lines.length) (kind : LineKind),
          (start.kinds lines)[position]? = some kind ↔ IsOfKind start lines position kind) ∧
        (start.after lines = .inside ↔ InsideAt start lines lines.length)) ∧
      ∀ text : Text,
        let (counts, state) := start.countText text
        let kinds := start.kinds (physicalLines text)
        state = start.after (physicalLines text) ∧
          counts.code = kinds.count .code ∧
          counts.comment = kinds.count .comment ∧
          counts.blank = kinds.count .blank ∧
          counts.code + counts.comment + counts.blank = (physicalLines text).length ∧
          counts.stringLiteral = 0 := by
  constructor
  · intro lines
    have inside := start.after_take_eq_inside_iff lines le_rfl
    rw [List.take_length] at inside
    exact ⟨start.length_kinds lines, start.getElem?_kinds_eq_some_iff lines, inside⟩
  · intro text
    have conserved := LineCounts.classified_ofKinds (start.kinds (physicalLines text))
    rw [length_kinds] at conserved
    rw [countText, countLines_eq]
    exact ⟨rfl, rfl, rfl, rfl, conserved, rfl⟩

end State

end BlockComment

end SourceLines
