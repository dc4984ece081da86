/-
# Lines with their endings

A list is cut into lines at line feeds, at carriage returns and at pairs of the
two. Nothing but a code for each element is needed to know where, so texts, bytes
and characters with notes beside them are cut alike, and notes that are made on a
text do not change its lines. Whatever is to be shown of all lists of lines is
shown line by line: for the list without elements, for a last line that nothing
ends, and for a line with its ending in front of more lines.
-/

import Mathlib.Data.List.DropRight
import SourceLines.Lines.Physical

namespace SourceLines

variable {α : Type} {code : α → Nat}

/-- What ends a line. -/
inductive Ending
  | lineFeed
  | carriageReturn
  | both
  /-- The list stops, and nothing ends its last line. -/
  | nothing
  deriving DecidableEq, Repr

/-- A line and what ends it. -/
structure CutLine (α : Type) where
  content : List α
  ending : Ending
  deriving DecidableEq, Repr

namespace CutLine

/-- A line with one more element in front. -/
def addFront (x : α) : List (CutLine α) → List (CutLine α)
  | [] => [⟨[x], .nothing⟩]
  | line :: rest => { line with content := x :: line.content } :: rest

end CutLine

/-- The element is a line feed. -/
def IsLineFeed (code : α → Nat) (x : α) : Prop := code x = 10

/-- The element is a carriage return. -/
def IsReturn (code : α → Nat) (x : α) : Prop := code x = 13

instance (x : α) : Decidable (IsLineFeed code x) := inferInstanceAs (Decidable (_ = _))

instance (x : α) : Decidable (IsReturn code x) := inferInstanceAs (Decidable (_ = _))

/-- The lines of a list with their endings. A line feed right behind a carriage
return ends no line of its own. -/
def cutLines (code : α → Nat) : List α → List (CutLine α)
  | [] => []
  | x :: rest =>
      if IsLineFeed code x then ⟨[], .lineFeed⟩ :: cutLines code rest
      else if IsReturn code x then
        if ∃ y ∈ rest.head?, IsLineFeed code y then ⟨[], .both⟩ :: (cutLines code rest).tail
        else ⟨[], .carriageReturn⟩ :: cutLines code rest
      else CutLine.addFront x (cutLines code rest)

/-- No element ends a line. -/
def IsUnbroken (code : α → Nat) (content : List α) : Prop :=
  ∀ x ∈ content, ¬ IsLineFeed code x ∧ ¬ IsReturn code x

/-- These elements end a line in this way when those come behind them. -/
inductive Ends (code : α → Nat) : Ending → List α → List α → Prop
  | lineFeed {x : α} {rest : List α} (feeds : IsLineFeed code x) : Ends code .lineFeed [x] rest
  | carriageReturn {x : α} {rest : List α} (returns : IsReturn code x)
      (alone : ∀ y ∈ rest.head?, ¬ IsLineFeed code y) : Ends code .carriageReturn [x] rest
  | both {x y : α} {rest : List α} (returns : IsReturn code x) (feeds : IsLineFeed code y) :
      Ends code .both [x, y] rest

/-- Elements with notes beside them break lines where the elements do. -/
theorem IsUnbroken.of_map {β : Type} {f : β → α} {content : List β}
    (unbroken : IsUnbroken code (content.map f)) : IsUnbroken (code ∘ f) content :=
  fun x member => unbroken (f x) (List.mem_map_of_mem member)

theorem Ends.of_map {β : Type} {f : β → α} {mark rest : List β} {ending : Ending}
    (ends : Ends code ending (mark.map f) (rest.map f)) : Ends (code ∘ f) ending mark rest := by
  match mark, ends with
  | [x], .lineFeed feeds => exact .lineFeed feeds
  | [x], .carriageReturn returns alone =>
      exact .carriageReturn returns fun y first => alone (f y) (by rw [List.head?_map, first]; rfl)
  | [x, y], .both returns feeds => exact .both returns feeds

theorem not_isReturn_of_isLineFeed {x : α} (feeds : IsLineFeed code x) : ¬ IsReturn code x := by
  unfold IsLineFeed at feeds
  unfold IsReturn
  omega

/-- An ending starts with a line break. -/
theorem Ends.exists_head {mark rest : List α} {ending : Ending}
    (ends : Ends code ending mark rest) :
    ∃ x more, mark = x :: more ∧ (IsLineFeed code x ∨ IsReturn code x) := by
  cases ends with
  | lineFeed feeds => exact ⟨_, _, rfl, Or.inl feeds⟩
  | carriageReturn returns alone => exact ⟨_, _, rfl, Or.inr returns⟩
  | both returns feeds => exact ⟨_, _, rfl, Or.inr returns⟩

/-! ## Line by line -/

/-- The elements of a line do not matter for what comes behind it. -/
theorem cutLines_unbroken_append {content : List α} (unbroken : IsUnbroken code content)
    (rest : List α) :
    cutLines code (content ++ rest) = content.foldr CutLine.addFront (cutLines code rest) := by
  induction content with
  | nil => rfl
  | cons x content ih =>
      obtain ⟨notFeed, notReturn⟩ := unbroken x List.mem_cons_self
      rw [List.cons_append, cutLines, if_neg notFeed, if_neg notReturn,
        ih fun y member => unbroken y (List.mem_cons_of_mem _ member), List.foldr_cons]

theorem foldr_addFront_cons (content : List α) (line : CutLine α) (rest : List (CutLine α)) :
    content.foldr CutLine.addFront (line :: rest) =
      { line with content := content ++ line.content } :: rest := by
  induction content with
  | nil => rfl
  | cons x content ih => rw [List.foldr_cons, ih]; rfl

theorem foldr_addFront_nil {content : List α} (notEmpty : content ≠ []) :
    content.foldr CutLine.addFront [] = [⟨content, .nothing⟩] := by
  induction content with
  | nil => exact absurd rfl notEmpty
  | cons x content ih =>
      cases content with
      | nil => rfl
      | cons y content => rw [List.foldr_cons, ih (List.cons_ne_nil _ _)]; rfl

/-- A last line that nothing ends. -/
theorem cutLines_of_unbroken {content : List α} (notEmpty : content ≠ [])
    (unbroken : IsUnbroken code content) : cutLines code content = [⟨content, .nothing⟩] := by
  have cut := cutLines_unbroken_append unbroken []
  rwa [List.append_nil, cutLines, foldr_addFront_nil notEmpty] at cut

/-- The first line ends where its ending stands. -/
theorem cutLines_append {content mark rest : List α} {ending : Ending}
    (unbroken : IsUnbroken code content) (ends : Ends code ending mark rest) :
    cutLines code (content ++ mark ++ rest) = ⟨content, ending⟩ :: cutLines code rest := by
  have cutMark : cutLines code (mark ++ rest) = ⟨[], ending⟩ :: cutLines code rest := by
    cases ends with
    | lineFeed feeds => rw [List.singleton_append, cutLines, if_pos feeds]
    | carriageReturn returns alone =>
        have notFeed : ¬ IsLineFeed code _ := fun feeds => not_isReturn_of_isLineFeed feeds returns
        rw [List.singleton_append, cutLines, if_neg notFeed, if_pos returns, if_neg]
        exact fun ⟨y, first, feeds⟩ => alone y first feeds
    | both returns feeds =>
        have notFeed : ¬ IsLineFeed code _ := fun feeds => not_isReturn_of_isLineFeed feeds returns
        rw [List.cons_append, cutLines, if_neg notFeed, if_pos returns, if_pos ⟨_, rfl, feeds⟩,
          List.singleton_append, cutLines, if_pos feeds, List.tail_cons]
  rw [List.append_assoc, cutLines_unbroken_append unbroken, cutMark, foldr_addFront_cons,
    List.append_nil]

/-- What holds of no lines, of a last line that nothing ends, and of a line with its
ending in front of lines of which it holds, holds of every list. -/
theorem cutLines_induction (code : α → Nat) {motive : List α → Prop} (nil : motive [])
    (last : ∀ content, content ≠ [] → IsUnbroken code content → motive content)
    (line : ∀ content ending mark rest, IsUnbroken code content → Ends code ending mark rest →
      motive rest → motive (content ++ mark ++ rest))
    (list : List α) : motive list := by
  let isInner (x : α) : Bool := !decide (IsLineFeed code x) && !decide (IsReturn code x)
  have unbroken : IsUnbroken code (list.takeWhile isInner) := by
    intro x member
    simpa [isInner] using List.mem_takeWhile_imp member
  have whole : list.takeWhile isInner ++ list.dropWhile isInner = list :=
    List.takeWhile_append_dropWhile
  cases remaining : list.dropWhile isInner with
  | nil =>
      rw [remaining, List.append_nil] at whole
      rw [whole] at unbroken
      by_cases empty : list = []
      · exact empty ▸ nil
      · exact last list empty unbroken
  | cons x rest =>
      have shorter : rest.length < list.length := by
        have length := congrArg List.length whole
        rw [remaining, List.length_append, List.length_cons] at length
        omega
      have breaks : IsLineFeed code x ∨ IsReturn code x := by
        have outer := List.head?_dropWhile_not isInner list
        rw [remaining] at outer
        simpa [isInner, or_iff_not_imp_left] using outer
      rw [remaining] at whole
      rcases breaks with feeds | returns
      · have step := line _ .lineFeed [x] rest unbroken (.lineFeed feeds)
          (cutLines_induction code nil last line rest)
        rwa [List.append_assoc, List.singleton_append, whole] at step
      · by_cases paired : ∃ y ∈ rest.head?, IsLineFeed code y
        · obtain ⟨y, first, feeds⟩ := paired
          obtain ⟨more, rfl⟩ := List.head?_eq_some_iff.mp first
          have step := line _ .both [x, y] more unbroken (.both returns feeds)
            (cutLines_induction code nil last line more)
          rwa [List.append_assoc, List.cons_append, List.singleton_append, whole] at step
        · have alone : ∀ y ∈ rest.head?, ¬ IsLineFeed code y :=
            fun y first feeds => paired ⟨y, first, feeds⟩
          have step := line _ .carriageReturn [x] rest unbroken (.carriageReturn returns alone)
            (cutLines_induction code nil last line rest)
          rwa [List.append_assoc, List.singleton_append, whole] at step
termination_by list.length
decreasing_by
  · exact shorter
  · rw [List.length_cons] at shorter
    omega
  · exact shorter

/-! ## The lines of a text -/

namespace PhysicalLines

theorem isLineFeed_toNat_iff {c : Char} : IsLineFeed Char.toNat c ↔ c = '\n' := by
  rw [IsLineFeed, ← Char.toNat_inj]
  rfl

theorem isReturn_toNat_iff {c : Char} : IsReturn Char.toNat c ↔ c = '\r' := by
  rw [IsReturn, ← Char.toNat_inj]
  rfl

/-- The characters of a line are kept in reverse until it ends. -/
theorem read_unbroken {content : Text} (unbroken : IsUnbroken Char.toNat content)
    (finished : List Text) (line rest : Text) :
    read finished line (content ++ rest) = read finished (content.reverse ++ line) rest := by
  induction content generalizing line with
  | nil => rfl
  | cons c content ih =>
      obtain ⟨notFeed, notReturn⟩ := unbroken c List.mem_cons_self
      rw [isLineFeed_toNat_iff] at notFeed
      rw [isReturn_toNat_iff] at notReturn
      rw [List.cons_append, read, if_neg (by simp [notFeed, notReturn]), if_neg notReturn,
        ih fun d member => unbroken d (List.mem_cons_of_mem _ member), List.reverse_cons,
        List.append_assoc, List.singleton_append]

/-- An ending puts the open line among the finished ones. -/
theorem read_mark {ending : Ending} {mark rest : Text} (ends : Ends Char.toNat ending mark rest)
    (line : Text) : read [] line (mark ++ rest) = line.reverse :: read [] [] rest := by
  cases ends with
  | lineFeed feeds =>
      obtain rfl := isLineFeed_toNat_iff.mp feeds
      rw [List.singleton_append, read, if_pos (Or.inl rfl), read_eq_append]
      rfl
  | carriageReturn returns alone =>
      obtain rfl := isReturn_toNat_iff.mp returns
      have notFeed : rest.head? ≠ some '\n' := fun first =>
        alone '\n' first (isLineFeed_toNat_iff.mpr rfl)
      rw [List.singleton_append, read, if_pos (Or.inr ⟨rfl, notFeed⟩), read_eq_append]
      rfl
  | both returns feeds =>
      obtain rfl := isReturn_toNat_iff.mp returns
      obtain rfl := isLineFeed_toNat_iff.mp feeds
      rw [List.cons_append, read, if_neg (by simp), if_pos rfl, List.singleton_append, read,
        if_pos (Or.inl rfl), read_eq_append]
      rfl

end PhysicalLines

/-- The physical lines of a text are its lines without their endings. -/
theorem physicalLines_eq_map_cutLines (text : Text) :
    physicalLines text = (cutLines Char.toNat text).map CutLine.content := by
  unfold physicalLines
  induction text using cutLines_induction Char.toNat with
  | nil => rfl
  | last content notEmpty unbroken =>
      have read := PhysicalLines.read_unbroken unbroken [] [] []
      rw [List.append_nil, List.append_nil] at read
      rw [read, cutLines_of_unbroken notEmpty unbroken, PhysicalLines.read]
      simp [notEmpty]
  | line content ending mark rest unbroken ends ih =>
      rw [cutLines_append unbroken ends, List.map_cons, ← ih, List.append_assoc,
        PhysicalLines.read_unbroken unbroken, PhysicalLines.read_mark ends, List.append_nil,
        List.reverse_reverse]

end SourceLines
