/-
# What trimming keeps

Trimming takes white space away from both ends of a text and nothing else. So a
word of visible characters stands in a text exactly when it stands in the trimmed
text, and the trimmed text starts with it exactly when it is the first thing to be
seen in the text.
-/

import Mathlib.Data.List.DropRight
import SourceLines.Text.WhiteSpace

namespace SourceLines

variable {text front back needle : Text}

/-- No character of the text is white space. -/
def IsVisible (text : Text) : Prop :=
  ∀ c ∈ text, isWhiteSpace c = false

theorem isBlank_iff : isBlank text = true ↔ ∀ c ∈ text, isWhiteSpace c = true :=
  List.all_eq_true

/-! ## One end at a time -/

/-- White space in front of a visible character is all that goes. -/
theorem trimStart_append (visible : ∀ c ∈ back.head?, isWhiteSpace c = false) :
    trimStart (front ++ back) = trimStart front ++ back := by
  rw [trimStart, List.dropWhile_append]
  split
  · next gone =>
    rw [trimStart, List.isEmpty_iff.mp gone, List.nil_append]
    cases back with
    | nil => rfl
    | cons c rest => exact List.dropWhile_cons_of_neg (by simp [visible c rfl])
  · rfl

/-- White space behind a visible character is all that goes. -/
theorem trimEnd_append (visible : ∀ c ∈ front.getLast?, isWhiteSpace c = false) :
    trimEnd (front ++ back) = front ++ trimEnd back := by
  have shown : trimStart (back.reverse ++ front.reverse) =
      trimStart back.reverse ++ front.reverse :=
    trimStart_append (by rwa [List.head?_reverse])
  rw [trimEnd, List.reverse_append]
  exact (congrArg List.reverse shown).trans (by rw [List.reverse_append, List.reverse_reverse]; rfl)

theorem trimStart_of_isBlank (blank : isBlank text = true) : trimStart text = [] :=
  List.dropWhile_eq_nil_iff.mpr (isBlank_iff.mp blank)

/-- What a text starts with behind its blanks can be seen. -/
theorem isWhiteSpace_of_head?_trimStart (text : Text) :
    ∀ c ∈ (trimStart text).head?, isWhiteSpace c = false := by
  intro c first
  have visible := List.head?_dropWhile_not isWhiteSpace text
  rw [← trimStart, first] at visible
  exact visible

theorem trimEnd_isPrefix (text : Text) : trimEnd text <+: text :=
  List.rdropWhile_prefix isWhiteSpace text

/-! ## Both ends -/

theorem trim_isInfix (text : Text) : trim text <:+: text :=
  (trimEnd_isPrefix _).isInfix.trans (List.dropWhile_suffix isWhiteSpace).isInfix

/-- White space in front does not matter. -/
theorem trim_append_of_isBlank (blank : isBlank front = true) :
    trim (front ++ back) = trim back := by
  rw [trim, trimStart, List.dropWhile_append, ← trimStart, trimStart_of_isBlank blank]
  rfl

/-- Nothing is left of a blank text, and of no other. -/
theorem trim_eq_nil_iff : trim text = [] ↔ isBlank text = true := by
  rw [isBlank_iff, trim, trimEnd, List.reverse_eq_nil_iff, List.dropWhile_eq_nil_iff]
  constructor
  · intro blank c member
    rw [← List.takeWhile_append_dropWhile (p := isWhiteSpace) (l := text)] at member
    rcases List.mem_append.mp member with taken | left
    · exact List.mem_takeWhile_imp taken
    · exact blank c (List.mem_reverse.mpr left)
  · intro blank c member
    exact blank c ((List.dropWhile_suffix _).subset (List.mem_reverse.mp member))

/-- White space behind does not matter. -/
theorem trim_append_of_isBlank_behind (blank : isBlank back = true) :
    trim (front ++ back) = trim front := by
  by_cases shown : isBlank front = true
  · rw [trim_append_of_isBlank shown, trim_eq_nil_iff.mpr shown, trim_eq_nil_iff.mpr blank]
  · have starts : trimStart (front ++ back) = trimStart front ++ back := by
      rw [trimStart, List.dropWhile_append, if_neg]
      · rfl
      · rw [List.isEmpty_iff, List.dropWhile_eq_nil_iff]
        exact mt isBlank_iff.mpr shown
    have ends : ∀ c ∈ back.reverse, isWhiteSpace c = true :=
      fun c member => isBlank_iff.mp blank c (List.mem_reverse.mp member)
    rw [trim, starts, trimEnd, List.reverse_append, List.dropWhile_append_of_pos ends]
    rfl

/-- A visible word stands in a trimmed text when it stands in the text. -/
theorem isInfix_trim_iff (visible : IsVisible needle) :
    needle <:+: trim text ↔ needle <:+: text := by
  constructor
  · exact fun found => found.trans (trim_isInfix text)
  · rintro ⟨before, after, rfl⟩
    cases needle with
    | nil => exact List.nil_infix
    | cons c more =>
        have shownStart : ∀ d ∈ ((c :: more) ++ after).head?, isWhiteSpace d = false := by
          rintro d ⟨⟩
          exact visible c List.mem_cons_self
        have shownEnd : ∀ d ∈ (trimStart before ++ c :: more).getLast?, isWhiteSpace d = false := by
          intro d last
          rw [List.getLast?_append_of_ne_nil _ (List.cons_ne_nil c more)] at last
          exact visible d (List.mem_of_getLast? last)
        rw [trim, List.append_assoc, trimStart_append shownStart, ← List.append_assoc,
          trimEnd_append shownEnd]
        exact ⟨trimStart before, trimEnd after, rfl⟩

/-- Blanks in front hold no visible character, so they are no part of a visible word. -/
theorem isInfix_append_iff_of_isBlank (blank : isBlank front = true) (visible : IsVisible needle) :
    needle <:+: front ++ back ↔ needle <:+: back := by
  rw [← isInfix_trim_iff visible, trim_append_of_isBlank blank, isInfix_trim_iff visible]

/-- A trimmed text starts with a visible word when the word is the first thing to
be seen in the text. -/
theorem isPrefix_trim_iff (visible : IsVisible needle) :
    needle <+: trim text ↔ needle <+: trimStart text := by
  constructor
  · exact fun starts => starts.trans (trimEnd_isPrefix _)
  · rintro ⟨after, same⟩
    have shown : ∀ d ∈ needle.getLast?, isWhiteSpace d = false :=
      fun d last => visible d (List.mem_of_getLast? last)
    rw [trim, ← same, trimEnd_append shown]
    exact List.prefix_append ..

/-- The first thing to be seen in a text is what it starts with behind the blanks. -/
theorem trimStart_append_cons {c : Char} (blank : isBlank front = true)
    (visible : isWhiteSpace c = false) : trimStart (front ++ c :: back) = c :: back := by
  rw [trimStart_append (by rintro d ⟨⟩; exact visible), trimStart_of_isBlank blank]
  rfl

theorem not_isBlank_of_mem {c : Char} (member : c ∈ text) (visible : isWhiteSpace c = false) :
    ¬ isBlank text = true := by
  intro blank
  rw [isBlank_iff.mp blank c member] at visible
  exact Bool.noConfusion visible

end SourceLines
