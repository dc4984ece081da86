/-
# Printed values are spelled

What is printed for a value is one of its spellings, with line breaks and spaces as
white space, whatever the level of nesting at which it is printed. A plain value is
therefore read back from its text as itself.
-/

import SourceLines.Json.Printer
import SourceLines.Proofs.JsonReading

namespace SourceLines

namespace Json

namespace Printer

/-! ## Strings -/

theorem hexDigit?_digitChar :
    ∀ digit < 16, hexDigit? (Nat.digitChar digit) = some digit := by
  decide

/-- The code of a control character has two digits, and zeros in front of them. -/
theorem spellsCode_of_lt {code : Nat} (small : code < 32) :
    SpellsCode code ['0', '0', Nat.digitChar (code / 16), Nat.digitChar (code % 16)] := by
  refine .quad ?_
  have zero : hexDigit? '0' = some 0 := rfl
  simp only [hexQuad?, zero, hexDigit?_digitChar (code / 16) (by omega),
    hexDigit?_digitChar (code % 16) (by omega), bind, Option.bind, pure]
  congr 1
  omega

theorem spellsChar_of_control {c : Char} (control : c < ' ') :
    SpellsChar c
      ['\\', 'u', '0', '0', Nat.digitChar (c.toNat / 16), Nat.digitChar (c.toNat % 16)] := by
  have small : c.toNat < 32 := control
  have spells := SpellsChar.code (spellsCode_of_lt small)
    (by simp [isLowSurrogate]; omega) (by simp [isHighSurrogate]; omega)
  rwa [Char.ofNat_toNat] at spells

/-- A printed character is spelled. -/
theorem spellsChar_escapeChar (c : Char) : SpellsChar c (escapeChar c) := by
  unfold escapeChar
  split
  · exact .letter rfl
  · exact .letter rfl
  · exact .letter rfl
  · exact .letter rfl
  · exact .letter rfl
  · exact .letter rfl
  · exact .letter rfl
  · split
    · next control => exact spellsChar_of_control control
    · next notQuote notBackslash _ _ _ _ _ notControl =>
        exact .plain notQuote notBackslash notControl

theorem spellsChars_flatMap (text : Text) : SpellsChars text (text.flatMap escapeChar) := by
  induction text with
  | nil => exact .nil
  | cons c text ih => exact .cons (spellsChar_escapeChar c) ih

theorem spellsString_string (text : String) : SpellsString text (string text) :=
  .quoted (spellsChars_flatMap text.toList)

/-! ## Arrays and objects -/

theorem isGap_newline (level : Nat) : IsGap (newline level) := by
  intro c member
  rcases List.mem_cons.mp member with rfl | member
  · rfl
  · rw [List.eq_of_mem_replicate member]
    rfl

/-- Printed items behind another one. -/
theorem listing_flatMap (level inner : Nat) (texts : List Text) :
    Listing false texts
      (texts.flatMap (fun item => ',' :: newline inner ++ item) ++ newline level) := by
  induction texts with
  | nil => exact .done (isGap_newline level)
  | cons text texts ih =>
      have next : Listing false (text :: texts) ([] ++ ',' :: newline inner ++ text ++ _) :=
        .next isGap_nil (isGap_newline inner) ih
      simpa using next

/-- Printed items between two brackets. -/
theorem exists_listing_bracketed (opening closing : Char) (level : Nat) (texts : List Text) :
    ∃ body, bracketed opening closing level texts = opening :: body ++ [closing] ∧
      Listing true texts body := by
  cases texts with
  | nil => exact ⟨[], rfl, .done isGap_nil⟩
  | cons text texts =>
      refine ⟨_, ?_, .first (isGap_newline (level + 1)) (listing_flatMap level (level + 1) texts)⟩
      simp [bracketed]

theorem value_array (level : Nat) (list : List Value) :
    value level (.array list) = bracketed '[' ']' level (items (level + 1) list) := rfl

theorem value_object (level : Nat) (list : List (String × Value)) :
    value level (.object list) = bracketed '\x7b' '\x7d' level (members (level + 1) list) := rfl

theorem members_cons (level : Nat) (member : String × Value) (list : List (String × Value)) :
    members level (member :: list) =
      (string member.1 ++ ": ".toList ++ value level member.2) :: members level list := rfl

theorem spellsItems_items {level : Nat} {list : List Value}
    (each : ∀ item ∈ list, Spells item (value level item)) :
    SpellsItems list (items level list) := by
  induction list with
  | nil => exact .nil
  | cons item list ih =>
      exact .cons (each item List.mem_cons_self)
        (ih fun other member => each other (List.mem_cons_of_mem _ member))

theorem spellsMembers_members {level : Nat} {list : List (String × Value)}
    (each : ∀ member ∈ list, Spells member.2 (value level member.2)) :
    SpellsMembers list (members level list) := by
  induction list with
  | nil => exact .nil
  | cons member list ih =>
      have space : IsGap [' '] := by simp [IsGap, isSpace]
      have spells := SpellsMembers.cons (spellsString_string member.1) isGap_nil space
        (each member List.mem_cons_self)
        (ih fun other among => each other (List.mem_cons_of_mem _ among))
      simpa [members_cons] using spells

end Printer

/-- What is printed for a plain value is a spelling of it. -/
theorem IsPlain.spells_printed {depth : Nat} {value : Value} (plain : IsPlain depth value)
    (level : Nat) : Spells value (Printer.value level value) := by
  induction plain generalizing level with
  | null => exact .null
  | bool value => cases value <;> constructor
  | natural fits => exact .number (.natural fits)
  | negative positive fits => exact .number (.negative positive fits)
  | string string => exact .string (Printer.spellsString_string string)
  | array each ih =>
      obtain ⟨body, printed, listing⟩ := Printer.exists_listing_bracketed '[' ']' level _
      rw [Printer.value_array, printed]
      exact .array (Printer.spellsItems_items fun item member => ih item member _) listing
  | object each ih =>
      obtain ⟨body, printed, listing⟩ := Printer.exists_listing_bracketed '\x7b' '\x7d' level _
      rw [Printer.value_object, printed]
      exact .object (Printer.spellsMembers_members fun member among => ih member among _) listing

theorem isPlain_strings {depth : Nat} (texts : List String) :
    IsPlain (depth + 1) (.strings texts) := by
  refine .array fun item member => ?_
  obtain ⟨text, -, rfl⟩ := List.mem_map.mp member
  exact .string text

/-- A plain value is read back from what is printed for it, with white space around it. -/
theorem parse_print {value : Value} {before after : Text}
    (plain : IsPlain Limits.maxDepth value) (isGapBefore : IsGap before)
    (isGapAfter : IsGap after) : parse (before ++ (print value ++ after)) = .ok value :=
  readWhole_of_reads plain.reads_readValue (Nat.le_refl _) isGapBefore isGapAfter
    (plain.spells_printed 0)

end Json

end SourceLines
