/-
# Phrases of generated files in content that is cut off

Whether a file was written by a tool is read from its first bytes, and the cut behind these
bytes may fall anywhere: into a character, into a line break, into a phrase, or into a byte
order mark. A cut can hide a phrase, but it cannot make one up. What is read of the first
bytes is a part of the text in front, and a phrase stands in a part in front where it stands
in the whole text, with the same line breaks before it.

A phrase is found by its place: behind some text, in which so many lines end.
-/

import SourceLines.Proofs.DroppedBytes
import SourceLines.Proofs.FileSorts
import SourceLines.Proofs.LanguageCounts

namespace SourceLines

namespace Content

variable {text line rest phrase before : Text} {count : Nat}

/-! ## The first lines -/

theorem firstLines_of_not_mem (unbroken : '\n' ∉ text) (count : Nat) :
    firstLines (count + 1) text = text :: firstLines count [] := by
  have all : ∀ c ∈ text, (c != '\n') = true := by
    intro c member
    rw [bne_iff_ne]
    exact fun same => unbroken (same ▸ member)
  rw [firstLines, List.takeWhile_eq_self_iff.mpr all, List.dropWhile_eq_nil_iff.mpr all]
  rfl

theorem firstLines_append_cons (unbroken : '\n' ∉ line) (count : Nat) (rest : Text) :
    firstLines (count + 1) (line ++ '\n' :: rest) = line :: firstLines count rest := by
  have all : ∀ c ∈ line, (c != '\n') = true := by
    intro c member
    rw [bne_iff_ne]
    exact fun same => unbroken (same ▸ member)
  rw [firstLines, List.takeWhile_append_of_pos all, List.dropWhile_append_of_pos all]
  simp

/-- A phrase without line breaks stands on the first line or behind its end. -/
theorem isPrefix_append_cons_iff (oneLine : '\n' ∉ phrase) :
    before ++ phrase <+: line ++ '\n' :: rest ↔
      before ++ phrase <+: line ∨
        ∃ behind, before = line ++ '\n' :: behind ∧ behind ++ phrase <+: rest := by
  constructor
  · intro isPrefix
    rcases List.prefix_or_prefix_of_prefix isPrefix (List.prefix_append line _) with
      within | ⟨left, beyond⟩
    · exact .inl within
    rw [← beyond, List.prefix_append_right_inj] at isPrefix
    rcases List.prefix_cons_iff.mp isPrefix with rfl | ⟨left, rfl, within⟩
    · exact .inl (by simp [← beyond])
    -- The line break is not in the phrase, so it stands before it.
    rcases List.append_eq_append_iff.mp beyond with ⟨part, rfl, split⟩ | ⟨part, -, rfl⟩
    · cases part with
      | nil =>
          obtain rfl : '\n' :: left = phrase := split
          exact absurd List.mem_cons_self oneLine
      | cons c behind =>
          obtain ⟨rfl, rfl⟩ := List.cons.inj split
          exact .inr ⟨behind, rfl, within⟩
    · exact absurd (List.mem_append_right part List.mem_cons_self) oneLine
  · rintro (within | ⟨behind, rfl, within⟩)
    · exact within.trans (List.prefix_append _ _)
    · rw [List.append_assoc, List.prefix_append_right_inj, List.cons_append, List.cons_prefix_cons]
      exact ⟨rfl, within⟩

/-- A phrase stands on one of the first lines where fewer line breaks stand before it. -/
theorem exists_isInfix_firstLines_iff (oneLine : '\n' ∉ phrase) :
    (∃ line ∈ firstLines count text, phrase <:+: line) ↔
      ∃ before, before ++ phrase <+: text ∧ before.count '\n' < count := by
  induction count generalizing text with
  | zero => simp [firstLines]
  | succ count ih =>
      by_cases broken : '\n' ∈ text
      · obtain ⟨line, rest, rfl, unbroken⟩ := List.eq_append_cons_of_mem broken
        rw [firstLines_append_cons unbroken, List.exists_mem_cons_iff, ih]
        constructor
        · rintro (⟨before, more, rfl⟩ | ⟨before, isPrefix, top⟩)
          · have none : before.count '\n' = 0 := by
              rw [List.count_eq_zero]
              exact fun member => unbroken (by simp [member])
            refine ⟨before, ?_, by omega⟩
            exact (isPrefix_append_cons_iff oneLine).mpr (.inl (List.prefix_append _ more))
          · refine ⟨line ++ '\n' :: before, ?_, ?_⟩
            · exact (isPrefix_append_cons_iff oneLine).mpr (.inr ⟨before, rfl, isPrefix⟩)
            · rw [List.count_append, List.count_cons_self, List.count_eq_zero.mpr unbroken]
              omega
        · rintro ⟨before, isPrefix, top⟩
          rcases (isPrefix_append_cons_iff oneLine).mp isPrefix with
            ⟨more, rfl⟩ | ⟨behind, rfl, within⟩
          · exact .inl ⟨before, more, rfl⟩
          · rw [List.count_append, List.count_cons_self] at top
            exact .inr ⟨behind, within, by omega⟩
      · rw [firstLines_of_not_mem broken, List.exists_mem_cons_iff, ih]
        constructor
        · rintro (⟨before, more, rfl⟩ | ⟨before, isPrefix, -⟩)
          · have none : before.count '\n' = 0 := by
              rw [List.count_eq_zero]
              exact fun member => broken (by simp [member])
            exact ⟨before, List.prefix_append _ more, by omega⟩
          · obtain ⟨-, rfl⟩ := List.append_eq_nil_iff.mp (List.prefix_nil.mp isPrefix)
            exact ⟨[], List.nil_prefix, by simp⟩
        · rintro ⟨before, ⟨more, rfl⟩, -⟩
          exact .inl ⟨before, more, rfl⟩

/-! ## Phrases by their place -/

/-- A phrase of generated files stands in the text behind the text before it, on one of the
lines that are looked at. -/
structure HasPhraseBehind (text before phrase : Text) : Prop where
  isPhrase : phrase.map foldLetter ∈ generatedPhrases
  isPrefix : before ++ phrase <+: text
  isOnTop : before.count '\n' < generatedWindow

theorem not_mem_of_map_foldLetter (isPhrase : phrase.map foldLetter ∈ generatedPhrases) :
    '\n' ∉ phrase := by
  have noBreak : ∀ phrase ∈ generatedPhrases, '\n' ∉ phrase := by decide
  intro member
  exact noBreak _ isPhrase (List.mem_map.mpr ⟨'\n', member, by decide⟩)

/-- A text looks generated where such a phrase stands at some place. -/
theorem looksGenerated_iff :
    looksGenerated text = true ↔ ∃ before phrase, HasPhraseBehind text before phrase := by
  simp only [looksGenerated, containsAny, List.any_eq_true, containsList_iff_isInfix,
    List.infix_map_iff]
  constructor
  · rintro ⟨line, isFirst, _, isPhrase, phrase, within, rfl⟩
    obtain ⟨before, isPrefix, top⟩ :=
      (exists_isInfix_firstLines_iff (not_mem_of_map_foldLetter isPhrase)).mp
        ⟨line, isFirst, within⟩
    exact ⟨before, phrase, isPhrase, isPrefix, top⟩
  · rintro ⟨before, phrase, isPhrase, isPrefix, top⟩
    obtain ⟨line, isFirst, within⟩ :=
      (exists_isInfix_firstLines_iff (not_mem_of_map_foldLetter isPhrase)).mpr
        ⟨before, isPrefix, top⟩
    exact ⟨line, isFirst, _, isPhrase, phrase, within, rfl⟩

/-- A phrase in a part of the text in front stands in the whole text at the same place. -/
theorem HasPhraseBehind.of_isPrefix {front : Text} (has : HasPhraseBehind front before phrase)
    (isPrefix : front <+: text) : HasPhraseBehind text before phrase :=
  { has with isPrefix := has.isPrefix.trans isPrefix }

theorem looksGenerated_of_isPrefix {front : Text} (isPrefix : front <+: text)
    (looks : looksGenerated front = true) : looksGenerated text = true := by
  obtain ⟨before, phrase, has⟩ := looksGenerated_iff.mp looks
  exact looksGenerated_iff.mpr ⟨before, phrase, has.of_isPrefix isPrefix⟩

end Content

open Content (HasPhraseBehind looksBinary looksGenerated)

namespace Detector

variable {lookup : Language.Lookup} {path : String} {content : Bytes}

/-- What the detector says of a file with text in a known language. -/
theorem ofContent_of_known {language : Language} (notEmpty : content ≠ [])
    (notBinary : looksBinary content = false) (known : lookup path content = some language) :
    ofContent Language.stats lookup path content = .ok
      { path
        label :=
          if looksGenerated (decodeLossy (content.take generatedWindow)) then Label.generated
          else language.name
        counts := language.count content } := by
  have shown : ¬ content.isEmpty = true := mt List.isEmpty_iff.mp notEmpty
  rw [ofContent, if_neg shown, notBinary, known, ← Language.summarise_stats]
  rfl

/-- A file gets the label of generated files for a phrase in its first bytes alone. -/
theorem looksGenerated_of_label (names : lookup.NamesLanguages) {file : ClassifiedFile}
    (answers : ofContent Language.stats lookup path content = .ok file)
    (label : file.label = Label.generated) :
    looksGenerated (decodeLossy (content.take generatedWindow)) = true := by
  by_cases empty : content = []
  · obtain rfl := empty
    cases answers
    have same : Label.empty = Label.generated := label
    exact absurd same (by decide)
  have shown : ¬ content.isEmpty = true := mt List.isEmpty_iff.mp empty
  by_cases binary : looksBinary content = true
  · rw [ofContent, if_neg shown, if_pos binary] at answers
    cases answers
    have same : Label.binary = Label.generated := label
    exact absurd same (by decide)
  cases known : lookup path content with
  | none =>
      rw [ofContent, if_neg shown, if_neg binary, known] at answers
      cases answers
  | some language =>
      rw [ofContent_of_known empty (eq_false_of_ne_true binary) known] at answers
      cases answers
      by_contra notGenerated
      have named : language.name = Label.generated := by rwa [if_neg notGenerated] at label
      have isLanguage := names path content language known
      rw [named] at isLanguage
      exact absurd isLanguage (by decide)

/-- What is read of the first bytes of any content is a part of its text in front, and looks
generated only if the whole text does. So a file gets the label of generated files only if
a phrase stands on one of the first lines of its whole text; and it gets that label if such
a phrase stands within what is read of the first bytes. -/
theorem cut_content_makes_up_no_phrase (content : Bytes) :
    (∀ size,
      decodeLossy (content.take size) <+: decodeLossy content ∧
        (looksGenerated (decodeLossy (content.take size)) = true →
          looksGenerated (decodeLossy content) = true)) ∧
      ∀ (lookup : Language.Lookup) (system : FileSystem) (path : String),
        lookup.NamesLanguages → system.read path = .ok content →
          (∀ file, ofLookup lookup system path = .ok file → file.label = Label.generated →
            ∃ before phrase, HasPhraseBehind (decodeLossy content) before phrase) ∧
          ∀ language, content ≠ [] → looksBinary content = false →
            lookup path content = some language → ∀ before phrase,
              HasPhraseBehind (decodeLossy content) before phrase →
              before ++ phrase <+: decodeLossy (content.take generatedWindow) →
                ofLookup lookup system path =
                  .ok ⟨path, Label.generated, language.count content⟩ := by
  have isPrefix (size : Nat) : decodeLossy (content.take size) <+: decodeLossy content :=
    Utf8.decodeLossy_isPrefix_of_isPrefix (List.take_prefix size content)
  refine ⟨fun size => ⟨isPrefix size, Content.looksGenerated_of_isPrefix (isPrefix size)⟩, ?_⟩
  intro lookup system path names read
  rw [ofLookup, ofCounter_of_read read]
  constructor
  · intro file answers label
    have onTop := looksGenerated_of_label names answers label
    exact Content.looksGenerated_iff.mp (Content.looksGenerated_of_isPrefix (isPrefix _) onTop)
  · intro language notEmpty notBinary known before phrase has within
    have onTop : looksGenerated (decodeLossy (content.take generatedWindow)) = true :=
      Content.looksGenerated_iff.mpr ⟨before, phrase, { has with isPrefix := within }⟩
    rw [ofContent_of_known notEmpty notBinary known, if_pos onTop]

/-- A file with a byte order mark, a letter of two bytes and a phrase on its second line. -/
def generatedFile : Bytes :=
  stringBytes "\uFEFFé\r\n// Do Not Edit\n"

/-- A directory with this file. -/
def systemOfGenerated : FileSystem :=
  ⟨[.directory "work" [.file "lib.rs" generatedFile]], ["work"]⟩

/-- The file is labelled for its phrase, and a cut within the letter leaves nothing of the
text. -/
theorem cut_content_makes_up_no_phrase_generatedFile :
    decodeLossy (generatedFile.take 4) = [] ∧
      decodeLossy (generatedFile.take 4) <+: decodeLossy generatedFile ∧
      systemOfGenerated.read "lib.rs" = .ok generatedFile ∧
      (∃ before phrase, HasPhraseBehind (decodeLossy generatedFile) before phrase) ∧
      ∃ language, Language.ofFile? "lib.rs" generatedFile = some language ∧
        generic systemOfGenerated "lib.rs" =
          .ok ⟨"lib.rs", Label.generated, language.count generatedFile⟩ := by
  have read : systemOfGenerated.read "lib.rs" = .ok generatedFile := rfl
  have has : HasPhraseBehind (decodeLossy generatedFile) "é\r\n// ".toList
      "Do Not Edit".toList := ⟨by decide, by decide, by decide⟩
  obtain ⟨language, known⟩ : ∃ language, Language.ofFile? "lib.rs" generatedFile = some language :=
    Option.isSome_iff_exists.mp (by decide +kernel)
  obtain ⟨cuts, labels⟩ := cut_content_makes_up_no_phrase generatedFile
  obtain ⟨isPrefix, -⟩ := cuts 4
  obtain ⟨onlyIf, label⟩ := labels Language.ofFile? systemOfGenerated "lib.rs"
    Language.namesLanguages_ofFile? read
  have labelled := label language (by decide) (by decide) known _ _ has (by decide)
  exact ⟨rfl, isPrefix, read, onlyIf _ labelled rfl, language, known, labelled⟩

end Detector

end SourceLines
