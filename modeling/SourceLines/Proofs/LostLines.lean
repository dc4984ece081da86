/-
# Lines that get lost when a file is read

The lines of a file are counted in its text, and bytes that belong to no character
are missing there. A line of nothing but such bytes is an empty line of the text as
long as its ending stays an ending of its own. That fails in two places: such a line
is the last one and nothing ends it, or its line feed comes to stand right behind
the carriage return that ends the line before. These lines are counted nowhere, and
every other line of the file is counted once.
-/

import SourceLines.Classify.Route
import SourceLines.Proofs.BlockComments
import SourceLines.Proofs.LineCuts
import SourceLines.Proofs.LossyDecoding

namespace SourceLines

open Utf8 (characters)

/-- The lines of a file's bytes, without a byte order mark in front. -/
def rawLines (content : Bytes) : List (CutLine UInt8) :=
  cutLines UInt8.toNat (Utf8.dropByteOrderMark content)

/-- No character stands in the bytes. -/
def IsUnreadable (bytes : Bytes) : Prop :=
  ∀ c, ¬ String.utf8EncodeChar c <:+: bytes

instance (bytes : Bytes) : Decidable (IsUnreadable bytes) :=
  decidable_of_iff (characters bytes = []) Utf8.characters_eq_nil_iff

namespace CutLine

/-- Lines, each with what ends the line before it. -/
def withBefore (before : Ending) (lines : List (CutLine UInt8)) : List (Ending × CutLine UInt8) :=
  (before :: lines.map ending).zip lines

/-- A line behind this ending gets lost. -/
def IsLost (before : Ending) (line : CutLine UInt8) : Prop :=
  IsUnreadable line.content ∧
    (line.ending = .nothing ∨ before = .carriageReturn ∧ line.ending = .lineFeed)

instance (before : Ending) (line : CutLine UInt8) : Decidable (IsLost before line) :=
  inferInstanceAs (Decidable (_ ∧ _))

/-- The lines that get lost. -/
def lost (before : Ending) (lines : List (CutLine UInt8)) : List (Ending × CutLine UInt8) :=
  (withBefore before lines).filter fun line => IsLost line.1 line.2

/-- The lines that do not get lost. -/
def kept (before : Ending) (lines : List (CutLine UInt8)) : List (Ending × CutLine UInt8) :=
  (withBefore before lines).filter fun line => ¬ IsLost line.1 line.2

/-- What is read from the lines that do not get lost. -/
def keptTexts (before : Ending) (lines : List (CutLine UInt8)) : List Text :=
  (kept before lines).map fun line => characters line.2.content

variable {before : Ending} {line : CutLine UInt8} {lines : List (CutLine UInt8)}

theorem length_withBefore (before : Ending) (lines : List (CutLine UInt8)) :
    (withBefore before lines).length = lines.length := by
  simp [withBefore]

/-- Every line gets lost or does not. -/
theorem length_keptTexts_add_length_lost (before : Ending) (lines : List (CutLine UInt8)) :
    (keptTexts before lines).length + (lost before lines).length = lines.length := by
  have parts := List.length_eq_length_filter_add (l := withBefore before lines)
    (fun line => decide (¬ IsLost line.1 line.2))
  rw [length_withBefore] at parts
  rw [parts, keptTexts, List.length_map, kept, lost]
  simp

@[simp]
theorem keptTexts_nil (before : Ending) : keptTexts before [] = [] := rfl

theorem keptTexts_of_isLost (isLost : IsLost before line) :
    keptTexts before (line :: lines) = keptTexts line.ending lines := by
  rw [keptTexts, kept, withBefore, List.map_cons, List.zip_cons_cons, List.filter_cons_of_neg]
  · rfl
  · simpa using isLost

theorem keptTexts_of_not_isLost (isKept : ¬ IsLost before line) :
    keptTexts before (line :: lines) = characters line.content :: keptTexts line.ending lines := by
  rw [keptTexts, kept, withBefore, List.map_cons, List.zip_cons_cons, List.filter_cons_of_pos]
  · rfl
  · simpa using isKept

/-- Behind a carriage return one line more gets lost, if it is without characters and
ends with a line feed, and otherwise the same lines get lost. -/
theorem keptTexts_carriageReturn_cons (line : CutLine UInt8) (lines : List (CutLine UInt8)) :
    keptTexts .carriageReturn (line :: lines) =
      if characters line.content = [] ∧ line.ending = .lineFeed then keptTexts .lineFeed lines
      else keptTexts .nothing (line :: lines) := by
  split
  · next feeds =>
      have isLost : IsLost .carriageReturn line :=
        ⟨Utf8.characters_eq_nil_iff.mp feeds.1, Or.inr ⟨rfl, feeds.2⟩⟩
      rw [keptTexts_of_isLost isLost, feeds.2]
  · next notFeeds =>
      rw [Utf8.characters_eq_nil_iff] at notFeeds
      by_cases isLost : IsLost .nothing line
      · have still : IsLost .carriageReturn line := ⟨isLost.1, Or.inl (by simpa using isLost.2)⟩
        rw [keptTexts_of_isLost isLost, keptTexts_of_isLost still]
      · have still : ¬ IsLost .carriageReturn line := fun ⟨unreadable, ends⟩ =>
          ends.elim (fun nothing => isLost ⟨unreadable, Or.inl nothing⟩)
            fun feeds => notFeeds ⟨unreadable, feeds.2⟩
        rw [keptTexts_of_not_isLost isLost, keptTexts_of_not_isLost still]

/-- Only a last line gets lost if no carriage return ends the line before. -/
theorem keptTexts_nothing_cons {ending : Ending} (ended : ending ≠ .nothing) (content : Bytes)
    (lines : List (CutLine UInt8)) :
    keptTexts .nothing (⟨content, ending⟩ :: lines) =
      characters content :: keptTexts ending lines :=
  keptTexts_of_not_isLost fun ⟨_, ends⟩ => ends.elim ended fun feeds => nomatch feeds.1

/-- Behind any other ending than a carriage return the same lines get lost. -/
theorem keptTexts_of_ne_carriageReturn (before : Ending) (lines : List (CutLine UInt8))
    (other : before ≠ .carriageReturn) : keptTexts before lines = keptTexts .nothing lines := by
  cases lines with
  | nil => rfl
  | cons line lines =>
      have same : IsLost before line ↔ IsLost .nothing line := by simp [IsLost, other]
      by_cases isLost : IsLost before line
      · rw [keptTexts_of_isLost isLost, keptTexts_of_isLost (same.mp isLost)]
      · rw [keptTexts_of_not_isLost isLost, keptTexts_of_not_isLost (mt same.mpr isLost)]

end CutLine

/-! ## The lines of the text -/

namespace Utf8

variable {content mark rest : Bytes} {ending : Ending}

/-- The character that a byte below 0x80 is. -/
abbrev ofAscii (b : UInt8) : Char :=
  Char.ofNat b.toNat

theorem ofAscii_of_isLineFeed {b : UInt8} (feeds : IsLineFeed UInt8.toNat b) :
    ofAscii b = '\n' := by
  rw [ofAscii, feeds]

theorem ofAscii_of_isReturn {b : UInt8} (returns : IsReturn UInt8.toNat b) :
    ofAscii b = '\r' := by
  rw [ofAscii, returns]

/-- A line is read by itself, and so is what comes behind its ending. -/
theorem characters_append_mark (ends : Ends UInt8.toNat ending mark rest) :
    characters (content ++ mark ++ rest) =
      characters content ++ mark.map ofAscii ++ characters rest := by
  cases ends with
  | lineFeed feeds =>
      rw [List.append_assoc, List.singleton_append,
        characters_append_cons _ (by rw [feeds]; decide), List.append_assoc]
      rfl
  | carriageReturn returns alone =>
      rw [List.append_assoc, List.singleton_append,
        characters_append_cons _ (by rw [returns]; decide), List.append_assoc]
      rfl
  | both returns feeds =>
      rename_i x y
      have second : characters (y :: rest) = ofAscii y :: characters rest :=
        characters_append_cons [] (by rw [feeds]; decide)
      rw [List.append_assoc, List.cons_append, List.singleton_append,
        characters_append_cons _ (by rw [returns]; decide), second, List.append_assoc]
      rfl

/-- No line break is read from a line. -/
theorem isUnbroken_characters (unbroken : IsUnbroken UInt8.toNat content) :
    IsUnbroken Char.toNat (characters content) := by
  intro c member
  have stands := encode_isInfix_of_mem_decodeFrom member
  rw [PhysicalLines.isLineFeed_toNat_iff, PhysicalLines.isReturn_toNat_iff]
  constructor
  · rintro rfl
    exact (unbroken 10 (stands.subset List.mem_cons_self)).1 rfl
  · rintro rfl
    exact (unbroken 13 (stands.subset List.mem_cons_self)).2 rfl

/-- A line feed is the first thing to be read when a line feed ends the first line and
nothing is read from that line. -/
theorem head?_characters_eq_lineFeed_iff (bytes : Bytes) :
    (characters bytes).head? = some '\n' ↔
      ∃ line lines, cutLines UInt8.toNat bytes = line :: lines ∧
        characters line.content = [] ∧ line.ending = .lineFeed := by
  have notBroken {content : Bytes} (unbroken : IsUnbroken UInt8.toNat content) (more : Text)
      (something : characters content ≠ []) : (characters content ++ more).head? ≠ some '\n' := by
    intro first
    rw [List.head?_append_of_ne_nil _ something] at first
    exact (isUnbroken_characters unbroken '\n' (List.mem_of_head? first)).1 rfl
  induction bytes using cutLines_induction UInt8.toNat with
  | nil => simp [cutLines]
  | last content notEmpty unbroken =>
      rw [cutLines_of_unbroken notEmpty unbroken]
      by_cases nothing : characters content = []
      · simp [nothing]
      · have first := notBroken unbroken [] nothing
        rw [List.append_nil] at first
        simp [first]
  | line content ending mark rest unbroken ends _ =>
      rw [characters_append_mark ends, cutLines_append unbroken ends, List.append_assoc]
      by_cases nothing : characters content = []
      · cases ends with
        | lineFeed feeds => simp [nothing, ofAscii_of_isLineFeed feeds]
        | carriageReturn returns alone => simp [nothing, ofAscii_of_isReturn returns]
        | both returns feeds => simp [nothing, ofAscii_of_isReturn returns]
      · exact iff_of_false (notBroken unbroken _ nothing) (by simp [nothing])

/-- A carriage return ends a line, together with a line feed that is read behind it. -/
theorem map_content_cutLines_append_return {content : Text}
    (unbroken : IsUnbroken Char.toNat content) (rest : Text) :
    (cutLines Char.toNat (content ++ ['\r'] ++ rest)).map CutLine.content =
      content :: ((cutLines Char.toNat rest).map CutLine.content).drop
        (if rest.head? = some '\n' then 1 else 0) := by
  have returns : IsReturn Char.toNat '\r' := rfl
  have feeds : IsLineFeed Char.toNat '\n' := rfl
  split
  · next first =>
      obtain ⟨more, rfl⟩ := List.head?_eq_some_iff.mp first
      have single : cutLines Char.toNat ('\n' :: more) =
          ⟨[], .lineFeed⟩ :: cutLines Char.toNat more := if_pos feeds
      have pair := cutLines_append unbroken (.both returns feeds : Ends _ _ _ more)
      rw [List.append_assoc] at pair ⊢
      rw [single, List.map_cons, List.drop_one, List.tail_cons]
      exact (congrArg _ pair).trans rfl
  · next first =>
      have alone : ∀ c ∈ rest.head?, ¬ IsLineFeed Char.toNat c := by
        intro c head feeds
        rw [PhysicalLines.isLineFeed_toNat_iff] at feeds
        exact first (feeds ▸ head)
      rw [cutLines_append unbroken (.carriageReturn returns alone), List.map_cons, List.drop_zero]

/-- Behind a carriage return the first line gets lost when a line feed is the first thing
to be read, and otherwise the same lines get lost as without it. -/
theorem keptTexts_carriageReturn_cutLines (bytes : Bytes) :
    CutLine.keptTexts .carriageReturn (cutLines UInt8.toNat bytes) =
      (CutLine.keptTexts .nothing (cutLines UInt8.toNat bytes)).drop
        (if (characters bytes).head? = some '\n' then 1 else 0) := by
  have first := head?_characters_eq_lineFeed_iff bytes
  cases cut : cutLines UInt8.toNat bytes with
  | nil => simp
  | cons line lines =>
      have sameFirst : (characters bytes).head? = some '\n' ↔
          characters line.content = [] ∧ line.ending = .lineFeed := by
        simp [first, cut]
      rw [CutLine.keptTexts_carriageReturn_cons, if_congr sameFirst rfl rfl]
      split
      · next feeds =>
          obtain ⟨content, ending⟩ := line
          obtain ⟨-, rfl⟩ : _ ∧ ending = .lineFeed := feeds
          rw [CutLine.keptTexts_nothing_cons (by simp), List.drop_one, List.tail_cons]
      · rfl

/-- The lines of what is read are what is read from the lines that do not get lost. -/
theorem map_content_cutLines_characters (bytes : Bytes) :
    (cutLines Char.toNat (characters bytes)).map CutLine.content =
      CutLine.keptTexts .nothing (cutLines UInt8.toNat bytes) := by
  induction bytes using cutLines_induction UInt8.toNat with
  | nil => rfl
  | last content notEmpty unbroken =>
      rw [cutLines_of_unbroken notEmpty unbroken]
      by_cases nothing : characters content = []
      · rw [nothing, CutLine.keptTexts_of_isLost ⟨characters_eq_nil_iff.mp nothing, Or.inl rfl⟩]
        rfl
      · have isKept : ¬ CutLine.IsLost .nothing ⟨content, .nothing⟩ :=
          fun isLost => nothing (characters_eq_nil_iff.mpr isLost.1)
        rw [cutLines_of_unbroken nothing (isUnbroken_characters unbroken),
          CutLine.keptTexts_of_not_isLost isKept]
        rfl
  | line content ending mark rest unbroken ends ih =>
      have inner := isUnbroken_characters unbroken
      rw [characters_append_mark ends, cutLines_append unbroken ends]
      cases ends with
      | lineFeed feeds =>
          have single : Ends Char.toNat .lineFeed ['\n'] (characters rest) := .lineFeed rfl
          rw [List.map_singleton, ofAscii_of_isLineFeed feeds, cutLines_append inner single,
            List.map_cons, ih, CutLine.keptTexts_nothing_cons (by simp),
            CutLine.keptTexts_of_ne_carriageReturn .lineFeed _ (by simp)]
      | both returns feeds =>
          have pair : Ends Char.toNat .both ['\r', '\n'] (characters rest) := .both rfl rfl
          rw [List.map_cons, List.map_singleton, ofAscii_of_isReturn returns,
            ofAscii_of_isLineFeed feeds, cutLines_append inner pair, List.map_cons, ih,
            CutLine.keptTexts_nothing_cons (by simp),
            CutLine.keptTexts_of_ne_carriageReturn .both _ (by simp)]
      | carriageReturn returns alone =>
          rw [List.map_singleton, ofAscii_of_isReturn returns,
            map_content_cutLines_append_return inner, ih, CutLine.keptTexts_nothing_cons (by simp),
            keptTexts_carriageReturn_cutLines]

end Utf8

/-- The physical lines of a file's text are what is read from the lines of its bytes
that do not get lost. -/
theorem physicalLines_decodeLossy (content : Bytes) :
    physicalLines (decodeLossy content) = CutLine.keptTexts .nothing (rawLines content) := by
  rw [physicalLines_eq_map_cutLines]
  exact Utf8.map_content_cutLines_characters _

namespace BlockComment

open CutLine (kept lost keptTexts)

/-- A line in which no character stands is read as a blank line. -/
theorem State.readLine_of_isUnreadable (state : State) {content : Bytes}
    (unreadable : IsUnreadable content) :
    state.readLine (characters content) = (.blank, state) :=
  readLine_of_isBlank (by rw [Utf8.characters_eq_nil_iff.mpr unreadable]; rfl)

/-- Of the lines of a file's bytes those are counted that do not get lost. -/
theorem count_decodeLossy (content : Bytes) :
    count (decodeLossy content) =
      .ofKinds (State.outside.kinds (keptTexts .nothing (rawLines content))) := by
  rw [count, State.countText, State.countLines_eq, physicalLines_decodeLossy]

/-- The counted lines and the lost ones are all lines of a file's bytes. -/
theorem classified_count_add_length_lost (content : Bytes) :
    (count (decodeLossy content)).classified + (lost .nothing (rawLines content)).length =
      (rawLines content).length := by
  rw [count_decodeLossy, LineCounts.classified_ofKinds, State.length_kinds,
    CutLine.length_keptTexts_add_length_lost]

end BlockComment

namespace Settings

open CutLine (kept lost keptTexts)

variable {settings : Settings} {system : FileSystem} {path : String} {content : Bytes}

/-- A file with block comments is classified with the kinds of those lines of its bytes
that do not get lost, read in order; the lines in which no character stands are blank
among them. Its counts add up to the number of all its lines if and only if none of
them gets lost. -/
theorem classify_counts_kept_lines (detect : Detector)
    (routed : settings.route path = .blockComment) (read : system.read path = .ok content) :
    ∃ (counts : LineCounts) (kinds : List LineKind),
      settings.classify? system detect path =
          .ok (.classified ⟨path, settings.blockComment.label, counts⟩) ∧
        kinds = BlockComment.State.outside.kinds (keptTexts .nothing (rawLines content)) ∧
        counts = .ofKinds kinds ∧
        (∀ i : Fin (kept .nothing (rawLines content)).length,
          IsUnreadable (kept .nothing (rawLines content))[i].2.content →
            kinds[i]? = some .blank) ∧
        counts.code + counts.comment + counts.blank + (lost .nothing (rawLines content)).length =
          (rawLines content).length ∧
        (counts.code + counts.comment + counts.blank = (rawLines content).length ↔
          lost .nothing (rawLines content) = []) := by
  have all := BlockComment.classified_count_add_length_lost content
  refine ⟨_, _, ?_, rfl, BlockComment.count_decodeLossy content, ?_, all, ?_⟩
  · rw [classify?, routed]
    simp [Detector.blockComment, FileSystem.readForClassification, read]
  · intro i unreadable
    rw [Fin.getElem?_fin, BlockComment.State.getElem?_kinds, keptTexts, List.getElem?_map,
      List.getElem?_eq_getElem i.isLt, Option.map_some, Option.map_some, ← Fin.getElem_fin,
      BlockComment.State.readLine_of_isUnreadable _ unreadable]
  · rw [← List.length_eq_zero_iff]
    unfold LineCounts.classified at all
    omega

/-- A directory with one file for block comments. -/
def systemOfOne (content : Bytes) : FileSystem :=
  ⟨[.directory "work" [.file "a.al" content]], ["work"]⟩

/-- Between line feeds a line in which no character stands is counted. -/
theorem classify_counts_kept_lines_systemOfOne :
    standard.route "a.al" = .blockComment ∧
      (systemOfOne [0x61, 0x0A, 0xFF, 0x0A]).read "a.al" = .ok [0x61, 0x0A, 0xFF, 0x0A] ∧
      ∃ counts : LineCounts,
        standard.classify? (systemOfOne [0x61, 0x0A, 0xFF, 0x0A])
            (.generic (systemOfOne [0x61, 0x0A, 0xFF, 0x0A])) "a.al" =
          .ok (.classified ⟨"a.al", "AL", counts⟩) ∧
        counts.code + counts.comment + counts.blank = 2 := by
  have routed : standard.route "a.al" = .blockComment := by decide +kernel
  have read : (systemOfOne [0x61, 0x0A, 0xFF, 0x0A]).read "a.al" =
      .ok [0x61, 0x0A, 0xFF, 0x0A] := rfl
  obtain ⟨counts, _, classified, _, _, _, _, conserved⟩ :=
    classify_counts_kept_lines (.generic (systemOfOne [0x61, 0x0A, 0xFF, 0x0A])) routed read
  exact ⟨routed, read, counts, classified, conserved.mpr (by decide)⟩

/-- A line in which no character stands is counted nowhere between a carriage return
and a line feed, and nowhere at the end of a file. -/
theorem classify_loses_unreadable_lines :
    (rawLines [0x61, 0x0D, 0xFF, 0x0A, 0x62] =
        [⟨[0x61], .carriageReturn⟩, ⟨[0xFF], .lineFeed⟩, ⟨[0x62], .nothing⟩] ∧
      standard.classify? (systemOfOne [0x61, 0x0D, 0xFF, 0x0A, 0x62])
          (.generic (systemOfOne [0x61, 0x0D, 0xFF, 0x0A, 0x62])) "a.al" =
        .ok (.classified ⟨"a.al", "AL", ⟨2, 0, 0, 0⟩⟩)) ∧
    (rawLines [0x61, 0x0A, 0xFF] = [⟨[0x61], .lineFeed⟩, ⟨[0xFF], .nothing⟩] ∧
      standard.classify? (systemOfOne [0x61, 0x0A, 0xFF])
          (.generic (systemOfOne [0x61, 0x0A, 0xFF])) "a.al" =
        .ok (.classified ⟨"a.al", "AL", ⟨1, 0, 0, 0⟩⟩)) := by
  have routed : standard.route "a.al" = .blockComment := by decide +kernel
  refine ⟨⟨rfl, ?_⟩, rfl, ?_⟩ <;> rw [classify?, routed] <;> rfl

end Settings

end SourceLines
