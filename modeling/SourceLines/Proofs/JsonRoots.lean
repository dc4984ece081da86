/-
# The roots of whole and of cut JSON files

A file that is cut off in front of the last bracket of its array or object cannot be
parsed, wherever it is cut: in the middle of a character, of an escape, of a number or of
a literal. It is therefore never passed over as data. Of a whole file the root is found
however its value is spelled, and only the elements of the root itself are counted.
-/

import SourceLines.Proofs.CutBytes
import SourceLines.Proofs.JsonKinds
import SourceLines.Proofs.JsonParsing

namespace SourceLines

open Json

variable {content front : Bytes} {before root text after : Text} {value : Value}

namespace JsonRoot

/-- What is no JSON text is refused as malformed. -/
theorem exists_malformed (path : String) (noDocument : ¬ IsDocument (decodeLossy content)) :
    ∃ failure, parse (decodeLossy content) = .error failure ∧
      inspect path content =
        .error (.malformedJson path (failure.message (decodeLossy content))) := by
  cases parsed : parse (decodeLossy content) with
  | ok value => exact absurd (isDocument_of_parse parsed) noDocument
  | error failure =>
      refine ⟨failure, rfl, ?_⟩
      simp only [inspect, parsed]

/-- What is read from a cut file is no JSON text. -/
theorem not_isDocument_of_cutFile (isGapBefore : IsGap before) (isJson : IsJson root)
    (bracketed : IsBracketed root) (holds : Utf8.Holds content (before ++ (root ++ after)))
    (isPrefix : front <+: content)
    (cut : front.length + (encodeUtf8 after).length < content.length) :
    ¬ IsDocument (decodeLossy front) := by
  rw [← List.append_assoc] at holds
  obtain ⟨whole, holdsRoot, rfl⟩ := holds.exists_append
  rw [List.length_append] at cut
  have within : front <+: whole :=
    List.prefix_of_prefix_length_le isPrefix (List.prefix_append _ _) (by omega)
  have noMark : (before ++ root).head? ≠ some '\uFEFF' := by
    have document := IsDocument.value isGapBefore isJson isGap_nil
    rw [List.append_nil] at document
    exact document.head?_ne
  have notEmpty : before ++ root ≠ [] := by
    obtain ⟨c, more, rfl, -⟩ := isJson.startsPart
    simp
  obtain ⟨part, onlyWhole⟩ := holdsRoot.decodeLossy_isPrefix noMark within
  refine not_isDocument_of_cut isGapBefore isJson bracketed part fun same => ?_
  rw [onlyWhole notEmpty same] at cut
  omega

/-- A JSON file whose root is an array or an object is malformed as soon as its last
bracket is missing, and is then taken for settings. What stands behind the bracket does
not matter. -/
theorem cut_file_is_settings (isGapBefore : IsGap before) (isJson : IsJson root)
    (bracketed : IsBracketed root)
    (holds : Utf8.Holds content (before ++ (root ++ after))) (isPrefix : front <+: content)
    (cut : front.length + (encodeUtf8 after).length < content.length) (path : String) :
    (∃ details, inspect path front = .error (.malformedJson path details)) ∧
      ∀ rules : JsonRules, rules.decide path front = .config := by
  have noDocument := not_isDocument_of_cutFile isGapBefore isJson bracketed holds isPrefix cut
  obtain ⟨failure, unparseable, malformed⟩ := exists_malformed path noDocument
  exact ⟨⟨_, malformed⟩, fun rules => JsonRules.decide_of_unparseable unparseable⟩

/-- A text of a string, which is cut within its only letter. -/
theorem cut_file_is_settings_withinLetter :
    (Utf8.Holds (encodeUtf8 "\uFEFF[ \"é\" ]\n".toList) "[ \"é\" ]\n".toList ∧
      [0xEF, 0xBB, 0xBF, 0x5B, 0x20, 0x22, 0xC3] <+: encodeUtf8 "\uFEFF[ \"é\" ]\n".toList) ∧
      (∃ details, inspect "data.json" [0xEF, 0xBB, 0xBF, 0x5B, 0x20, 0x22, 0xC3] =
        .error (.malformedJson "data.json" details)) ∧
      ∀ rules : JsonRules,
        rules.decide "data.json" [0xEF, 0xBB, 0xBF, 0x5B, 0x20, 0x22, 0xC3] = .config := by
  have holds : Utf8.Holds (encodeUtf8 "\uFEFF[ \"é\" ]\n".toList) "[ \"é\" ]\n".toList := .marked
  have within : [0xEF, 0xBB, 0xBF, 0x5B, 0x20, 0x22, 0xC3] <+:
      encodeUtf8 "\uFEFF[ \"é\" ]\n".toList := by decide
  have letter : IsJson "\"é\"".toList :=
    .string (.quoted (.plain (by decide) (by decide) (by decide) .nil))
  have space : IsGap [' '] := by simp [IsGap, isSpace]
  have each : ∀ item ∈ ["\"é\"".toList], IsJson item := by simpa using letter
  have isJson : IsJson "[ \"é\" ]".toList := .array each (.first space (.done space))
  have parts : Utf8.Holds (encodeUtf8 "\uFEFF[ \"é\" ]\n".toList)
      ([] ++ ("[ \"é\" ]".toList ++ ['\n'])) := holds
  exact ⟨⟨holds, within⟩,
    cut_file_is_settings isGap_nil isJson (.inl rfl) parts within (by decide) "data.json"⟩

/-- A value that is nested within the limit is parsed from every file that spells it. -/
theorem parse_of_spells (plain : IsPlain Limits.maxDepth value) (spells : Spells value text)
    (isGapBefore : IsGap before) (isGapAfter : IsGap after)
    (holds : Utf8.Holds content (before ++ (text ++ after))) :
    parse (decodeLossy content) = .ok value := by
  have document := IsDocument.value isGapBefore spells.isJson isGapAfter
  rw [holds.decodeLossy_eq document.head?_ne]
  exact readWhole_of_reads plain.reads_readValue (Nat.le_refl _) isGapBefore isGapAfter spells

theorem inspect_of_parse {path : String} (parsed : parse (decodeLossy content) = .ok value) :
    inspect path content = .ok (.ofValue value) := by
  simp only [inspect, parsed]

/-- Of an array the root is the number of its own elements, however they are spelled, and
of any other value it is nothing more. Where neither the name nor the size says anything,
the number decides. -/
theorem root_of_spelled_file (plain : IsPlain Limits.maxDepth value) (spells : Spells value text)
    (isGapBefore : IsGap before) (isGapAfter : IsGap after)
    (holds : Utf8.Holds content (before ++ (text ++ after))) (path : String) :
    (∀ items, value = .array items → inspect path content = .ok (.array items.length)) ∧
      ((∀ items, value ≠ .array items) → inspect path content = .ok .other) ∧
      ∀ rules : JsonRules,
        ¬ JsonRules.Mentions rules.dataKeywords (PathName.lowerFileName path) →
        ¬ JsonRules.Mentions rules.configKeywords (PathName.lowerFileName path) →
        content.length ≤ rules.sizeThreshold →
        (rules.decide path content = .data ↔
          ∃ items, value = .array items ∧ rules.arrayThreshold < items.length) := by
  have parsed := parse_of_spells plain spells isGapBefore isGapAfter holds
  refine ⟨?_, ?_, fun rules noData noSettings small => ?_⟩
  · rintro items rfl
    exact inspect_of_parse parsed
  · intro notArray
    rw [inspect_of_parse parsed]
    cases value with
    | array items => exact absurd rfl (notArray items)
    | null | bool | number | string | object => rfl
  · rw [JsonRules.decide_of_parse parsed, JsonRules.kindOf_ofValue_eq_data_iff]
    constructor
    · rintro ⟨-, speaks | long | large⟩
      · exact absurd speaks noData
      · exact long
      · exact absurd large (Nat.not_lt.mpr small)
    · exact fun long => ⟨noSettings, .inr (.inl long)⟩

/-- An array of two elements, whose texts hold more commas and brackets than it has. -/
def pairOfNested : Value :=
  .array [.object [("],", .array [.number (.natural 1), .null])], .string "[,😀"]

/-- The array with escapes by code, one of them a pair, and with white space. -/
def spellingOfPair : Text :=
  "[\x7b\"\\u005d,\" : [1 ,null]\x7d,\n\"[,\\uD83D\\ude00\"\t]".toList

theorem spells_pairOfNested : Spells pairOfNested spellingOfPair := by
  have space : IsGap [' '] := by simp [IsGap, isSpace]
  have newline : IsGap ['\n'] := by simp [IsGap, isSpace]
  have tab : IsGap ['\t'] := by simp [IsGap, isSpace]
  have bracket : SpellsCode 0x5D "005d".toList := .quad (by decide)
  have nameChars : SpellsChars "],".toList "\\u005d,".toList :=
    .cons (.code bracket (by decide) (by decide))
      (.cons (.plain (by decide) (by decide) (by decide)) .nil)
  have inner : Spells (.array [.number (.natural 1), .null]) "[1 ,null]".toList := by
    have items : SpellsItems [.number (.natural 1), .null] [['1'], "null".toList] :=
      .cons (.number (.natural (by decide))) (.cons .null .nil)
    exact .array items (.first isGap_nil (.next space isGap_nil (.done isGap_nil)))
  have first : Spells (.object [("],", .array [.number (.natural 1), .null])])
      "\x7b\"\\u005d,\" : [1 ,null]\x7d".toList := by
    have members : SpellsMembers [("],", .array [.number (.natural 1), .null])]
        ["\"\\u005d,\" : [1 ,null]".toList] :=
      .cons (.quoted nameChars) space space inner .nil
    exact .object members (.first isGap_nil (.done isGap_nil))
  have high : SpellsCode 0xD83D "D83D".toList := .quad (by decide)
  have low : SpellsCode 0xDE00 "de00".toList := .quad (by decide)
  have secondChars : SpellsChars "[,😀".toList "[,\\uD83D\\ude00".toList :=
    .cons (.plain (by decide) (by decide) (by decide))
      (.cons (.plain (by decide) (by decide) (by decide))
        (.cons (.pair high low (by decide) (by decide)) .nil))
  have second : Spells (.string "[,😀") "\"[,\\uD83D\\ude00\"".toList :=
    .string (.quoted secondChars)
  exact .array (.cons first (.cons second .nil))
    (.first isGap_nil (.next isGap_nil newline (.done tab)))

/-- The two elements are counted behind a byte order mark, and they are too many where one
is allowed. A file that is no array has none. -/
theorem root_of_spelled_file_pairOfNested :
    inspect "list.json" (encodeUtf8 ('\uFEFF' :: spellingOfPair)) = .ok (.array 2) ∧
      JsonRules.decide { JsonRules.standard with arrayThreshold := 1 } "list.json"
        (encodeUtf8 ('\uFEFF' :: spellingOfPair)) = .data ∧
      inspect "list.json" (encodeUtf8 "null".toList) = .ok .other := by
  have plain : IsPlain Limits.maxDepth pairOfNested :=
    .array (by simpa using
      ⟨.object (by simpa using .array (by simpa using ⟨.natural (by decide), .null⟩)), .string _⟩)
  have holds : Utf8.Holds (encodeUtf8 ('\uFEFF' :: spellingOfPair))
      ([] ++ (spellingOfPair ++ [])) := .marked
  obtain ⟨ofArray, -, decides⟩ := root_of_spelled_file plain spells_pairOfNested isGap_nil isGap_nil
    holds "list.json"
  have holdsNull : Utf8.Holds (encodeUtf8 "null".toList) ([] ++ ("null".toList ++ [])) := .bare
  obtain ⟨-, ofOther, -⟩ := root_of_spelled_file .null .null isGap_nil isGap_nil holdsNull
    "list.json"
  refine ⟨ofArray _ rfl, (decides _ ?_ ?_ (by decide)).mpr ⟨_, rfl, by decide⟩, ofOther nofun⟩
  · rw [← JsonRules.nameHas_iff]
    decide
  · rw [← JsonRules.nameHas_iff]
    decide

end JsonRoot

end SourceLines
