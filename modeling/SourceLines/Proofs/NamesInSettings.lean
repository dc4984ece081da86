/-
# Extensions and keywords in names of any letter case

The settings hold texts that are looked for in file names: the extension of files with
block comments and the keywords for JSON files. A file name is put into lower case before
anything is looked for in it. The extension is put into lower case as well, but by itself,
without the name in front; the keywords are taken as they are written.

So an extension is found at the end of every name that ends with it as it is written, unless
the name makes a capital sigma in the extension end a word. And a keyword is found in every
name that contains it as it is written if it is in lower case, and in no name at all if it
is not.
-/

import SourceLines.Proofs.JsonKinds
import SourceLines.Proofs.LowerCase

namespace SourceLines

theorem Unicode.toList_lowercaseString (text : String) :
    (lowercaseString text).toList = lowercase text.toList :=
  String.toList_ofList

theorem Unicode.lowercaseString_eq_self_iff {text : String} :
    lowercaseString text = text ↔ lowercase text.toList = text.toList := by
  rw [← String.toList_inj, toList_lowercaseString]

theorem PathName.lowerFileName_of_fileName? {path name : String}
    (isName : fileName? path = some name) :
    lowerFileName path = Unicode.lowercaseString name := by
  rw [lowerFileName, isName]

open Unicode (EndsWord meetsCased lowercaseString)

/-! ## Extensions -/

namespace Settings

variable {settings : Settings} {path : String}

theorem route_eq_blockComment_iff :
    settings.route path = .blockComment ↔
      (lowercaseString settings.blockComment.extension).toList <:+
        (PathName.lowerFileName path).toList := by
  rw [← List.isSuffixOf_iff_suffix]
  change _ ↔ endsWithString _ _ = true
  by_cases ends : endsWithString (lowercaseString settings.blockComment.extension)
      (PathName.lowerFileName path) = true
  · simp [route, ends]
  · simp only [route, if_neg ends]
    split <;> simp [ends]

/-- A file is counted as one with block comments if its name ends with the extension as it
is written, unless the part of the name in front ends with a cased letter and the extension
starts with a capital sigma that then ends a word, case-ignorable characters being passed
over. In that case it is not. -/
theorem route_of_written_extension {stem : String}
    (isName : PathName.fileName? path = some (stem ++ settings.blockComment.extension)) :
    settings.route path = .blockComment ↔
      ¬ (meetsCased stem.toList.reverse = true ∧
        EndsWord settings.blockComment.extension.toList) := by
  rw [route_eq_blockComment_iff, PathName.lowerFileName_of_fileName? isName,
    Unicode.toList_lowercaseString, Unicode.toList_lowercaseString, String.toList_append]
  exact Unicode.lowercase_isSuffix_iff _ _

/-- Standard settings with this extension for files with block comments. -/
def withExtension (extension : String) : Settings :=
  { Settings.standard with blockComment := ⟨extension, BlockRule.standard.label⟩ }

/-- Behind a letter the sigma in this extension is final in the extension and in the name. -/
theorem route_of_written_extension_word :
    PathName.fileName? "src/λόγος.ΑΣ" =
        some ("λόγος" ++ (withExtension ".ΑΣ").blockComment.extension) ∧
      (withExtension ".ΑΣ").route "src/λόγος.ΑΣ" = .blockComment := by
  have isName : PathName.fileName? "src/λόγος.ΑΣ" =
      some ("λόγος" ++ (withExtension ".ΑΣ").blockComment.extension) := by
    decide +kernel
  refine ⟨isName, (route_of_written_extension isName).mpr ?_⟩
  rintro ⟨-, after, first, -⟩
  have alpha : ".ΑΣ".toList.dropWhile Unicode.isCaseIgnorable = ['Α', 'Σ'] := by
    decide +kernel
  exact absurd (List.cons.inj (alpha.symm.trans first)).1 (by decide)

/-- Behind the dot alone it is not final in the extension, but in the name it is. -/
theorem route_misses_final_sigma :
    (withExtension ".Σ").fault? = none ∧
      '/' ∉ (withExtension ".Σ").blockComment.extension.toList ∧
      PathName.fileName? "a.Σ" = some ("a" ++ (withExtension ".Σ").blockComment.extension) ∧
      (withExtension ".Σ").route "a.Σ" = .generic := by
  decide +kernel

end Settings

/-! ## Keywords -/

namespace JsonRules

variable {rules : JsonRules} {path name keyword : String}

/-- The rules with one keyword less that speaks for settings. -/
def withoutKeyword (rules : JsonRules) (keyword : String) : JsonRules :=
  { rules with configKeywords := rules.configKeywords.filter (· ≠ keyword) }

/-- A name in lower case mentions no keyword that is not in lower case. -/
theorem mentions_withoutKeyword_iff (notLower : lowercaseString keyword ≠ keyword) :
    Mentions (rules.withoutKeyword keyword).configKeywords (lowercaseString name) ↔
      Mentions rules.configKeywords (lowercaseString name) := by
  simp only [Mentions, withoutKeyword, List.mem_filter, decide_eq_true_eq]
  constructor
  · rintro ⟨other, ⟨member, -⟩, found⟩
    exact ⟨other, member, found⟩
  · rintro ⟨other, member, found⟩
    refine ⟨other, ⟨member, ?_⟩, found⟩
    rintro rfl
    rw [Unicode.toList_lowercaseString] at found
    apply notLower
    rw [Unicode.lowercaseString_eq_self_iff]
    exact Unicode.lowercase_eq_self_of_isInfix found

/-- The file is data under the same conditions if no name in lower case tells the rules
apart. -/
theorem isData_withoutKeyword_iff {content : Bytes}
    (same : Mentions (rules.withoutKeyword keyword).configKeywords (PathName.lowerFileName path) ↔
      Mentions rules.configKeywords (PathName.lowerFileName path)) :
    (rules.withoutKeyword keyword).IsData path content ↔ rules.IsData path content := by
  have takes (value : Json.Value) :
      (rules.withoutKeyword keyword).TakesForData (PathName.lowerFileName path) content.length
          value ↔
        rules.TakesForData (PathName.lowerFileName path) content.length value := by
    constructor
    · intro ⟨notSettings, signal⟩
      exact ⟨fun mentions => notSettings (same.mpr mentions), signal⟩
    · intro ⟨notSettings, signal⟩
      exact ⟨fun mentions => notSettings (same.mp mentions), signal⟩
  simp only [IsData, takes]

/-- A keyword for settings that stands in the name of a JSON file as it is written makes
every content of the file settings if it is in lower case. If it is not, every content is
what it would be without the keyword. -/
theorem decide_of_written_keyword (isName : PathName.fileName? path = some name)
    (isKeyword : keyword ∈ rules.configKeywords) (written : keyword.toList <:+: name.toList)
    (content : Bytes) :
    (lowercaseString keyword = keyword → rules.decide path content = .config) ∧
      (lowercaseString keyword ≠ keyword →
        rules.decide path content = (rules.withoutKeyword keyword).decide path content) := by
  have lowerName := PathName.lowerFileName_of_fileName? isName
  constructor
  · intro inLower
    have found : keyword.toList <:+: (PathName.lowerFileName path).toList := by
      rw [lowerName, Unicode.toList_lowercaseString, Unicode.isInfix_lowercase_iff written]
      exact Unicode.lowercaseString_eq_self_iff.mp inLower
    rw [decide_eq_config_iff]
    intro ⟨_, _, takes⟩
    exact takes.notSettings ⟨keyword, isKeyword, found⟩
  · intro notLower
    have same : (rules.withoutKeyword keyword).IsData path content ↔ rules.IsData path content := by
      apply isData_withoutKeyword_iff
      rw [lowerName]
      exact mentions_withoutKeyword_iff notLower
    rw [← decide_eq_data_iff, ← decide_eq_data_iff] at same
    cases decision : rules.decide path content with
    | data => exact (same.mpr decision).symm
    | config =>
        rw [decide_eq_config_iff, ← decide_eq_data_iff, ← same] at decision
        rw [eq_comm, decide_eq_config_iff, ← decide_eq_data_iff]
        exact decision

/-- The standard rules with this keyword as the only one that speaks for settings. -/
def withKeyword (keyword : String) : JsonRules :=
  { JsonRules.standard with configKeywords := [keyword] }

/-- In lower case the keyword makes an export settings, in capitals it changes nothing. -/
theorem decide_of_written_keyword_exports :
    (withKeyword "conf").decide "Export-conf.json" (stringBytes "{}") = .config ∧
      (withKeyword "CONF").decide "Export-CONF.json" (stringBytes "{}") =
        ((withKeyword "CONF").withoutKeyword "CONF").decide "Export-CONF.json"
          (stringBytes "{}") := by
  have small : PathName.fileName? "Export-conf.json" = some "Export-conf.json" ∧
      "conf".toList <:+: "Export-conf.json".toList := by
    decide +kernel
  have capital : PathName.fileName? "Export-CONF.json" = some "Export-CONF.json" ∧
      "CONF".toList <:+: "Export-CONF.json".toList := by
    decide +kernel
  have isKeyword (keyword : String) : keyword ∈ (withKeyword keyword).configKeywords :=
    List.mem_singleton_self keyword
  constructor
  · apply (decide_of_written_keyword small.1 (isKeyword "conf") small.2 _).1
    decide +kernel
  · apply (decide_of_written_keyword capital.1 (isKeyword "CONF") capital.2 _).2
    decide +kernel

/-- A keyword with a capital is not found in a name that holds it as it is written. -/
theorem decide_misses_capital_keyword :
    (Settings.mk .standard .standard (withKeyword "Config")).fault? = none ∧
      "Config" ∈ (withKeyword "Config").configKeywords ∧
      PathName.fileName? "DataConfig.json" = some "DataConfig.json" ∧
      "DataConfig.json" = "Data" ++ "Config" ++ ".json" ∧
      (withKeyword "Config").decide "DataConfig.json" (stringBytes "{}") = .data := by
  decide +kernel

end JsonRules

end SourceLines
