/-
# Which JSON files are data

A JSON file is passed over as data in exactly one case: it can be parsed, its name holds
no keyword that speaks for settings, and its name, its length as an array or its size
speaks for data. In every other case the answer is the detector's own, of which only the
label changes, and not even that if the answer names no language.

The detector is any function of paths. Nothing is said about files that cannot be read.
-/

import SourceLines.Proofs.FileSorts

namespace SourceLines

namespace JsonRules

variable {rules : JsonRules} {path : String} {content : Bytes}

/-- The name reads one of the keywords at some place. -/
def Mentions (keywords : List String) (name : String) : Prop :=
  ∃ keyword ∈ keywords, keyword.toList <:+: name.toList

theorem nameHas_iff {keywords : List String} {name : String} :
    nameHas keywords name = true ↔ Mentions keywords name := by
  simp only [nameHas, List.any_eq_true, containsString, containsList_iff_isInfix, Mentions]

/-- A text that can be parsed is data: its name does not speak for settings, and something
speaks for data. -/
structure TakesForData (rules : JsonRules) (name : String) (size : Nat) (value : Json.Value) :
    Prop where
  notSettings : ¬ Mentions rules.configKeywords name
  signal : Mentions rules.dataKeywords name ∨
    (∃ items, value = .array items ∧ rules.arrayThreshold < items.length) ∨
    rules.sizeThreshold < size

/-- The file is data. -/
def IsData (rules : JsonRules) (path : String) (content : Bytes) : Prop :=
  ∃ value, Json.parse (decodeLossy content) = .ok value ∧
    rules.TakesForData (PathName.lowerFileName path) content.length value

theorem kindOf_unparseable (name : String) (size : Nat) :
    rules.kindOf name size .unparseable = .config := rfl

/-- The kind of a text that can be parsed. -/
theorem kindOf_ofValue_eq_data_iff {name : String} {size : Nat} {value : Json.Value} :
    rules.kindOf name size (.ofValue value) = .data ↔ rules.TakesForData name size value := by
  have kind (isLong : Bool) :
      (if (isLong || Decidable.decide (rules.sizeThreshold < size) ||
          nameHas rules.dataKeywords name) && !nameHas rules.configKeywords name then
        JsonKind.data else .config) = .data ↔
        ¬ Mentions rules.configKeywords name ∧ (Mentions rules.dataKeywords name ∨
          isLong = true ∨ rules.sizeThreshold < size) := by
    simp only [← nameHas_iff]
    grind
  cases value with
  | array items =>
      refine (kind (Decidable.decide (rules.arrayThreshold < items.length))).trans ⟨?_, ?_⟩
      · rintro ⟨notSettings, signal⟩
        refine ⟨notSettings, signal.imp_right (Or.imp_left fun long => ?_)⟩
        exact ⟨items, rfl, of_decide_eq_true long⟩
      · rintro ⟨notSettings, signal⟩
        refine ⟨notSettings, signal.imp_right (Or.imp_left ?_)⟩
        rintro ⟨_, ⟨⟩, long⟩
        exact decide_eq_true long
  | null | bool | number | string | object =>
      refine (kind false).trans ⟨?_, ?_⟩
      · rintro ⟨notSettings, signal⟩
        exact ⟨notSettings, signal.imp_right (Or.imp_left nofun)⟩
      · rintro ⟨notSettings, signal⟩
        exact ⟨notSettings, signal.imp_right (Or.imp_left nofun)⟩

theorem decide_of_parse {value : Json.Value}
    (parsed : Json.parse (decodeLossy content) = .ok value) :
    rules.decide path content =
      rules.kindOf (PathName.lowerFileName path) content.length (.ofValue value) := by
  simp only [decide, JsonRoot.inspect, parsed]

/-- What cannot be parsed is taken for settings, whatever its name and its size. -/
theorem decide_of_unparseable {failure : Json.Failure}
    (unparseable : Json.parse (decodeLossy content) = .error failure) :
    rules.decide path content = .config := by
  simp only [decide, JsonRoot.inspect, unparseable]
  exact kindOf_unparseable _ _

theorem decide_eq_data_iff : rules.decide path content = .data ↔ rules.IsData path content := by
  unfold IsData
  cases parsed : Json.parse (decodeLossy content) with
  | error failure =>
      rw [decide_of_unparseable parsed]
      simp
  | ok value =>
      rw [decide_of_parse parsed, kindOf_ofValue_eq_data_iff]
      simp

theorem decide_eq_config_iff :
    rules.decide path content = .config ↔ ¬ rules.IsData path content := by
  rw [← decide_eq_data_iff]
  cases rules.decide path content <;> simp

/-- A JSON file that can be read is skipped as data if and only if it is data. About any
other the answer is the detector's: an error as it is, a file without a language as it is,
and any other file with its path and its counts under the label of the rules. -/
theorem classify_skips_data_alone {system : FileSystem} (read : system.read path = .ok content)
    (rules : JsonRules) (detect : Detector) :
    (rules.classify system detect path = .ok (.skipped .dataJson) ↔ rules.IsData path content) ∧
      (¬ rules.IsData path content →
        (∀ problem, detect path = .error problem →
          rules.classify system detect path = .error problem) ∧
        (∀ file, detect path = .ok file → Label.isPseudo file.label = true →
          rules.classify system detect path = .ok (.classified file)) ∧
        ∀ file, detect path = .ok file → Label.isPseudo file.label = false →
          rules.classify system detect path =
            .ok (.classified ⟨file.path, rules.configLabel, file.counts⟩)) := by
  have content? := FileSystem.readForClassification_of_read read
  rw [classify_of_read content?]
  by_cases data : rules.IsData path content
  · rw [decide_eq_data_iff.mpr data]
    exact ⟨iff_of_true rfl data, fun other => absurd data other⟩
  · rw [decide_eq_config_iff.mpr data]
    refine ⟨iff_of_false ?_ data, fun _ => ⟨?_, ?_, ?_⟩⟩
    · cases detect path <;> simp
    · intro problem answers
      rw [answers]
      rfl
    · intro file answers pseudo
      rw [answers]
      exact congrArg (fun file => Except.ok (Outcome.classified file)) (if_pos pseudo)
    · intro file answers named
      rw [answers]
      exact congrArg (fun file => Except.ok (Outcome.classified file))
        (if_neg (ne_true_of_eq_false named))

/-- A directory with three files that are named like data. One of them is named like
settings too, and one is cut off in the middle. -/
def systemOfDumps : FileSystem :=
  ⟨[.directory "work"
    [.file "dump.json" (stringBytes "[1]\n"), .file "Dump-Config.json" (stringBytes "[1]\n"),
      .file "export.json" (stringBytes "[1,\n")]], ["work"]⟩

/-- Of the three files only the first one is skipped. The others get the label of
settings. -/
theorem classify_skips_data_alone_systemOfDumps :
    (systemOfDumps.read "dump.json" = .ok (stringBytes "[1]\n") ∧
      JsonRules.standard.classify systemOfDumps (.generic systemOfDumps) "dump.json" =
        .ok (.skipped .dataJson)) ∧
      (systemOfDumps.read "Dump-Config.json" = .ok (stringBytes "[1]\n") ∧
        JsonRules.standard.classify systemOfDumps (.generic systemOfDumps) "Dump-Config.json" =
          .ok (.classified ⟨"Dump-Config.json", "JSON (config)", ⟨1, 0, 0, 0⟩⟩)) ∧
      systemOfDumps.read "export.json" = .ok (stringBytes "[1,\n") ∧
        JsonRules.standard.classify systemOfDumps (.generic systemOfDumps) "export.json" =
          .ok (.classified ⟨"export.json", "JSON (config)", ⟨1, 0, 0, 0⟩⟩) := by
  have skips (path : String) {content : Bytes} (read : systemOfDumps.read path = .ok content) :=
    classify_skips_data_alone read .standard (.generic systemOfDumps)
  refine ⟨⟨rfl, ?_⟩, ⟨rfl, ?_⟩, rfl, ?_⟩
  · obtain ⟨skipped, -⟩ := skips "dump.json" rfl
    exact skipped.mpr (decide_eq_data_iff.mp (by decide +kernel))
  · obtain ⟨-, asks⟩ := skips "Dump-Config.json" rfl
    obtain ⟨-, -, named⟩ := asks (decide_eq_config_iff.mp (by decide +kernel))
    exact named ⟨"Dump-Config.json", "JSON", ⟨1, 0, 0, 0⟩⟩ (by decide +kernel) rfl
  · obtain ⟨-, asks⟩ := skips "export.json" rfl
    obtain ⟨-, -, named⟩ := asks (decide_eq_config_iff.mp (by decide +kernel))
    exact named ⟨"export.json", "JSON", ⟨1, 0, 0, 0⟩⟩ (by decide +kernel) rfl

end JsonRules

end SourceLines
