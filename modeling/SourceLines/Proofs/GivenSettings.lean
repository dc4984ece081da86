/-
# Settings of which only some are given

A file of settings gives some of them and leaves the others as they are. Its members come
in any order and may be spelled in any way, and members that mean nothing may stand among
them, whatever their values are. What is given replaces the standard as a whole, also
where it is a list; of the two records within the settings, again only what is given is
replaced. What comes out is accepted or refused like any settings.

The settings of a file in which everything is given are exactly those that it gives, so
settings that were written as JSON are loaded as they were.
-/

import SourceLines.Proofs.CutBytes
import SourceLines.Proofs.JsonPrinting
import SourceLines.Proofs.JsonSkipping
import SourceLines.Proofs.OptionalFields
import SourceLines.Settings.Load

namespace SourceLines

open Json

variable {text : Text} {depth : Nat}

/-- The text is an object whose members are such. -/
def IsObjectOf (areSuch : List (String × Text) → Prop) (text : Text) : Prop :=
  ∃ members, SpellsObject members text ∧ (∀ member ∈ members, IsJson member.2) ∧ areSuch members

theorem IsObjectOf.isJson {areSuch : List (String × Text) → Prop}
    (written : IsObjectOf areSuch text) : IsJson text := by
  obtain ⟨members, object, each, -⟩ := written
  exact object.isJson each

/-! ## Rules for block comments -/

/-- What is given of the rule for files with block comments. -/
structure GivenBlockRule where
  extension : Option String
  label : Option String

namespace GivenBlockRule

variable {given : GivenBlockRule}

/-- The rule with what is given in place of its own. -/
def applyTo (given : GivenBlockRule) (rule : BlockRule) : BlockRule where
  extension := given.extension.getD rule.extension
  label := given.label.getD rule.label

/-- Exactly this is given by those members of an object that mean something. -/
structure IsIn (given : GivenBlockRule) (members : List (String × Text)) : Prop where
  extension : Carries members "extension" (fun value => Spells (.string value)) given.extension
  label : Carries members "label" (fun value => Spells (.string value)) given.label

/-- The standard rule with what is given under the names that are present already. -/
def filled (given : GivenBlockRule) (present : List String) : BlockRule :=
  applyTo ⟨soFar present "extension" given.extension, soFar present "label" given.label⟩ .standard

/-- The rule is read as the standard one with what is given in its place. -/
theorem readsText (written : IsObjectOf given.IsIn text) :
    ReadsText (depth + 1) BlockRule.format.read text (given.applyTo .standard) := by
  obtain ⟨members, object, isJson, extension, label⟩ := written
  have isFilled : BlockRule.format.IsFilled depth members given.filled := by
    refine ⟨?_, fun member among => (isJson member among).isSkipped⟩
    simp only [BlockRule.format, List.forall_mem_cons]
    refine ⟨extension.isFilled (reads_readTypedString _ _).readsText ?_,
      label.isFilled (reads_readTypedString _ _).readsText ?_, by simp⟩
    all_goals
      intro value present same
      simp [filled, applyTo, same, soFar_cons_of_ne]
  refine isFilled.readsText_read rfl rfl (fun present seen => ?_) object
  simp only [BlockRule.format, List.forall_mem_cons] at seen
  obtain ⟨seenExtension, seenLabel, -⟩ := seen
  rw [filled, extension.soFar_eq seenExtension, label.soFar_eq seenLabel]

/-- The whole rule is given. -/
def ofRule (rule : BlockRule) : GivenBlockRule :=
  ⟨some rule.extension, some rule.label⟩

theorem isObjectOf_ofRule {rule : BlockRule}
    (spells : Spells (.object [("extension", .string rule.extension),
      ("label", .string rule.label)]) text) : IsObjectOf (ofRule rule).IsIn text := by
  obtain ⟨named, object, _ | ⟨⟨extension⟩, _ | ⟨⟨label⟩, ⟨⟩⟩⟩⟩ := spells.exists_object
  refine ⟨_, object, ?_, .given (by simp) extension, .given (by simp) label⟩
  simp only [List.forall_mem_cons]
  exact ⟨extension.isJson, label.isJson, by simp⟩

end GivenBlockRule

/-! ## Rules for JSON files -/

/-- What is given of the rules for JSON files. -/
structure GivenJsonRules where
  arrayThreshold : Option Nat
  sizeThreshold : Option Nat
  dataKeywords : Option (List String)
  configKeywords : Option (List String)
  configLabel : Option String

namespace GivenJsonRules

variable {given : GivenJsonRules}

/-- The rules with what is given in place of their own. -/
def applyTo (given : GivenJsonRules) (rules : JsonRules) : JsonRules where
  arrayThreshold := given.arrayThreshold.getD rules.arrayThreshold
  sizeThreshold := given.sizeThreshold.getD rules.sizeThreshold
  dataKeywords := given.dataKeywords.getD rules.dataKeywords
  configKeywords := given.configKeywords.getD rules.configKeywords
  configLabel := given.configLabel.getD rules.configLabel

/-- Exactly this is given by those members of an object that mean something. -/
structure IsIn (given : GivenJsonRules) (members : List (String × Text)) : Prop where
  arrayThreshold : Carries members "array_threshold" (fun value => Spells (.natural value))
    given.arrayThreshold
  sizeThreshold : Carries members "size_threshold_bytes" (fun value => Spells (.natural value))
    given.sizeThreshold
  dataKeywords : Carries members "data_keywords" (fun value => Spells (.strings value))
    given.dataKeywords
  configKeywords : Carries members "config_keywords" (fun value => Spells (.strings value))
    given.configKeywords
  configLabel : Carries members "config_label" (fun value => Spells (.string value))
    given.configLabel

/-- The standard rules with what is given under the names that are present already. -/
def filled (given : GivenJsonRules) (present : List String) : JsonRules :=
  applyTo
    { arrayThreshold := soFar present "array_threshold" given.arrayThreshold
      sizeThreshold := soFar present "size_threshold_bytes" given.sizeThreshold
      dataKeywords := soFar present "data_keywords" given.dataKeywords
      configKeywords := soFar present "config_keywords" given.configKeywords
      configLabel := soFar present "config_label" given.configLabel } .standard

/-- The rules are read as the standard ones with what is given in their place. -/
theorem readsText (written : IsObjectOf given.IsIn text) :
    ReadsText (depth + 2) JsonRules.format.read text (given.applyTo .standard) := by
  obtain ⟨members, object, isJson, arrayThreshold, sizeThreshold, dataKeywords, configKeywords,
    configLabel⟩ := written
  have isFilled : JsonRules.format.IsFilled (depth + 1) members given.filled := by
    refine ⟨?_, fun member among => (isJson member among).isSkipped⟩
    simp only [JsonRules.format, List.forall_mem_cons]
    refine ⟨arrayThreshold.isFilled (reads_readTypedNatural _ _).readsText ?_,
      sizeThreshold.isFilled (reads_readTypedNatural _ _).readsText ?_,
      dataKeywords.isFilled (reads_readStrings _).readsText ?_,
      configKeywords.isFilled (reads_readStrings _).readsText ?_,
      configLabel.isFilled (reads_readTypedString _ _).readsText ?_, by simp⟩
    all_goals
      intro value present same
      simp [filled, applyTo, same, soFar_cons_of_ne]
  refine isFilled.readsText_read rfl rfl (fun present seen => ?_) object
  simp only [JsonRules.format, List.forall_mem_cons] at seen
  obtain ⟨seenArray, seenSize, seenData, seenConfig, seenLabel, -⟩ := seen
  rw [filled, arrayThreshold.soFar_eq seenArray, sizeThreshold.soFar_eq seenSize,
    dataKeywords.soFar_eq seenData, configKeywords.soFar_eq seenConfig,
    configLabel.soFar_eq seenLabel]

/-- All rules are given. -/
def ofRules (rules : JsonRules) : GivenJsonRules :=
  ⟨some rules.arrayThreshold, some rules.sizeThreshold, some rules.dataKeywords,
    some rules.configKeywords, some rules.configLabel⟩

theorem isObjectOf_ofRules {rules : JsonRules}
    (spells : Spells (.object [("array_threshold", .natural rules.arrayThreshold),
      ("size_threshold_bytes", .natural rules.sizeThreshold),
      ("data_keywords", .strings rules.dataKeywords),
      ("config_keywords", .strings rules.configKeywords),
      ("config_label", .string rules.configLabel)]) text) :
    IsObjectOf (ofRules rules).IsIn text := by
  obtain ⟨named, object, _ | ⟨⟨arrayThreshold⟩, _ | ⟨⟨sizeThreshold⟩, _ | ⟨⟨dataKeywords⟩,
    _ | ⟨⟨configKeywords⟩, _ | ⟨⟨configLabel⟩, ⟨⟩⟩⟩⟩⟩⟩⟩ := spells.exists_object
  refine ⟨_, object, ?_, .given (by simp) arrayThreshold, .given (by simp) sizeThreshold,
    .given (by simp) dataKeywords, .given (by simp) configKeywords, .given (by simp) configLabel⟩
  simp only [List.forall_mem_cons]
  exact ⟨arrayThreshold.isJson, sizeThreshold.isJson, dataKeywords.isJson, configKeywords.isJson,
    configLabel.isJson, by simp⟩

end GivenJsonRules

/-! ## Settings -/

/-- What is given of the settings. -/
structure GivenSettings where
  ignore : Option (List String)
  blockComment : Option GivenBlockRule
  json : Option GivenJsonRules

namespace GivenSettings

variable {given : GivenSettings}

/-- The settings with what is given in place of their own, at both levels. -/
def applyTo (given : GivenSettings) (settings : Settings) : Settings where
  ignore := (given.ignore.map IgnoreList.mk).getD settings.ignore
  blockComment :=
    (given.blockComment.map (·.applyTo settings.blockComment)).getD settings.blockComment
  json := (given.json.map (·.applyTo settings.json)).getD settings.json

/-- Exactly this is given by those members of an object that mean something. -/
structure IsIn (given : GivenSettings) (members : List (String × Text)) : Prop where
  ignore : Carries members "ignore" (fun value => Spells (.strings value)) given.ignore
  blockComment : Carries members "block_comment" (fun value => IsObjectOf value.IsIn)
    given.blockComment
  json : Carries members "json" (fun value => IsObjectOf value.IsIn) given.json

/-- The standard settings with what is given under the names that are present already. -/
def filled (given : GivenSettings) (present : List String) : Settings :=
  applyTo ⟨soFar present "ignore" given.ignore, soFar present "block_comment" given.blockComment,
    soFar present "json" given.json⟩ .standard

/-- Settings are read as the standard ones with what is given in their place. -/
theorem readsText (written : IsObjectOf given.IsIn text) :
    ReadsText (depth + 3) Settings.format.read text (given.applyTo .standard) := by
  obtain ⟨members, object, isJson, ignore, blockComment, json⟩ := written
  have isFilled : Settings.format.IsFilled (depth + 2) members given.filled := by
    refine ⟨?_, fun member among => (isJson member among).isSkipped⟩
    simp only [Settings.format, List.forall_mem_cons]
    refine ⟨ignore.isFilled (reads_readStrings _).readsText ?_,
      blockComment.isFilled GivenBlockRule.readsText ?_,
      json.isFilled GivenJsonRules.readsText ?_, by simp⟩
    all_goals
      intro value present same
      simp [filled, applyTo, same, soFar_cons_of_ne, Settings.standard]
  refine isFilled.readsText_read rfl rfl (fun present seen => ?_) object
  simp only [Settings.format, List.forall_mem_cons] at seen
  obtain ⟨seenIgnore, seenBlockComment, seenJson, -⟩ := seen
  rw [filled, ignore.soFar_eq seenIgnore, blockComment.soFar_eq seenBlockComment,
    json.soFar_eq seenJson]

/-- All settings are given. -/
def ofSettings (settings : Settings) : GivenSettings :=
  ⟨some settings.ignore.patterns, some (.ofRule settings.blockComment),
    some (.ofRules settings.json)⟩

theorem applyTo_ofSettings (settings other : Settings) :
    (ofSettings settings).applyTo other = settings :=
  rfl

theorem isObjectOf_ofSettings {settings : Settings} (spells : Spells settings.toJson text) :
    IsObjectOf (ofSettings settings).IsIn text := by
  obtain ⟨named, object, _ | ⟨⟨ignore⟩, _ | ⟨⟨blockComment⟩, _ | ⟨⟨json⟩, ⟨⟩⟩⟩⟩⟩ :=
    spells.exists_object
  refine ⟨_, object, ?_, .given (by simp) ignore,
    .given (by simp) (GivenBlockRule.isObjectOf_ofRule blockComment),
    .given (by simp) (GivenJsonRules.isObjectOf_ofRules json)⟩
  simp only [List.forall_mem_cons]
  exact ⟨ignore.isJson, blockComment.isJson, json.isJson, by simp⟩

end GivenSettings

namespace Settings

theorem readText_of_read {system : FileSystem} {path : String} {file : Text}
    (read : system.read path = .ok (encodeUtf8 file)) : system.readText path = .ok file := by
  simp only [FileSystem.readText, read, Utf8.decodeStrict?_encodeUtf8]

/-- Settings are loaded from a text as soon as they are parsed from it and hold no fault. -/
theorem load_of_parse {system : FileSystem} {path : String} {file : Text} {settings : Settings}
    (read : system.read path = .ok (encodeUtf8 file)) (notYaml : isYamlPath path = false)
    (parsed : parse file = .ok settings) : load system (some path) = settings.check := by
  simp only [load, readText_of_read read, parseFile, notYaml, parsed]
  rfl

variable {system : FileSystem} {path : String} {before after : Text}

/-- A file that gives some settings is loaded as the standard ones with those in their
place, unless these hold a fault. -/
theorem load_of_given (notYaml : isYamlPath path = false)
    (isGapBefore : IsGap before) (isGapAfter : IsGap after)
    (read : system.read path = .ok (encodeUtf8 (before ++ (text ++ after))))
    {given : GivenSettings} (written : IsObjectOf given.IsIn text) :
    load system (some path) = (given.applyTo .standard).check := by
  have reads : ReadsText 3 format.read text (given.applyTo .standard) :=
    GivenSettings.readsText written
  exact load_of_parse read notYaml
    (readWhole_of_readsText reads (by decide) isGapBefore isGapAfter)

/-- A file that gives some settings is loaded as the standard ones with those in their
place, if these hold no fault, and is refused for its first fault otherwise. Settings
without a fault are loaded as they are from whatever spells them. -/
theorem load_keeps_what_is_not_given (notYaml : isYamlPath path = false)
    (isGapBefore : IsGap before) (isGapAfter : IsGap after)
    (read : system.read path = .ok (encodeUtf8 (before ++ (text ++ after)))) :
    (∀ given : GivenSettings, IsObjectOf given.IsIn text →
      ((given.applyTo .standard).fault? = none →
        load system (some path) = .ok (given.applyTo .standard)) ∧
      ∀ fault, (given.applyTo .standard).fault? = some fault →
        load system (some path) = .error (.invalidSettings fault.message)) ∧
    ∀ settings : Settings, settings.fault? = none → Spells settings.toJson text →
      load system (some path) = .ok settings := by
  have loads (given : GivenSettings) (written : IsObjectOf given.IsIn text) :
      load system (some path) = (given.applyTo .standard).check :=
    load_of_given notYaml isGapBefore isGapAfter read written
  refine ⟨fun given written => ⟨fun valid => ?_, fun fault refused => ?_⟩, ?_⟩
  · rw [loads given written, check, valid]
  · rw [loads given written, check, refused]
  · intro settings valid spells
    rw [loads _ (GivenSettings.isObjectOf_ofSettings spells), GivenSettings.applyTo_ofSettings,
      check, valid]

/-- What is printed for settings with figures of 64 bits spells them. -/
theorem spells_print_toJson {settings : Settings}
    (arrayFits : settings.json.arrayThreshold ≤ maxNatural)
    (sizeFits : settings.json.sizeThreshold ≤ maxNatural) :
    Spells settings.toJson (print settings.toJson) := by
  have plain : IsPlain 3 settings.toJson := by
    refine .object ?_
    simp only [List.forall_mem_cons]
    refine ⟨isPlain_strings _, .object ?_, .object ?_, by simp⟩
    · simp only [List.forall_mem_cons]
      exact ⟨.string _, .string _, by simp⟩
    · simp only [List.forall_mem_cons]
      exact ⟨.natural arrayFits, .natural sizeFits, isPlain_strings _, isPlain_strings _,
        .string _, by simp⟩
  exact plain.spells_printed 0

/-- Settings that differ from the standard in every part. -/
def unusual : Settings where
  ignore := ⟨["\"tmp\"", "é"]⟩
  blockComment := ⟨".x", "X\n"⟩
  json := ⟨0, maxNatural, [], ["a\tb"], "JSON"⟩

/-- A member that means nothing, with a number that is too large to be read and half of a
pair of codes. -/
def strangeValue : Text :=
  "[1.5e999,\x7b\"ignore\":\"\\ud800\"\x7d]".toList

/-- Two settings are given, one of them by a name that is escaped. -/
def someGiven : Text :=
  "\x7b\"x\":".toList ++ strangeValue ++
    ", \"json\":\x7b\"array_threshold\" : 5\x7d,\"\\u0069gnore\":[]\x7d".toList

/-- A directory with files that give some settings, all unusual ones, and a pattern that is
refused. -/
def systemOfGivenSettings : FileSystem :=
  ⟨[.directory "work"
    [.file "some.json" (encodeUtf8 (someGiven ++ ['\n'])),
      .file "all.json" (encodeUtf8 (print unusual.toJson)),
      .file "none.json" (stringBytes "\x7b\"ignore\":[\"\"]\x7d")]], ["work"]⟩

theorem isJson_strangeValue : IsJson strangeValue := by
  have digits {c : Char} {more : Text} (all : (c :: more).all Char.isDigit = true) :
      IsDigits (c :: more) := ⟨List.cons_ne_nil c more, List.all_eq_true.mp all⟩
  have integer : IsInteger "1".toList := .digits (by decide) (digits rfl)
  have fraction : IsFraction ".5".toList := .some (digits rfl)
  have exponent : IsExponent "e999".toList :=
    @IsExponent.some 'e' [] "999".toList (.inl rfl) (.inl rfl) (digits rfl)
  have number : IsJson "1.5e999".toList :=
    .number (.positive (.parts integer fraction exponent))
  have half : SpellsCode 0xD800 "d800".toList := .quad (by decide)
  have string : IsJson "\"\\ud800\"".toList := .string (.quoted (.code half .nil))
  have members : SpellsObject [("ignore", "\"\\ud800\"".toList)]
      "\x7b\"ignore\":\"\\ud800\"\x7d".toList :=
    .braces (.cons (Printer.spellsString_string "ignore") isGap_nil isGap_nil .nil)
      (.first isGap_nil (.done isGap_nil))
  have each : ∀ item ∈ ["1.5e999".toList, "\x7b\"ignore\":\"\\ud800\"\x7d".toList],
      IsJson item := by
    simp only [List.forall_mem_cons]
    exact ⟨number, members.isJson (by simpa using string), by simp⟩
  exact .array each (.first isGap_nil (.next isGap_nil isGap_nil (.done isGap_nil)))

theorem isObjectOf_someGiven :
    IsObjectOf (GivenSettings.IsIn ⟨some [], none, some ⟨some 5, none, none, none, none⟩⟩)
      someGiven := by
  have space : IsGap [' '] := by simp [IsGap, isSpace]
  have array : Spells (.strings []) "[]".toList := .array .nil (.done isGap_nil)
  have figure : Spells (.natural 5) "5".toList := .number (.natural (by decide))
  have rules : IsObjectOf (GivenJsonRules.IsIn ⟨some 5, none, none, none, none⟩)
      "\x7b\"array_threshold\" : 5\x7d".toList := by
    refine ⟨[("array_threshold", "5".toList)],
      .braces (.cons (Printer.spellsString_string _) space space .nil)
        (.first isGap_nil (.done isGap_nil)), by simpa using figure.isJson, ?_⟩
    exact ⟨.given (by decide) figure, .missing (by decide), .missing (by decide),
      .missing (by decide), .missing (by decide)⟩
  have letter : SpellsCode 0x69 "0069".toList := .quad (by decide)
  have ignoreChars : SpellsChars "ignore".toList "\\u0069gnore".toList :=
    .cons (.code letter (by decide) (by decide)) (Printer.spellsChars_flatMap "gnore".toList)
  refine ⟨[("x", strangeValue), ("json", "\x7b\"array_threshold\" : 5\x7d".toList),
    ("ignore", "[]".toList)], ?_, ?_, ?_⟩
  · exact .braces (.cons (Printer.spellsString_string "x") isGap_nil isGap_nil
      (.cons (Printer.spellsString_string "json") isGap_nil isGap_nil
        (.cons (.quoted ignoreChars) isGap_nil isGap_nil .nil)))
      (.first isGap_nil (.next isGap_nil space (.next isGap_nil isGap_nil (.done isGap_nil))))
  · simp only [List.forall_mem_cons]
    exact ⟨isJson_strangeValue, rules.isJson, array.isJson, by simp⟩
  · exact ⟨.given (by decide) array, .missing (by decide), .given (by decide) rules⟩

theorem isObjectOf_emptyPattern :
    IsObjectOf (GivenSettings.IsIn ⟨some [""], none, none⟩)
      "\x7b\"ignore\":[\"\"]\x7d".toList := by
  have array : Spells (.strings [""]) "[\"\"]".toList :=
    .array (.cons (.string (Printer.spellsString_string "")) .nil)
      (.first isGap_nil (.done isGap_nil))
  refine ⟨[("ignore", "[\"\"]".toList)],
    .braces (.cons (Printer.spellsString_string _) isGap_nil isGap_nil .nil)
      (.first isGap_nil (.done isGap_nil)), by simpa using array.isJson, ?_⟩
  exact ⟨.given (by decide) array, .missing (by decide), .missing (by decide)⟩

/-- What is given is loaded, what was printed is loaded as it was, and an empty pattern is
refused. -/
theorem load_keeps_what_is_not_given_systemOfGivenSettings :
    load systemOfGivenSettings (some "some.json") =
        .ok ⟨⟨[]⟩, .standard, { JsonRules.standard with arrayThreshold := 5 }⟩ ∧
      load systemOfGivenSettings (some "all.json") = .ok unusual ∧
      load systemOfGivenSettings (some "none.json") =
        .error (.invalidSettings "ignore patterns must not be empty strings") := by
  have newline : IsGap ['\n'] := by simp [IsGap, isSpace]
  have readSome : systemOfGivenSettings.read "some.json" =
      .ok (encodeUtf8 ([] ++ (someGiven ++ ['\n']))) := rfl
  have readAll : systemOfGivenSettings.read "all.json" =
      .ok (encodeUtf8 ([] ++ (print unusual.toJson ++ []))) := by
    rw [List.nil_append, List.append_nil]
    rfl
  have readNone : systemOfGivenSettings.read "none.json" =
      .ok (encodeUtf8 ([] ++ ("\x7b\"ignore\":[\"\"]\x7d".toList ++ []))) := rfl
  refine ⟨?_, ?_, ?_⟩
  · obtain ⟨given, -⟩ := load_keeps_what_is_not_given (by decide) isGap_nil newline readSome
    obtain ⟨loads, -⟩ := given _ isObjectOf_someGiven
    exact loads (by decide)
  · obtain ⟨-, whole⟩ := load_keeps_what_is_not_given (by decide) isGap_nil isGap_nil readAll
    exact whole unusual (by decide) (spells_print_toJson (by decide) (by decide))
  · obtain ⟨given, -⟩ := load_keeps_what_is_not_given (by decide) isGap_nil isGap_nil readNone
    obtain ⟨-, refuses⟩ := given _ isObjectOf_emptyPattern
    exact refuses .emptyPattern (by decide)

end Settings

end SourceLines
