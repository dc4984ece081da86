/-
# Which files a summary accepts

Settings that could be loaded name no pseudo-language. So whatever a file with block
comments contains, its counts are added under the label of the settings, and so are those
of a JSON file that holds settings and about which the detector has an answer that names
a language. The detector's other answers reach the summary as they are, since nothing on
the way gives them another label; there they are counted as files and as nothing else.

Which detector it is does not matter, nor what the summary holds already. Figures are
natural numbers here, so nothing is said about overflow.
-/

import SourceLines.Proofs.FileSorts

namespace SourceLines

/-! ## Adding a file -/

/-- How many files were counted under a label. -/
def Summary.fileCount (summary : Summary) (label : String) : Nat :=
  ((summary.language? label).getD .zero).files

namespace ClassifiedFile

/-- Adding the file is answered with yes, and there is one more file under its label.
What stands under other labels stays. -/
structure IsAccepted (file : ClassifiedFile) : Prop where
  answer : Summary.accepts file = true
  counted : ∀ summary : Summary,
    (summary.add file).fileCount file.label = summary.fileCount file.label + 1
  others : ∀ (summary : Summary) (label : String), label ≠ file.label →
    (summary.add file).language? label = summary.language? label

/-- Adding the file is answered with no, and all that changes is how many files there were
under pseudo-languages. -/
structure IsRejected (file : ClassifiedFile) : Prop where
  answer : Summary.accepts file = false
  unchanged : ∀ summary : Summary, summary.add file =
    { summary with
      tally := { summary.tally with pseudoLanguage := summary.tally.pseudoLanguage + 1 } }

variable {file : ClassifiedFile}

/-- A label that names a language is all that it takes. -/
theorem IsAccepted.of_not_isPseudo (named : file.isPseudo = false) : file.IsAccepted where
  answer := by rw [Summary.accepts, named]; rfl
  counted summary := by
    rw [Summary.add_of_not_isPseudo summary (ne_true_of_eq_false named)]
    simp only [Summary.fileCount, Summary.language?, LabelMap.find?_alter, if_pos]
    rfl
  others summary label different := by
    rw [Summary.add_of_not_isPseudo summary (ne_true_of_eq_false named)]
    simp only [Summary.language?, LabelMap.find?_alter, if_neg different.symm]

theorem IsRejected.of_isPseudo (pseudo : file.isPseudo = true) : file.IsRejected where
  answer := by rw [Summary.accepts, pseudo]; rfl
  unchanged summary := summary.add_of_isPseudo pseudo

end ClassifiedFile

namespace Settings

/-! ## Settings that could be loaded -/

theorem fault?_of_check {settings checked : Settings} (accepted : settings.check = .ok checked) :
    checked.fault? = none := by
  unfold check at accepted
  split at accepted
  · next valid =>
    cases accepted
    exact valid
  · cases accepted

/-- Settings are checked before they are handed out; the standard ones need no check. -/
theorem fault?_of_load {source : FileSystem} {config : Option String} {settings : Settings}
    (loaded : load source config = .ok settings) : settings.fault? = none := by
  cases config with
  | none =>
      cases loaded
      rfl
  | some path =>
      rw [load] at loaded
      split at loaded
      · cases loaded
      split at loaded
      · cases loaded
      · exact fault?_of_check loaded

/-! ## Answers on the three routes -/

variable {settings : Settings} {system : FileSystem} {detect : Detector} {path : String}
  {content : Bytes} {answer : ClassifiedFile}

theorem classifyWith_of_classify? {outcome : Outcome}
    (classified : settings.classify? system detect path = .ok outcome) :
    settings.classifyWith system detect path = outcome := by
  rw [classifyWith, classified]

/-- A file with block comments is classified under the label of the settings. -/
theorem classifyWith_blockComment (route : settings.route path = .blockComment)
    (read : system.read path = .ok content) :
    settings.classifyWith system detect path =
      .classified
        ⟨path, settings.blockComment.label, BlockComment.count (decodeLossy content)⟩ := by
  have content? := FileSystem.readForClassification_of_read read
  apply classifyWith_of_classify?
  simp only [classify?, route, Detector.blockComment, content?]
  rfl

/-- About JSON that holds settings the detector is asked, and its answer gets the label of
such files unless it is a pseudo-language. -/
theorem classifyWith_json (route : settings.route path = .json)
    (read : system.read path = .ok content)
    (kind : settings.json.decide path content = .config) (answers : detect path = .ok answer) :
    settings.classifyWith system detect path =
      .classified
        (if answer.isPseudo then answer else answer.relabel settings.json.configLabel) := by
  have content? := FileSystem.readForClassification_of_read read
  apply classifyWith_of_classify?
  simp only [classify?, route, JsonRules.classify_of_read content?, kind, answers]
  rfl

theorem classifyWith_generic (route : settings.route path = .generic)
    (answers : detect path = .ok answer) :
    settings.classifyWith system detect path = .classified answer := by
  apply classifyWith_of_classify?
  simp only [classify?, route, answers]
  rfl

/-- The detector is asked about the file at a path: its name calls for nothing special, or
it is JSON that can be read and holds settings. -/
def AsksAbout (settings : Settings) (system : FileSystem) (path : String) : Prop :=
  settings.route path = .generic ∨
    settings.route path = .json ∧
      ∃ content, system.read path = .ok content ∧ settings.json.decide path content = .config

/-- No label is given to what the detector takes for a pseudo-language. -/
theorem classifyWith_of_isPseudo (asks : settings.AsksAbout system path)
    (answers : detect path = .ok answer) (pseudo : answer.isPseudo = true) :
    settings.classifyWith system detect path = .classified answer := by
  rcases asks with generic | ⟨json, content, read, kind⟩
  · exact classifyWith_generic generic answers
  · rw [classifyWith_json json read kind answers, if_pos pseudo]

/-- Under settings that could be loaded, a file with block comments that can be read is
accepted, and so is JSON that holds settings when the detector's answer names a language.
An answer that names none is rejected on either route on which the detector is asked. -/
theorem load_settles_acceptance {source : FileSystem} {config : Option String}
    (loaded : load source config = .ok settings) (system : FileSystem) (detect : Detector)
    (path : String) :
    (∀ content, settings.route path = .blockComment → system.read path = .ok content →
      ∃ file, settings.classifyWith system detect path = .classified file ∧
        file.label = settings.blockComment.label ∧ file.IsAccepted) ∧
    (∀ content answer, settings.route path = .json → system.read path = .ok content →
      settings.json.decide path content = .config → detect path = .ok answer →
      answer.isPseudo = false →
      ∃ file, settings.classifyWith system detect path = .classified file ∧
        file.label = settings.json.configLabel ∧ file.IsAccepted) ∧
    ∀ answer, settings.AsksAbout system path → detect path = .ok answer →
      answer.isPseudo = true →
      settings.classifyWith system detect path = .classified answer ∧ answer.IsRejected := by
  obtain ⟨blockLabel, configLabel⟩ := isPseudo_labels_of_valid (fault?_of_load loaded)
  refine ⟨?_, ?_, ?_⟩
  · intro content route read
    exact ⟨_, classifyWith_blockComment route read, rfl, .of_not_isPseudo blockLabel⟩
  · intro content answer route read kind answers named
    refine ⟨_, classifyWith_json route read kind answers, ?_⟩
    rw [if_neg (ne_true_of_eq_false named)]
    exact ⟨rfl, .of_not_isPseudo configLabel⟩
  · intro answer asks answers pseudo
    exact ⟨classifyWith_of_isPseudo asks answers pseudo, .of_isPseudo pseudo⟩

/-- The standard settings with another label for files with block comments. -/
def standardUnder (label : String) : Settings :=
  { standard with blockComment := { BlockRule.standard with label } }

/-- A directory with settings that name a label, and with files for each route; one of
them is empty. -/
def systemOfSettings : FileSystem :=
  ⟨[.directory "work"
    [.file "census.json" (stringBytes "\x7b\"block_comment\": \x7b\"label\": \"Pascal\"\x7d\x7d"),
      .file "unit.al" (stringBytes "begin\nend.\n"), .file "tsconfig.json" (stringBytes "[1]\n"),
      .file "launch.json" [], .file "main.py" []]], ["work"]⟩

/-- Under the label of the loaded settings a file is accepted, and so is JSON that holds
settings, whereas empty files are rejected on the two other routes. -/
theorem load_settles_acceptance_systemOfSettings :
    load systemOfSettings (some "census.json") = .ok (standardUnder "Pascal") ∧
      (∃ file, (standardUnder "Pascal").classify systemOfSettings "unit.al" = .classified file ∧
        file.label = "Pascal" ∧ file.IsAccepted) ∧
      (∃ file, (standardUnder "Pascal").classify systemOfSettings "tsconfig.json" =
          .classified file ∧ file.label = "JSON (config)" ∧ file.IsAccepted) ∧
      (∃ file, (standardUnder "Pascal").classify systemOfSettings "launch.json" =
        .classified file ∧ file.IsRejected) ∧
      ∃ file, (standardUnder "Pascal").classify systemOfSettings "main.py" = .classified file ∧
        file.IsRejected := by
  have loaded : load systemOfSettings (some "census.json") = .ok (standardUnder "Pascal") := by
    decide +kernel
  have settles := load_settles_acceptance loaded systemOfSettings (.generic systemOfSettings)
  obtain ⟨blockComment, -, -⟩ := settles "unit.al"
  obtain ⟨-, json, -⟩ := settles "tsconfig.json"
  obtain ⟨-, -, emptyJson⟩ := settles "launch.json"
  obtain ⟨-, -, emptyPython⟩ := settles "main.py"
  refine ⟨loaded, blockComment _ (by decide +kernel) rfl, ?_, ?_, ?_⟩
  · exact json _ _ (by decide +kernel) rfl (by decide +kernel) rfl (by decide +kernel)
  · exact ⟨_, emptyJson (.pseudo "launch.json" Label.empty)
      (.inr ⟨by decide +kernel, [], rfl, by decide +kernel⟩) rfl rfl⟩
  · exact ⟨_, emptyPython (.pseudo "main.py" Label.empty) (.inl (by decide +kernel)) rfl rfl⟩

end Settings

end SourceLines
